import Bibliography.Proofs.Style.Fuel
import Bibliography.Proofs.Style.Stepping

/-
  Jobs whose steps come to an end.

  If there is no endless sequence of steps from a job, then some
  amount of fuel is enough to run it.  The parts of a job are
  reached by steps from it, so they end as well, and the greatest
  of the amounts that they need is enough for all.

  Key definitions include:
    * `Outcome.Settles`
    * `Configuration.Ends`

  Key statements include:
    * `Outcome.Settles.andThen`
    * `Machine.settles_run`
-/

------------------------------------------------------------
-- Outcomes that Settle
------------------------------------------------------------

namespace Bibliography

namespace Outcome

variable {α β : Type}

/-
  With some fuel there is an end, and more fuel does not change
  it.
-/
structure Settles (o : Nat → Outcome α) : Prop where
  refines : ∀ {fuel fuel' : Nat}, fuel ≤ fuel' →
    (o fuel).Refines (o fuel')
  finished : ∃ fuel result m, o fuel = .finished result m

theorem settles_finished
    (result : Except Error α)
    (m : Machine) : Settles (fun _ => finished result m) where
  refines := fun _ => .refl _
  finished := ⟨0, result, m, rfl⟩

/- The greater amount of fuel is enough for both parts. -/
theorem Settles.andThen
    {o : Nat → Outcome α}
    {next : Nat → α → Machine → Outcome β}
    (h : Settles o)
    (hRefines : ∀ {fuel fuel' : Nat}, fuel ≤ fuel' → ∀ a m,
      (next fuel a m).Refines (next fuel' a m))
    (hNext : ∀ fuel a m, o fuel = .finished (.ok a) m →
      Settles (fun fuel => next fuel a m)) :
    Settles (fun fuel => (o fuel).andThen (next fuel)) where
  refines := by
    intro fuel fuel' hLe
    exact (h.refines hLe).andThen (hRefines hLe)
  finished := by
    rcases h.finished with ⟨fuel, result, m, hFirst⟩
    cases result with
    | error e =>
        refine ⟨fuel, .error e, m, ?_⟩
        rw [hFirst]
        rfl
    | ok a =>
        have hSettles := hNext fuel a m hFirst
        rcases hSettles.finished with ⟨fuel', result, n, hSecond⟩
        have hMore := h.refines (Nat.le_max_left fuel fuel')
        have hMore' :=
          hSettles.refines (Nat.le_max_right fuel fuel')
        rw [hFirst] at hMore
        rw [hSecond] at hMore'
        refine ⟨max fuel fuel', result, n, ?_⟩
        rw [hMore.eq_finished]
        exact hMore'.eq_finished

theorem Settles.mapError
    {o : Nat → Outcome α}
    (h : Settles o)
    (f : Error → Error) :
    Settles (fun fuel => (o fuel).mapError f) where
  refines := fun hLe => (h.refines hLe).mapError f
  finished := by
    rcases h.finished with ⟨fuel, result, m, hEnd⟩
    cases result with
    | error e => exact ⟨fuel, .error (f e), m, by rw [hEnd]; rfl⟩
    | ok a => exact ⟨fuel, .ok a, m, by rw [hEnd]; rfl⟩

end Outcome

------------------------------------------------------------
-- Steps that End
------------------------------------------------------------

namespace Configuration

/- There is no endless sequence of steps from a configuration. -/
def Ends
    (s : Setting)
    (c : Configuration) : Prop :=
  Acc (fun c' c : Configuration => c.step s = .goes c') c

end Configuration

namespace Machine

open Outcome Bibliography.Configuration

variable {s : Setting}

theorem settles_succ
    {job : Job}
    {m : Machine}
    (h : Settles (fun fuel => run s (fuel + 1) job m)) :
    Settles (fun fuel => run s fuel job m) where
  refines := fun hLe => run_le hLe job m
  finished := by
    rcases h.finished with ⟨fuel, result, n, hEnd⟩
    exact ⟨fuel + 1, result, n, hEnd⟩

variable {c : Configuration}

/-
  Every job that comes to be done after at least one step has an
  outcome.
-/
def LaterSettle
    (s : Setting)
    (c : Configuration) : Prop :=
  ∀ c', c.step s = .goes c' → ∀ job rest m,
    Reaches s c' ⟨.job job :: rest, m⟩ →
      Settles (fun fuel => run s fuel job m)

variable {m : Machine}
variable {rest : List Task}

/- A part that is begun with the first step, and what follows it. -/
theorem LaterSettle.andThen
    {job next : Job}
    {m' : Machine}
    {more : List Task}
    (h : LaterSettle s c)
    (hStep : c.step s = .goes ⟨.job job :: .job next :: more, m'⟩) :
    Settles (fun fuel =>
      (run s fuel job m').andThen
        fun _ n => run s fuel next n) := by
  refine (h _ hStep job _ m' .refl).andThen ?_ ?_
  · intro fuel fuel' hLe _ n
    exact run_le hLe next n
  · intro fuel a n hEnd
    have hFollows := follows_run (s := s) fuel job m'
      (.job next :: more)
    rcases hFollows.success a n hEnd with ⟨hReaches, _⟩
    exact h _ hStep next more n hReaches

/- Instructions settle if what they lead to does. -/
theorem settles_code
    {i : Instruction}
    {is : List Instruction}
    (h : LaterSettle s ⟨.job (.code (i :: is)) :: rest, m⟩) :
    Settles (fun fuel => run s fuel (.code (i :: is)) m) := by
  apply settles_succ
  have hPush : ∀ v,
      step s ⟨.job (.code (i :: is)) :: rest, m⟩ =
        attempt (push v) (fun _ => .job (.code is) :: rest)
          (m.traced i) →
      Settles (fun fuel =>
        ((push v).outcome (m.traced i)).andThen
          fun _ n => run s fuel (.code is) n) := by
    intro v hStep
    exact h _ hStep (.code is) rest _ .refl
  unfold run
  cases i with
  | string t => exact hPush _ rfl
  | integer n => exact hPush _ rfl
  | quoted name => exact hPush _ rfl
  | block body => exact hPush _ rfl
  | call name => exact h.andThen rfl

/- An operation, and the job that is begun with its value. -/
theorem LaterSettle.attempt
    {α : Type}
    {x : Action α}
    {job : α → Job}
    (h : LaterSettle s c)
    (hStep : c.step s =
      Configuration.attempt x (fun a => .job (job a) :: rest) m) :
    Settles (fun fuel =>
      (x.outcome m).andThen
        fun a n => run s fuel (job a) n) := by
  unfold Configuration.attempt at hStep
  unfold Action.outcome
  rcases hResult : x m with ⟨result, n⟩
  rw [hResult] at hStep
  cases result with
  | error e => exact settles_finished (.error e) n
  | ok a => exact h _ hStep (job a) rest n .refl

/- A name settles if the code behind it does. -/
theorem settles_symbol
    {name : Text}
    (h : LaterSettle s ⟨.job (.symbol name) :: rest, m⟩) :
    Settles (fun fuel => run s fuel (.symbol name) m) := by
  apply settles_succ
  have hStep : step s ⟨.job (.symbol name) :: rest, m⟩ =
      stepMeaning s name rest m (m.meaning s name) := rfl
  unfold run
  cases hMeaning : m.meaning s name with
  | value v => exact settles_finished _ _
  | outsideEntry => exact settles_finished _ _
  | undefined => exact settles_finished _ _
  | field =>
      dsimp only
      rw [← Action.outcome_bind]
      exact settles_finished _ _
  | function body =>
      rw [hMeaning] at hStep
      exact (h _ hStep (.code body) _ m .refl).mapError _
  | builtin b =>
      rw [hMeaning] at hStep
      cases b with
      | operation o => exact settles_finished _ _
      | control control =>
          cases control with
          | callType => exact h.attempt hStep
          | conditional => exact h.attempt hStep
          | loop => exact h.attempt hStep

/- What a loop does after its test. -/
def afterTest
    (s : Setting)
    (test body : Callable)
    (fuel : Nat)
    (m : Machine) : Outcome Unit :=
  ((popInteger Control.loop.name).outcome m).andThen fun n m =>
    if 0 < n then
      (run s fuel (.callable body) m).andThen
        fun _ m => run s fuel (.loop test body) m
    else .finished (.ok ()) m

theorem afterTest_le
    {test body : Callable}
    {fuel fuel' : Nat}
    (hLe : fuel ≤ fuel')
    (m : Machine) :
    (afterTest s test body fuel m).Refines
      (afterTest s test body fuel' m) := by
  apply (Refines.refl _).andThen
  intro n m'
  split
  · exact (run_le hLe _ m').andThen (fun _ m => run_le hLe _ m)
  · exact .refl _

/- After its test a loop settles if its body and itself do. -/
theorem settles_afterTest
    {test body : Callable}
    (hReaches : ∀ job rest' n,
      Reaches s ⟨.afterTest test body :: rest, m⟩
          ⟨.job job :: rest', n⟩ →
        Settles (fun fuel => run s fuel job n)) :
    Settles (fun fuel => afterTest s test body fuel m) := by
  have hStep : step s ⟨.afterTest test body :: rest, m⟩ =
      attempt (popInteger Control.loop.name)
        (fun n =>
          if 0 < n then
            .job (.callable body) :: .job (.loop test body) :: rest
          else rest) m := rfl
  unfold attempt at hStep
  unfold afterTest Action.outcome
  rcases hResult : popInteger Control.loop.name m with ⟨result, n⟩
  rw [hResult] at hStep
  cases result with
  | error e => exact settles_finished (.error e) n
  | ok k =>
      dsimp only [Outcome.andThen] at hStep ⊢
      split at hStep
      · rename_i hPositive
        simp only [if_pos hPositive]
        refine (hReaches (.callable body) _ n
          (.single hStep)).andThen ?_ ?_
        · intro fuel fuel' hLe _ n'
          exact run_le hLe _ n'
        · intro fuel a n' hEnd
          have hFollows := follows_run (s := s) fuel (.callable body)
            n (.job (.loop test body) :: rest)
          rcases hFollows.success a n' hEnd with ⟨hMore, _⟩
          exact hReaches (.loop test body) rest n'
            (hMore.head hStep)
      · rename_i hNot
        simp only [if_neg hNot]
        exact settles_finished (.ok ()) n

/- A loop settles if its test, its body and itself later do. -/
theorem settles_loop
    {test body : Callable}
    (h : LaterSettle s ⟨.job (.loop test body) :: rest, m⟩) :
    Settles (fun fuel => run s fuel (.loop test body) m) := by
  apply settles_succ
  change Settles (fun fuel =>
    (run s fuel (.callable test) m).andThen
      fun _ n => afterTest s test body fuel n)
  refine (h _ rfl (.callable test) _ m .refl).andThen ?_ ?_
  · intro fuel fuel' hLe _ n
    exact afterTest_le hLe n
  · intro fuel a n hEnd
    have hFollows := follows_run (s := s) fuel (.callable test) m
      (.afterTest test body :: rest)
    rcases hFollows.success a n hEnd with ⟨hTested, _⟩
    have hLater : ∀ job rest' n',
        Reaches s ⟨.afterTest test body :: rest, n⟩
            ⟨.job job :: rest', n'⟩ →
          Settles (fun fuel => run s fuel job n') := by
      intro job rest' n' hReaches
      exact h _ rfl job rest' n' (hTested.trans hReaches)
    exact settles_afterTest hLater

/- A job settles if every job that it leads to does. -/
theorem LaterSettle.settles
    {job : Job}
    (h : LaterSettle s ⟨.job job :: rest, m⟩) :
    Settles (fun fuel => run s fuel job m) := by
  cases job with
  | code is =>
      cases is with
      | nil => exact settles_succ (settles_finished (.ok ()) m)
      | cons i is => exact settles_code h
  | callable c =>
      apply settles_succ
      cases c with
      | named name => exact h _ rfl (.symbol name) rest m .refl
      | body code => exact h _ rfl (.code code) rest m .refl
  | symbol name => exact settles_symbol h
  | loop test body => exact settles_loop h

/- All that is reached by steps that come to an end settles. -/
theorem settles_of_reaches
    (h : Ends s c)
    {job : Job}
    (hReaches : Reaches s c ⟨.job job :: rest, m⟩) :
    Settles (fun fuel => run s fuel job m) := by
  induction h generalizing job rest m with
  | intro c _ ih =>
      rcases Relation.ReflTransGen.cases_head hReaches with
        rfl | ⟨c', hStep, hMore⟩
      · apply LaterSettle.settles
        intro c' hStep job' rest' m' hMore
        exact ih c' hStep hMore
      · exact ih c' hStep hMore

/-
  Where the steps from a job come to an end, the job has an
  outcome, whatever is to be done after it.
-/
theorem settles_run
    {job : Job}
    (h : Ends s ⟨.job job :: rest, m⟩) :
    Settles (fun fuel => run s fuel job m) :=
  settles_of_reaches h .refl

end Machine

end Bibliography
