import Bibliography.Proofs.Style.Compositional

/-
  Relations between machines that running code respects.

  If the primitive operations take related machines to related
  machines with the same result, then so does every job, since
  related outcomes compose.  What a style can see of a machine is
  what the primitive operations can see.

  Key definitions include:
    * `Action.Respects`
    * `Machine.Congruence`
    * `Outcome.Corresponds`
    * `Machine.RunsAlike`

  Key statements include:
    * `Outcome.Corresponds.andThen`
    * `Machine.Congruence.compositional`
    * `Machine.Congruence.run`
-/

------------------------------------------------------------
-- Actions
------------------------------------------------------------

namespace Bibliography

namespace Action

/- From related machines: the same result, and related machines. -/
def Respects
    {α : Type}
    (R : Machine → Machine → Prop)
    (x : Action α) : Prop :=
  ∀ m m', R m m' →
    (x m).1 = (x m').1 ∧ R (x m).2 (x m').2

end Action

------------------------------------------------------------
-- Primitive Operations
------------------------------------------------------------

namespace Machine

/-
  A relation that the primitive operations respect, and whose
  machines agree on what names mean.
-/
structure Congruence
    (s : Setting)
    (R : Machine → Machine → Prop) : Prop where
  push : ∀ v, (push v).Respects R
  pop : ∀ operation, (pop operation).Respects R
  showStack : (Operation.perform s .showStack).Respects R
  report : ∀ event, (report event).Respects R
  warn : ∀ message, (warn message).Respects R
  write : ∀ t, (write t).Respects R
  assign : ∀ name v, (assign s name v).Respects R
  currentKey : ∀ operation, (currentKey operation).Respects R
  meaning : ∀ m m' name, R m m' → m.meaning s name = m'.meaning s name
  traced : ∀ m m' i, R m m' → R (m.traced i) (m'.traced i)

end Machine

------------------------------------------------------------
-- Outcomes
------------------------------------------------------------

/- Both ended with the same result, or neither did. -/
inductive Outcome.Corresponds
    {α : Type}
    (R : Machine → Machine → Prop) : Outcome α → Outcome α → Prop
  | finished
      (result : Except Error α)
      {m m' : Machine}
      (h : R m m') :
      Corresponds R (.finished result m) (.finished result m')
  | unfinished : Corresponds R .unfinished .unfinished

namespace Outcome

variable {R : Machine → Machine → Prop}
variable {α β : Type}

theorem Corresponds.andThen
    {o o' : Outcome α}
    {next next' : α → Machine → Outcome β}
    (h : o.Corresponds R o')
    (hNext : ∀ a m m', R m m' →
      (next a m).Corresponds R (next' a m')) :
    (o.andThen next).Corresponds R (o'.andThen next') := by
  cases h with
  | unfinished => exact .unfinished
  | finished result hAfter =>
      cases result with
      | ok a => exact hNext a _ _ hAfter
      | error e => exact .finished _ hAfter

theorem Corresponds.mapError
    {o o' : Outcome α}
    (h : o.Corresponds R o')
    (f : Error → Error) :
    (o.mapError f).Corresponds R (o'.mapError f) := by
  cases h with
  | unfinished => exact .unfinished
  | finished result hAfter =>
      cases result with
      | ok a => exact .finished _ hAfter
      | error e => exact .finished _ hAfter

/- An action that respects the relation has such outcomes. -/
theorem corresponds_of_respects
    {x : Action α}
    (hx : x.Respects R)
    {m m' : Machine}
    (h : R m m') :
    (x.outcome m).Corresponds R (x.outcome m') := by
  have hBoth := hx m m' h
  unfold Action.outcome
  rw [← hBoth.1]
  exact .finished _ hBoth.2

end Outcome

------------------------------------------------------------
-- Jobs
------------------------------------------------------------

namespace Machine

open Outcome

variable {s : Setting}
variable {R : Machine → Machine → Prop}

/- Related machines have related outcomes, whatever is composed. -/
theorem Congruence.compositional
    (h : Congruence s R) :
    Watched.Compositional s (fun _ w => ∀ m m', R m m' →
      (w m).outcome.Corresponds R (w m').outcome) where
  endless := fun _ _ _ => .unfinished
  ofExcept := by
    intro α result _ m m' hSame
    cases result with
    | ok a => exact .finished _ hSame
    | error e => exact .finished _ hSame
  push := fun v _ _ hSame => corresponds_of_respects (h.push v) hSame
  pop := fun _ _ _ hSame => corresponds_of_respects (h.pop _) hSame
  report := fun _ _ _ hSame =>
    corresponds_of_respects (h.report _) hSame
  warn := fun _ _ _ hSame => corresponds_of_respects (h.warn _) hSame
  write := fun _ _ _ hSame =>
    corresponds_of_respects (h.write _) hSame
  assign := fun name v _ _ hSame =>
    corresponds_of_respects (h.assign name v) hSame
  currentKey := fun _ _ _ hSame =>
    corresponds_of_respects (h.currentKey _) hSame
  showStack := fun _ _ hSame =>
    corresponds_of_respects h.showStack hSame
  andThen := by
    intro α β w next hFirst hNext m m' hSame
    rw [Watched.outcome_andThen, Watched.outcome_andThen]
    exact (hFirst m m' hSame).andThen hNext
  inFrame := fun _ _ hRun m m' hSame =>
    (hRun m m' hSame).mapError _
  part := fun _ _ hRun => hRun
  traced := fun i _ hRun m m' hSame =>
    hRun _ _ (h.traced m m' i hSame)
  byMeaning := by
    intro name w hRun m m' hSame
    unfold Watched.byMeaning
    rw [h.meaning m m' name hSame]
    exact hRun _ m m' hSame

/- All jobs respect the relation with an amount of fuel. -/
def RunsAlike
    (s : Setting)
    (R : Machine → Machine → Prop)
    (fuel : Nat) : Prop :=
  ∀ job m m', R m m' →
    (Machine.run s fuel job m).Corresponds R
      (Machine.run s fuel job m')

/- Every job respects the relation, with any amount of fuel. -/
theorem Congruence.run
    (h : Congruence s R)
    (fuel : Nat) : RunsAlike s R fuel := by
  intro job m m' hSame
  have hWatched := h.compositional.observe fuel job m m' hSame
  rw [outcome_observe, outcome_observe] at hWatched
  exact hWatched

end Machine

end Bibliography
