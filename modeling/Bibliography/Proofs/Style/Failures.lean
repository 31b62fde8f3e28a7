import Bibliography.Proofs.Style.Compositional
import Bibliography.Style.Output

/-
  The errors that running a style can end with.

  A run ends with an error of an operation, with stack underflow,
  or because an entry is not there.  Errors of reading, labelling
  and storing a database do not arise in it.

  Key definitions include:
    * `ErrorKind.ArisesInRun`
    * `Outcome.FailsWithin`

  Key statements include:
    * `Machine.compositional_failsWithin`
    * `Program.runStyle_failsWithin`
-/

------------------------------------------------------------
-- Failures of Outcomes
------------------------------------------------------------

namespace Bibliography

/- The causes of errors that a run can end with. -/
def ErrorKind.ArisesInRun (k : ErrorKind) : Prop :=
  k.isOwn = true ∨ k.category = .interpreter

namespace Outcome

variable {α β : Type}
variable {K : ErrorKind → Prop}

/- If the outcome is an error, then its cause is one of these. -/
def FailsWithin
    (K : ErrorKind → Prop)
    (o : Outcome α) : Prop :=
  ∀ e m, o = .finished (.error e) m → K e.kind

theorem failsWithin_ok
    (a : α)
    (m : Machine) : (finished (.ok a) m).FailsWithin K := by
  intro e n hEq
  cases hEq

theorem failsWithin_error
    {e : Error}
    (h : K e.kind)
    (m : Machine) :
    (finished (.error e : Except Error α) m).FailsWithin K := by
  rintro _ _ ⟨⟩
  exact h

theorem failsWithin_unfinished :
    (unfinished : Outcome α).FailsWithin K := by
  intro e m hEq
  cases hEq

theorem FailsWithin.andThen
    {o : Outcome α}
    {next : α → Machine → Outcome β}
    (h : o.FailsWithin K)
    (hNext : ∀ a m, (next a m).FailsWithin K) :
    (o.andThen next).FailsWithin K := by
  cases o with
  | unfinished => exact failsWithin_unfinished
  | finished result m =>
      cases result with
      | ok a => exact hNext a m
      | error e => exact failsWithin_error (h e m rfl) m

/- A frame does not change the cause. -/
theorem FailsWithin.inFrame
    {o : Outcome α}
    (h : o.FailsWithin K)
    (frame : Text) :
    (o.mapError (·.inFrame frame)).FailsWithin K := by
  cases o with
  | unfinished => exact failsWithin_unfinished
  | finished result m =>
      cases result with
      | ok a => exact failsWithin_ok a m
      | error e =>
          have hCause : K (e.inFrame frame).kind := h e m rfl
          exact failsWithin_error hCause m

end Outcome

------------------------------------------------------------
-- Failures of Runs
------------------------------------------------------------

namespace Machine

open Outcome

variable {s : Setting}

/- Assignment fails because of types or missing variables. -/
theorem assign_failsWithin
    (name : Text)
    (v : Value)
    (m : Machine) :
    ((assign s name v).outcome m).FailsWithin
      ErrorKind.ArisesInRun := by
  have hTyped : ∀ (old : Value) (e : Error),
      old.assignedOver v = .error e →
      ErrorKind.ArisesInRun e.kind := by
    intro old e hEq
    exact Or.inl (OwnErrors.assignedOver old v e hEq).kind
  unfold assign Action.outcome
  dsimp only
  split
  · split
    · rename_i e hEq
      exact failsWithin_error (hTyped _ e hEq) m
    · exact failsWithin_ok _ _
  · split
    · exact failsWithin_error (Or.inl rfl) m
    · split
      · exact failsWithin_error (Or.inl rfl) m
      · split
        · rename_i e hEq
          exact failsWithin_error (hTyped _ e hEq) m
        · exact failsWithin_ok _ _

/- Whatever is composed fails with such a cause. -/
theorem compositional_failsWithin :
    Watched.Compositional s (fun _ w => ∀ m,
      (w m).outcome.FailsWithin ErrorKind.ArisesInRun) where
  endless := fun _ => failsWithin_unfinished
  ofExcept := by
    intro α result hOwn m
    cases result with
    | ok a => exact failsWithin_ok a m
    | error e => exact failsWithin_error (Or.inl (hOwn e rfl).kind) m
  push := fun _ _ => failsWithin_ok _ _
  pop := by
    intro operation m
    rcases m with ⟨_ | ⟨v, rest⟩, _, _, _, _, _, _, _⟩
    · exact failsWithin_error (Or.inr rfl) _
    · exact failsWithin_ok _ _
  report := fun _ _ => failsWithin_ok _ _
  warn := fun _ _ => failsWithin_ok _ _
  write := fun _ _ => failsWithin_ok _ _
  assign := assign_failsWithin
  currentKey := by
    intro operation m
    rcases m with ⟨_, _, _, _ | key, _, _, _, _⟩
    · exact failsWithin_error (Or.inl rfl) _
    · exact failsWithin_ok _ _
  showStack := fun _ => failsWithin_ok _ _
  andThen := by
    intro α β w next hFirst hNext m
    rw [Watched.outcome_andThen]
    exact (hFirst m).andThen hNext
  inFrame := fun frame _ hRun m => (hRun m).inFrame frame
  part := fun _ _ hRun => hRun
  traced := fun i _ hRun m => hRun (m.traced i)
  byMeaning := fun name _ hRun m => hRun (m.meaning s name) m

theorem execute_failsWithin
    (fuel : Nat)
    (code : List Instruction)
    (m : Machine) :
    (execute s fuel code m).FailsWithin ErrorKind.ArisesInRun := by
  have hRun := (@compositional_failsWithin s).observe fuel (.code code) m
  rwa [outcome_observe] at hRun

/- An entry that is not there is the one further cause. -/
theorem formatEntry_failsWithin
    (fuel : Nat)
    (key : Text)
    (m : Machine) :
    (formatEntry s fuel key m).FailsWithin ErrorKind.ArisesInRun := by
  have hBegin : ((beginEntry s key).outcome m).FailsWithin
      ErrorKind.ArisesInRun := by
    unfold beginEntry Action.outcome
    dsimp only
    split
    · exact failsWithin_error (Or.inr rfl) m
    · exact failsWithin_ok _ _
  unfold formatEntry
  refine hBegin.andThen ?_
  intro _ m₁
  have hRun := @execute_failsWithin s fuel s.program.entryRoutine m₁
  split
  · exact failsWithin_unfinished
  · rename_i result m₂ hEnd
    dsimp only
    split
    · rename_i e
      exact failsWithin_error (hRun e m₂ hEnd) _
    · exact failsWithin_ok _ _

end Machine

------------------------------------------------------------
-- Failures of Styles
------------------------------------------------------------

open Outcome

theorem Setting.formatEntries_failsWithin
    (s : Setting)
    (t : Table)
    (fuel : Nat)
    (done : List FormattedEntry)
    (keys : List Text)
    (m : Machine) :
    (s.formatEntries t fuel done keys m).FailsWithin
      ErrorKind.ArisesInRun := by
  induction keys generalizing done m with
  | nil => exact failsWithin_ok _ _
  | cons key rest ih =>
      unfold formatEntries
      cases t.find? key with
      | none => exact (failsWithin_ok _ _).andThen (fun _ m => ih _ m)
      | some item =>
          refine ((Machine.formatEntry_failsWithin _ _ _).inFrame
            _).andThen ?_
          intro text m₁
          exact ih _ m₁

/- A style fails with a cause that arises in runs. -/
theorem Program.runStyle_failsWithin
    (p : Program)
    (t : Table)
    (fuel : Nat)
    (keys : List Text) :
    (p.runStyle t fuel keys).FailsWithin ErrorKind.ArisesInRun := by
  unfold runStyle
  refine ((Machine.execute_failsWithin _ _ _).inFrame _).andThen ?_
  intro _ m₁
  refine (Setting.formatEntries_failsWithin _ _ _ _ _ _).andThen ?_
  intro entries m₂
  refine ((Machine.execute_failsWithin _ _ _).inFrame _).andThen ?_
  intro _ m₃
  exact failsWithin_ok _ _

end Bibliography
