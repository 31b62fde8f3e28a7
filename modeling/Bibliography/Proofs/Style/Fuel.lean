import Bibliography.Style.Evaluation

/-
  Fuel does not change results.

  A job that ends with some fuel ends in the same way with more.
  So what a program does from a state is determined without
  speaking of fuel: it formats an entry in one way, or never ends.

  Key definitions include:
    * `Outcome.Refines`
    * `Machine.Formats`

  Key statements include:
    * `Machine.run_succ`
    * `Machine.formatEntry_le`
    * `Machine.Formats.unique`
-/

------------------------------------------------------------
-- Outcomes with More Fuel
------------------------------------------------------------

namespace Bibliography

namespace Outcome

variable {α β : Type}

/- The first outcome is unfinished, or the two are the same. -/
def Refines (o o' : Outcome α) : Prop :=
  o = .unfinished ∨ o = o'

theorem Refines.refl (o : Outcome α) : o.Refines o :=
  Or.inr rfl

theorem Refines.trans
    {o o' o'' : Outcome α}
    (h : o.Refines o')
    (h' : o'.Refines o'') : o.Refines o'' := by
  rcases h with rfl | rfl
  · exact Or.inl rfl
  · exact h'

/- A finished outcome is the one that it refines to. -/
theorem Refines.eq_finished
    {o' : Outcome α}
    {result : Except Error α}
    {m : Machine}
    (h : (finished result m).Refines o') :
    o' = .finished result m := by
  rcases h with hEq | hEq
  · cases hEq
  · exact hEq.symm

/- What follows may have more fuel, too. -/
theorem Refines.andThen
    {o o' : Outcome α}
    {next next' : α → Machine → Outcome β}
    (h : o.Refines o')
    (hNext : ∀ a m, (next a m).Refines (next' a m)) :
    (o.andThen next).Refines (o'.andThen next') := by
  rcases h with rfl | rfl
  · exact Or.inl rfl
  · cases o with
    | unfinished => exact Or.inl rfl
    | finished result m =>
        cases result with
        | error e => exact .refl _
        | ok a => exact hNext a m

theorem Refines.mapError
    {o o' : Outcome α}
    (h : o.Refines o')
    (f : Error → Error) :
    (o.mapError f).Refines (o'.mapError f) := by
  rcases h with rfl | rfl
  · exact Or.inl rfl
  · exact .refl _

end Outcome

------------------------------------------------------------
-- Jobs with More Fuel
------------------------------------------------------------

namespace Machine

variable {s : Setting}

/- One more unit of fuel; the induction is on the fuel. -/
theorem run_succ
    (fuel : Nat)
    (job : Job)
    (m : Machine) :
    (run s fuel job m).Refines (run s (fuel + 1) job m) := by
  induction fuel generalizing job m with
  | zero => exact Or.inl rfl
  | succ fuel ih =>
      cases job with
      | code is =>
          cases is with
          | nil => exact .refl _
          | cons i rest =>
              unfold run
              refine Outcome.Refines.andThen ?_
                (fun _ m => ih (.code rest) m)
              cases i with
              | call name => exact ih (.symbol name) _
              | _ => exact .refl _
      | callable c =>
          cases c with
          | named name => exact ih (.symbol name) m
          | body code => exact ih (.code code) m
      | symbol name =>
          unfold run
          cases m.meaning s name with
          | function body => exact (ih (.code body) m).mapError _
          | builtin b =>
              cases b with
              | operation o => exact .refl _
              | control c =>
                  cases c with
                  | callType =>
                      exact (Outcome.Refines.refl _).andThen
                        (fun name m => ih (.symbol name) m)
                  | conditional =>
                      exact (Outcome.Refines.refl _).andThen
                        (fun branch m => ih (.callable branch) m)
                  | loop =>
                      exact (Outcome.Refines.refl _).andThen
                        (fun parts m => ih (.loop parts.1 parts.2) m)
          | _ => exact .refl _
      | loop test body =>
          unfold run
          apply (ih (.callable test) m).andThen
          intro _ m₁
          apply (Outcome.Refines.refl _).andThen
          intro n m₂
          split
          · apply (ih (.callable body) m₂).andThen
            intro _ m₃
            exact ih (.loop test body) m₃
          · exact .refl _

theorem run_le
    {fuel fuel' : Nat}
    (hLe : fuel ≤ fuel')
    (job : Job)
    (m : Machine) :
    (run s fuel job m).Refines (run s fuel' job m) := by
  induction hLe with
  | refl => exact .refl _
  | step _ ih => exact ih.trans (run_succ _ job m)

------------------------------------------------------------
-- Entries without Fuel
------------------------------------------------------------

/- More fuel formats an entry in the same way. -/
theorem formatEntry_le
    {fuel fuel' : Nat}
    (hLe : fuel ≤ fuel')
    (key : Text)
    (m : Machine) :
    (formatEntry s fuel key m).Refines
      (formatEntry s fuel' key m) := by
  unfold formatEntry
  apply (Outcome.Refines.refl _).andThen
  intro _ m₁
  have hRun := @run_le s _ _ hLe (.code s.program.entryRoutine) m₁
  unfold execute
  rcases hRun with hNone | hSame
  · rw [hNone]
    exact Or.inl rfl
  · rw [hSame]
    exact .refl _

/- The program formats an entry, with whatever fuel it needs. -/
def Formats
    (s : Setting)
    (key : Text)
    (m : Machine)
    (result : Except Error Text)
    (m' : Machine) : Prop :=
  ∃ fuel, formatEntry s fuel key m = .finished result m'

/- It does so in one way only. -/
theorem Formats.unique
    {key : Text}
    {m m₁ m₂ : Machine}
    {r₁ r₂ : Except Error Text}
    (h₁ : Formats s key m r₁ m₁)
    (h₂ : Formats s key m r₂ m₂) :
    r₁ = r₂ ∧ m₁ = m₂ := by
  rcases h₁ with ⟨fuel₁, hRun₁⟩
  rcases h₂ with ⟨fuel₂, hRun₂⟩
  have hMore₁ := @formatEntry_le s fuel₁ (max fuel₁ fuel₂)
    (Nat.le_max_left ..) key m
  have hMore₂ := @formatEntry_le s fuel₂ (max fuel₁ fuel₂)
    (Nat.le_max_right ..) key m
  rw [hRun₁] at hMore₁
  rw [hRun₂] at hMore₂
  have hEq := hMore₁.eq_finished.symm.trans hMore₂.eq_finished
  cases hEq
  exact ⟨rfl, rfl⟩

end Machine

end Bibliography
