import Bibliography.Proofs.Style.Compositional

/-
  Code does not see what lies below its operands.

  A run that ends without finding the stack empty ends in the same
  way with further values below the stack, and leaves them where
  they are.  Only the function that empties the stack is told
  apart; a run must not come to it.

  Key definitions include:
    * `NoUnderflow`
    * `Machine.Lowered`
    * `Outcome.Carries`

  Key statements include:
    * `Machine.compositional_lowered`
    * `Machine.execute_above`
-/

------------------------------------------------------------
-- Values Below the Stack
------------------------------------------------------------

namespace Bibliography

variable {α β : Type}

/- The result is not that an operation found the stack empty. -/
def NoUnderflow (result : Except Error α) : Prop :=
  ∀ e operation, result = .error e → e.kind ≠ .stackUnderflow operation

theorem noUnderflow_ok (a : α) : NoUnderflow (.ok a) := by
  intro e operation hEq
  cases hEq

/- Whatever value there might have been, the cause counts. -/
theorem noUnderflow_error_iff
    {e : Error} :
    NoUnderflow (.error e : Except Error α) ↔
      ∀ operation, e.kind ≠ .stackUnderflow operation := by
  constructor
  · intro h operation
    exact h e operation rfl
  · rintro h _ operation ⟨⟩
    exact h operation

namespace Machine

/- The second machine has values below the stack of the first. -/
def Lowered
    (below : List Value)
    (m m' : Machine) : Prop :=
  ∃ log, m' = { m with stack := m.stack ++ below, log := log }

end Machine

namespace Outcome

/-
  If the first outcome is an end without stack underflow, then the
  second is the same end, with values below the stack.
-/
def Carries
    (below : List Value)
    (o o' : Outcome α) : Prop :=
  ∀ result m, o = .finished result m → NoUnderflow result →
    ∃ m', o' = .finished result m' ∧ m.Lowered below m'

variable {below : List Value}

/- The same result in machines of which one has values below. -/
theorem carries_finished
    (result : Except Error α)
    {m m' : Machine}
    (h : m.Lowered below m') :
    (finished result m).Carries below (finished result m') := by
  intro result' n hEq _
  cases hEq
  exact ⟨m', rfl, h⟩

/- A frame does not change the cause of an error. -/
theorem Carries.inFrame
    {o o' : Outcome α}
    (h : o.Carries below o')
    (frame : Text) :
    (o.mapError (·.inFrame frame)).Carries below
      (o'.mapError (·.inFrame frame)) := by
  intro result m hEq hEnough
  cases o with
  | unfinished => cases hEq
  | finished first n =>
      cases first with
      | ok a =>
          cases hEq
          rcases h _ _ rfl hEnough with ⟨m', rfl, hAfter⟩
          exact ⟨m', rfl, hAfter⟩
      | error e =>
          cases hEq
          have hNot := noUnderflow_error_iff.1 hEnough
          have hCause : NoUnderflow (.error e : Except Error α) :=
            noUnderflow_error_iff.2 hNot
          rcases h _ _ rfl hCause with ⟨m', rfl, hAfter⟩
          exact ⟨m', rfl, hAfter⟩

end Outcome

------------------------------------------------------------
-- Runs above Other Values
------------------------------------------------------------

namespace Machine

variable {s : Setting}
variable {below : List Value}

/- Popping fails, or takes what is above. -/
theorem pop_carries
    (operation : Text)
    {m m' : Machine}
    (h : m.Lowered below m') :
    ((pop operation).outcome m).Carries below
      ((pop operation).outcome m') := by
  rcases h with ⟨log, rfl⟩
  unfold pop Action.outcome
  dsimp only
  cases m.stack with
  | nil =>
      intro result n hEq hEnough
      cases hEq
      exact absurd rfl (noUnderflow_error_iff.1 hEnough operation)
  | cons v rest => exact Outcome.carries_finished _ ⟨log, rfl⟩

/- Assignment reads and changes variables only. -/
theorem assign_carries
    (name : Text)
    (v : Value)
    {m m' : Machine}
    (h : m.Lowered below m') :
    ((assign s name v).outcome m).Carries below
      ((assign s name v).outcome m') := by
  rcases h with ⟨log, rfl⟩
  unfold assign Action.outcome
  dsimp only
  cases m.locals.get? name with
  | some old =>
      dsimp only
      cases old.assignedOver v <;>
        exact Outcome.carries_finished _ ⟨log, rfl⟩
  | none =>
      dsimp only
      split
      · exact Outcome.carries_finished _ ⟨log, rfl⟩
      · cases m.globals.get? name with
        | none => exact Outcome.carries_finished _ ⟨log, rfl⟩
        | some old =>
            dsimp only
            cases old.assignedOver v <;>
              exact Outcome.carries_finished _ ⟨log, rfl⟩

/-
  Values below the stack stay where they are, whatever is
  composed, unless the function that empties the stack is run.
-/
theorem compositional_lowered :
    Watched.Compositional s (fun _ w => ∀ m m', m.Lowered below m' →
      Builtin.operation .showStack ∉ (w m).builtins →
        (w m).outcome.Carries below (w m').outcome) where
  endless := by
    intro m m' _ _ result n hEq
    cases hEq
  ofExcept := by
    intro α result _ m m' hLow _
    cases result with
    | ok a => exact Outcome.carries_finished _ hLow
    | error e => exact Outcome.carries_finished _ hLow
  push := by
    rintro v m _ ⟨log, rfl⟩ _
    exact Outcome.carries_finished _ ⟨log, rfl⟩
  pop := fun operation _ _ hLow _ => pop_carries operation hLow
  report := by
    rintro event m _ ⟨log, rfl⟩ _
    exact Outcome.carries_finished _ ⟨log ++ [event], rfl⟩
  warn := by
    rintro message m _ ⟨log, rfl⟩ _
    exact Outcome.carries_finished _ ⟨log ++ [.warning message], rfl⟩
  write := by
    rintro t m _ ⟨log, rfl⟩ _
    exact Outcome.carries_finished _ ⟨log, rfl⟩
  assign := fun name v _ _ hLow _ => assign_carries name v hLow
  currentKey := by
    rintro operation m _ ⟨log, rfl⟩ _
    rcases m with ⟨_, _, _, _ | key, _, _, _, _⟩
    · exact Outcome.carries_finished _ ⟨log, rfl⟩
    · exact Outcome.carries_finished _ ⟨log, rfl⟩
  showStack := by
    intro m m' _ hQuiet
    exact absurd List.mem_cons_self hQuiet
  andThen := by
    intro α β w next hFirst hNext m m' hLow hQuiet
    have hBefore := hFirst m m' hLow
      (fun hMem => hQuiet (Watched.mem_andThen_of_first hMem))
    rw [Watched.outcome_andThen, Watched.outcome_andThen]
    cases hOutcome : (w m).outcome with
    | unfinished =>
        intro result n hEq
        cases hEq
    | finished first m₁ =>
        cases first with
        | ok a =>
            rcases hBefore _ _ hOutcome (noUnderflow_ok a) with
              ⟨m₁', hSame, hLow₁⟩
            rw [hSame]
            exact hNext a m₁ m₁' hLow₁ (fun hMem =>
              hQuiet (Watched.mem_andThen_of_next hOutcome hMem))
        | error e =>
            intro result n hEq hEnough
            cases hEq
            have hCause : NoUnderflow (.error e : Except Error α) :=
              noUnderflow_error_iff.2 (noUnderflow_error_iff.1 hEnough)
            rcases hBefore _ _ hOutcome hCause with ⟨m₁', hSame, hLow₁⟩
            rw [hSame]
            exact ⟨m₁', rfl, hLow₁⟩
  inFrame := fun frame _ hRun m m' hLow hQuiet =>
    (hRun m m' hLow hQuiet).inFrame frame
  part := fun _ _ hRun m m' hLow hQuiet =>
    hRun m m' hLow (fun hMem => hQuiet (List.mem_cons_of_mem _ hMem))
  traced := by
    rintro i w hRun m _ ⟨log, rfl⟩ hQuiet
    apply hRun _ _ _ hQuiet
    rcases traced_log m i with ⟨first, hFirst⟩
    rcases traced_log { m with stack := m.stack ++ below, log := log }
      i with ⟨second, hSecond⟩
    rw [hFirst, hSecond]
    exact ⟨second, rfl⟩
  byMeaning := by
    rintro name w hRun m _ ⟨log, rfl⟩ hQuiet
    exact hRun _ m _ ⟨log, rfl⟩ hQuiet

------------------------------------------------------------
-- Code above Other Values
------------------------------------------------------------

/-
  Code that ends without stack underflow, and without coming to
  the function that empties the stack, does the same above other
  values: it has the same result and the same effects, and leaves
  those values alone.  Stacks have their top first here.
-/
theorem execute_above
    (s : Setting)
    (fuel : Nat)
    (code : List Instruction)
    (m n : Machine)
    (result : Except Error Unit)
    (below : List Value)
    (hRun : execute s fuel code m = .finished result n)
    (hEnough : NoUnderflow result)
    (hQuiet : Builtin.operation .showStack ∉
      (observe s fuel (.code code) m).builtins) :
    ∃ log,
      execute s fuel code { m with stack := m.stack ++ below } =
        .finished result
          { n with stack := n.stack ++ below, log := log } := by
  have hCarries := compositional_lowered.observe fuel (.code code) m
    { m with stack := m.stack ++ below } ⟨m.log, rfl⟩ hQuiet
  rw [outcome_observe, outcome_observe] at hCarries
  rcases hCarries result n hRun hEnough with ⟨_, hEnd, log, rfl⟩
  exact ⟨log, hEnd⟩

/- Count down from the number on the stack, writing it. -/
def countdown : List Instruction :=
  [.block [.call "duplicate$".toList, .integer 0, .call ">".toList],
    .block
      [.call "duplicate$".toList, .call "int.to.str$".toList,
        .call "write$".toList, .integer 1, .call "-".toList],
    .call "while$".toList, .string [], .call "+".toList]

/- It ends with an error that is no underflow, at a text. -/
theorem execute_above_countdown :
    ∃ log,
      execute ⟨.empty, none⟩ 40 countdown
          { initial .empty with
            stack := [.integer 3, .missing, .string "kept".toList] } =
        .finished (.error ((Value.string []).mismatch
            Operation.add.name .integer))
          { initial .empty with
            stack := [.integer 0, .missing, .string "kept".toList]
            output := "321".toList
            log := log } := by
  have hRun : execute ⟨.empty, none⟩ 40 countdown
      { initial .empty with stack := [.integer 3] } =
        .finished (.error ((Value.string []).mismatch
            Operation.add.name .integer))
          { initial .empty with
            stack := [.integer 0], output := "321".toList } := rfl
  have hEnough : NoUnderflow (.error ((Value.string []).mismatch
      Operation.add.name .integer) : Except Error Unit) := by
    rw [noUnderflow_error_iff]
    rintro operation ⟨⟩
  exact execute_above ⟨.empty, none⟩ 40 countdown _ _ _
    [.missing, .string "kept".toList] hRun hEnough (by decide)

end Machine

end Bibliography
