import Bibliography.Proofs.Style.Congruence
import Bibliography.Proofs.Style.Fuel

/-
  Entries do not see what entries before them have written.

  Two machines with the same stack and the same globals format an
  entry alike, whatever their output, warnings, variables and
  tracing.  Stack and globals are the only channels between
  entries.

  Key definitions include:
    * `Machine.SameEffects`
    * `Machine.Alike`

  Key statements include:
    * `Machine.congruence_alike`
    * `Machine.formatEntry_corresponds`
    * `Machine.formats_isolated`
-/

------------------------------------------------------------
-- Machines with Different Pasts
------------------------------------------------------------

namespace Bibliography

namespace Machine

/-
  Starting from two machines, the same has been added to the
  output and the warnings of each, and stack and globals agree.
-/
structure SameEffects (start start' m m' : Machine) : Prop where
  stack : m.stack = m'.stack
  globals : m.globals = m'.globals
  output : ∃ text, m.output = start.output ++ text ∧
    m'.output = start'.output ++ text
  warnings : ∃ messages, m.warnings = start.warnings ++ messages ∧
    m'.warnings = start'.warnings ++ messages

/- Within an entry its key and its variables agree, too. -/
structure Alike (start start' m m' : Machine) : Prop
    extends SameEffects start start' m m' where
  locals : m.locals = m'.locals
  current : m.current = m'.current

variable {s : Setting}
variable {start start' m m' : Machine}

/- Nothing has been added at the start. -/
theorem SameEffects.refl
    (hStack : m.stack = m'.stack)
    (hGlobals : m.globals = m'.globals) :
    SameEffects m m' m m' where
  stack := hStack
  globals := hGlobals
  output := ⟨[], (List.append_nil _).symm, (List.append_nil _).symm⟩
  warnings :=
    ⟨[], (List.append_nil _).symm, (List.append_nil _).symm⟩

/- The same may be added to both. -/
theorem Alike.output_append
    (h : Alike start start' m m')
    (t : Text) :
    ∃ text, m.output ++ t = start.output ++ text ∧
      m'.output ++ t = start'.output ++ text := by
  rcases h.output with ⟨text, hText, hText'⟩
  refine ⟨text ++ t, ?_, ?_⟩
  · rw [hText, List.append_assoc]
  · rw [hText', List.append_assoc]

theorem Alike.warnings_append
    (h : Alike start start' m m')
    (message : Text) :
    ∃ messages,
      m.warnings ++ [message] = start.warnings ++ messages ∧
        m'.warnings ++ [message] = start'.warnings ++ messages := by
  rcases h.warnings with ⟨messages, hOld, hOld'⟩
  refine ⟨messages ++ [message], ?_, ?_⟩
  · rw [hOld, List.append_assoc]
  · rw [hOld', List.append_assoc]

/- Assignment reads variables only, and changes one of them. -/
theorem respects_assign
    (name : Text)
    (v : Value) :
    (assign s name v).Respects (Alike start start') := by
  intro m m' h
  unfold assign
  rw [← h.locals, ← h.globals]
  cases m.locals.get? name with
  | some old =>
      dsimp only
      cases old.assignedOver v with
      | error e => exact ⟨rfl, h⟩
      | ok new =>
          exact ⟨rfl, { h with locals := rfl, globals := rfl }⟩
  | none =>
      dsimp only
      by_cases hEntry : s.program.isEntryVariable name = true
      · rw [if_pos hEntry, if_pos hEntry]
        exact ⟨rfl, h⟩
      · rw [if_neg hEntry, if_neg hEntry]
        cases m.globals.get? name with
        | none => exact ⟨rfl, h⟩
        | some old =>
            dsimp only
            cases old.assignedOver v with
            | error e => exact ⟨rfl, h⟩
            | ok new =>
                exact
                  ⟨rfl, { h with locals := rfl, globals := rfl }⟩

/- No primitive operation sees output, warnings or tracing. -/
theorem congruence_alike :
    Congruence s (Alike start start') where
  push := by
    intro v m m' h
    exact ⟨rfl, { h with stack := congrArg (List.cons v) h.stack }⟩
  pop := by
    intro operation m m' h
    unfold pop
    have hStack := h.stack
    rw [← hStack]
    cases hTop : m.stack with
    | nil => exact ⟨rfl, h⟩
    | cons v rest => exact ⟨rfl, { h with stack := rfl }⟩
  showStack := by
    intro m m' h
    exact ⟨rfl, { h with stack := rfl }⟩
  report := by
    intro event m m' h
    exact ⟨rfl, { h with }⟩
  warn := by
    intro message m m' h
    exact ⟨rfl, { h with warnings := h.warnings_append message }⟩
  write := by
    intro t m m' h
    exact ⟨rfl, { h with output := h.output_append t }⟩
  assign := respects_assign
  currentKey := by
    intro operation m m' h
    unfold currentKey
    rw [← h.current]
    cases m.current with
    | none => exact ⟨rfl, h⟩
    | some key => exact ⟨rfl, h⟩
  meaning := by
    intro m m' name h
    unfold meaning
    rw [h.locals, h.globals]
  traced := by
    intro m m' i h
    rcases traced_log m i with ⟨log, hLog⟩
    rcases traced_log m' i with ⟨log', hLog'⟩
    rw [hLog, hLog']
    exact { h with }

------------------------------------------------------------
-- Entries
------------------------------------------------------------

/- A report of what is left on the stack changes the log alone. -/
theorem reportLeftover_log
    (key : Text)
    (m : Machine) :
    ∃ log, m.reportLeftover key = { m with log := log } := by
  unfold reportLeftover
  split
  · exact ⟨m.log, rfl⟩
  · exact ⟨_, rfl⟩

/- Leaving the entry forgets its key and its variables. -/
theorem SameEffects.leave
    (h : SameEffects start start' m m')
    (key : Text) :
    SameEffects start start'
      ((endEntry m).2.reportLeftover key)
      ((endEntry m').2.reportLeftover key) := by
  rcases reportLeftover_log key (endEntry m).2 with ⟨log, hLog⟩
  rcases reportLeftover_log key (endEntry m').2 with ⟨log', hLog'⟩
  rw [hLog, hLog']
  exact { h with }

/- With any fuel an entry is formatted alike, or by neither. -/
theorem formatEntry_corresponds
    (hStack : m.stack = m'.stack)
    (hGlobals : m.globals = m'.globals)
    (fuel : Nat)
    (key : Text) :
    (formatEntry s fuel key m).Corresponds (SameEffects m m')
      (formatEntry s fuel key m') := by
  have hStart := SameEffects.refl hStack hGlobals
  unfold formatEntry beginEntry Action.outcome
  cases s.table.bind (fun t => t.canonicalKey? key) with
  | none => exact .finished _ hStart
  | some canonical =>
      dsimp only [Outcome.andThen]
      have hBegun : Alike m m'
          { m with
            current := some canonical
            locals := s.program.initialEntryVariables }
          { m' with
            current := some canonical
            locals := s.program.initialEntryVariables } :=
        { hStart with locals := rfl, current := rfl }
      have hCongruence : Congruence s (Alike m m') :=
        congruence_alike
      have hRun := hCongruence.run fuel
        (.code s.program.entryRoutine) _ _ hBegun
      unfold execute
      generalize run s fuel (.code s.program.entryRoutine) _ = o
        at hRun
      generalize run s fuel (.code s.program.entryRoutine) _ = o'
        at hRun
      cases hRun with
      | unfinished => exact .unfinished
      | @finished result n n' hAfter =>
          cases result with
          | error e =>
              exact .finished _ { hAfter.toSameEffects with }
          | ok _ =>
              rcases hAfter.output with ⟨text, hText, hText'⟩
              dsimp only
              rw [hText, hText', List.drop_left, List.drop_left]
              exact .finished _ (hAfter.toSameEffects.leave key)

/-
  An entry is formatted alike from all machines with the same
  stack and the same globals: it ends from all of them or from
  none, with the same result and the same effects.
-/
theorem formats_isolated
    (s : Setting)
    (key : Text)
    (m m' : Machine)
    (hStack : m.stack = m'.stack)
    (hGlobals : m.globals = m'.globals) :
    ((∃ result n, Formats s key m result n) ↔
        ∃ result n, Formats s key m' result n) ∧
      ∀ result n result' n',
        Formats s key m result n →
          Formats s key m' result' n' →
            result = result' ∧ SameEffects m m' n n' := by
  have hBoth := fun fuel =>
    @formatEntry_corresponds s m m' hStack hGlobals fuel key
  have hAlike : ∀ result n, Formats s key m result n →
      ∃ n', Formats s key m' result n' ∧ SameEffects m m' n n' := by
    rintro result n ⟨fuel, hRun⟩
    have hOutcome := hBoth fuel
    rw [hRun] at hOutcome
    generalize hRun' : formatEntry s fuel key m' = o' at hOutcome
    cases hOutcome with
    | @finished _ _ n' hAfter => exact ⟨n', ⟨fuel, hRun'⟩, hAfter⟩
  refine ⟨⟨?_, ?_⟩, ?_⟩
  · rintro ⟨result, n, hRun⟩
    rcases hAlike result n hRun with ⟨n', hRun', _⟩
    exact ⟨result, n', hRun'⟩
  · rintro ⟨result, n', fuel, hRun'⟩
    have hOutcome := hBoth fuel
    rw [hRun'] at hOutcome
    generalize hRun : formatEntry s fuel key m = o at hOutcome
    cases hOutcome with
    | @finished _ n _ hAfter => exact ⟨result, n, fuel, hRun⟩
  · intro result n result' n' hRun hRun'
    rcases hAlike result n hRun with ⟨n₁, hRun₁, hAfter⟩
    rcases hRun₁.unique hRun' with ⟨rfl, rfl⟩
    exact ⟨rfl, hAfter⟩

/- An entry, and a style that counts in a loop and writes keys. -/
def sampleSetting : Setting where
  program :=
    { Program.empty with
      globals := .ofList [("n".toList, .integer)]
      entryRoutine :=
        [.block [.call "n".toList, .integer 2, .call "<".toList],
          .block
            [.call "n".toList, .integer 1, .call "+".toList,
              .quoted "n".toList, .call ":=".toList,
              .call "cite$".toList, .call "write$".toList],
          .call "while$".toList,
          .string "done".toList, .call "warning$".toList] }
  table :=
    some ⟨[("K".toList, .ofType "misc".toList)], []⟩

/- A machine that has left another entry by an error. -/
def sampleMachine : Machine :=
  { initial sampleSetting.program with
    current := some "other".toList
    locals := .ofList [("n".toList, .integer 7)]
    output := "before".toList
    warnings := ["old".toList]
    tracing := true }

theorem formats_isolated_sample :
    ∃ n n',
      Formats sampleSetting "k".toList
          (initial sampleSetting.program) (.ok "KK".toList) n ∧
        Formats sampleSetting "k".toList sampleMachine
          (.ok "KK".toList) n' ∧
        SameEffects (initial sampleSetting.program) sampleMachine
          n n' := by
  have hRun : ∃ n, Formats sampleSetting "k".toList
      (initial sampleSetting.program) (.ok "KK".toList) n :=
    ⟨_, 40, rfl⟩
  rcases hRun with ⟨n, hRun⟩
  have hIsolated := formats_isolated sampleSetting "k".toList
    (initial sampleSetting.program) sampleMachine rfl rfl
  rcases hIsolated.1.1 ⟨_, n, hRun⟩ with ⟨result, n', hRun'⟩
  rcases hIsolated.2 _ n result n' hRun hRun' with ⟨rfl, hSame⟩
  exact ⟨n, n', hRun, hRun', hSame⟩

end Machine

end Bibliography
