import Bibliography.Proofs.Style.Variables

/-
  Dispatch by the type of the current entry.

  The routine for a type is always a function of the program, but
  it is run by its name.  So it runs where its name is neither a
  variable nor a field, whatever else the program declares.  A
  variable or a field of that name hides it, and then its value
  is pushed instead.

  Key definitions include:
    * `Program.declares`
    * `Machine.current?`

  Key statements include:
    * `Program.exists_function_of_typeRoutine?`
    * `Machine.meaning_of_not_declares`
    * `Machine.run_symbol_of_declares`
    * `Machine.execute_callType`
-/

------------------------------------------------------------
-- Declared Names
------------------------------------------------------------

namespace Bibliography

namespace Program

/- Whether a name is that of a variable or a field. -/
def declares
    (p : Program)
    (name : Text) : Bool :=
  p.isEntryVariable name || p.isField name ||
    p.globals.contains name

theorem declares_eq_false_iff
    {p : Program}
    {name : Text} :
    p.declares name = false ↔
      p.isEntryVariable name = false ∧ p.isField name = false ∧
        p.globals.contains name = false := by
  rw [declares, Bool.or_eq_false_iff, Bool.or_eq_false_iff, and_assoc]

theorem exists_function_of_contains
    {p : Program}
    {name : Text}
    (h : p.functions.contains name = true) :
    ∃ body, p.function? name = some body :=
  Option.isSome_iff_exists.1 h

/- The routine for a type is a function, also the default one. -/
theorem exists_function_of_typeRoutine?
    {p : Program}
    {entryType name : Text}
    (h : p.typeRoutine? entryType = some name) :
    ∃ body, p.function? name = some body := by
  have hDefault : p.defaultRoutine? = some name →
      ∃ body, p.function? name = some body := by
    intro hSome
    unfold defaultRoutine? at hSome
    split at hSome
    · rename_i hContains
      cases hSome
      exact exists_function_of_contains hContains
    · cases hSome
  unfold typeRoutine? at h
  split at h
  · split at h
    · rename_i hContains
      cases h
      exact exists_function_of_contains hContains
    · exact hDefault h
  · exact hDefault h

end Program

/- The instruction that runs the routine for the entry's type. -/
def Instruction.callType : Instruction :=
  .call Control.callType.name

------------------------------------------------------------
-- Meanings of Names
------------------------------------------------------------

namespace Machine

variable {s : Setting}
variable {m : Machine}
variable {name : Text}

/- Variables with types have the names that are declared. -/
theorem HasTypes.get?_eq_none
    {declared : SortedMap VariableKind}
    {values : SortedMap Value}
    (h : HasTypes declared values)
    (hName : declared.contains name = false) :
    values.get? name = none := by
  have hType := h name
  rw [SortedMap.contains, Option.isSome_eq_false_iff,
    Option.isNone_iff_eq_none] at hName
  rw [hName, Option.map_none, Option.map_eq_none_iff] at hType
  exact hType

theorem HasTypes.exists_get?
    {declared : SortedMap VariableKind}
    {values : SortedMap Value}
    (h : HasTypes declared values)
    (hName : declared.contains name = true) :
    ∃ v, values.get? name = some v := by
  have hType := h name
  rcases Option.isSome_iff_exists.1 hName with ⟨kind, hKind⟩
  rw [hKind] at hType
  rcases Option.map_eq_some_iff.1 hType with ⟨v, hValue, _⟩
  exact ⟨v, hValue⟩

/- A function whose name is not declared is meant by it. -/
theorem meaning_of_not_declares
    {body : List Instruction}
    (hTyped : m.WellTyped s)
    (hName : s.program.declares name = false)
    (hFunction : s.program.function? name = some body) :
    m.meaning s name = .function body := by
  rcases Program.declares_eq_false_iff.1 hName with
    ⟨hLocal, hField, hGlobal⟩
  have hNoLocal : m.locals.get? name = none := by
    cases hKey : m.current with
    | none => rw [hTyped.outside hKey, SortedMap.get?_empty]
    | some key => exact (hTyped.inside key hKey).2.get?_eq_none hLocal
  have hNoGlobal := hTyped.globals.get?_eq_none hGlobal
  rw [meaning, hNoLocal]
  dsimp only
  rw [hLocal, hField, hNoGlobal, hFunction]
  rfl

/- A declared name never means a function. -/
theorem meaning_of_declares
    (hTyped : m.WellTyped s)
    (hName : s.program.declares name = true) :
    (∃ v, m.meaning s name = .value v) ∨
      m.meaning s name = .outsideEntry ∨
      m.meaning s name = .field := by
  unfold meaning
  split
  · exact .inl ⟨_, rfl⟩
  · split
    · exact .inr (.inl rfl)
    · split
      · exact .inr (.inr rfl)
      · rename_i hLocal hField
        rw [Program.declares, Bool.eq_false_iff.2 hLocal,
          Bool.eq_false_iff.2 hField] at hName
        rcases hTyped.globals.exists_get? hName with ⟨v, hValue⟩
        rw [hValue]
        exact .inl ⟨v, rfl⟩

/- Reading a field changes nothing. -/
theorem snd_fieldValue
    (s : Setting)
    (name : Text)
    (m : Machine) : (fieldValue s name m).2 = m := by
  unfold fieldValue currentKey
  dsimp only [Bind.bind, Action.bind]
  cases m.current with
  | none => rfl
  | some key =>
      dsimp only
      cases s.table with
      | none => rfl
      | some t =>
          dsimp only
          cases t.lookupField key name with
          | error err => rfl
          | ok value => cases value <;> rfl

/-
  Where a name is declared, its value is pushed or there is an
  error; in any case no code is run.
-/
theorem run_symbol_of_declares
    (hTyped : m.WellTyped s)
    (hName : s.program.declares name = true) :
    ∃ result m', (m' = m ∨ ∃ v, m' = (push v m).2) ∧
      ∀ fuel, run s (fuel + 1) (.symbol name) m =
        .finished result m' := by
  rcases meaning_of_declares hTyped hName with
    ⟨v, hMeaning⟩ | hMeaning | hMeaning
  · refine ⟨.ok (), (push v m).2, .inr ⟨v, rfl⟩, ?_⟩
    intro fuel
    rw [run, hMeaning]
    rfl
  · refine ⟨.error (.of (.noCurrentEntry name)), m, .inl rfl, ?_⟩
    intro fuel
    rw [run, hMeaning]
  · have hState := snd_fieldValue s name m
    cases hRead : (fieldValue s name m).1 with
    | error err =>
        refine ⟨.error err, m, .inl rfl, ?_⟩
        intro fuel
        rw [run, hMeaning]
        dsimp only
        rw [Action.outcome, hRead, hState]
        rfl
    | ok v =>
        refine ⟨.ok (), (push v m).2, .inr ⟨v, rfl⟩, ?_⟩
        intro fuel
        rw [run, hMeaning]
        dsimp only
        rw [Action.outcome, hRead, hState]
        rfl

end Machine

------------------------------------------------------------
-- Dispatch
------------------------------------------------------------

namespace Machine

variable {s : Setting}
variable {m : Machine}
variable {name : Text}

/- The current entry of the machine in the table. -/
def current?
    (s : Setting)
    (m : Machine) : Option Entry :=
  m.current.bind (fun key => s.table.bind (fun t => t.get? key))

/- In every state that can be reached the types are kept. -/
theorem Reachable.wellTyped (h : Reachable s m) : m.WellTyped s := by
  induction h with
  | initial tracing => exact wellTyped_initial tracing
  | step _ _ _ hStep ih => exact ih.after hStep

/- What is reported does not matter to the variables. -/
theorem WellTyped.traced
    (h : m.WellTyped s)
    (i : Instruction) : (m.traced i).WellTyped s := by
  rcases traced_log m i with ⟨log, hLog⟩
  rw [hLog]
  exact { h with }

theorem current?_traced
    (i : Instruction) : (m.traced i).current? s = m.current? s := by
  rcases traced_log m i with ⟨log, hLog⟩
  rw [hLog]
  rfl

theorem meaning_traced
    (i : Instruction) :
    (m.traced i).meaning s name = m.meaning s name := by
  rcases traced_log m i with ⟨log, hLog⟩
  rw [hLog]
  rfl

/- The routine is looked up by the type of the current entry. -/
theorem typeRoutine_outcome
    {e : Entry}
    (hEntry : m.current? s = some e) :
    (typeRoutine s).outcome m =
      match s.program.typeRoutine? e.entryType with
      | some r => .finished (.ok r) m
      | none =>
          .finished (.error (.of (.noTypeRoutine e.entryType))) m := by
  rcases Option.bind_eq_some_iff.1 hEntry with ⟨key, hKey, hGet⟩
  have hCurrent : currentEntry s Control.callType.name m =
      (.ok e, m) := by
    unfold currentEntry currentKey
    dsimp only [Bind.bind, Action.bind]
    rw [hKey]
    dsimp only
    rw [hGet]
    rfl
  unfold typeRoutine Action.outcome
  dsimp only [Bind.bind, Action.bind]
  rw [hCurrent]
  dsimp only
  cases s.program.typeRoutine? e.entryType <;> rfl

/- A call alone does what its name does. -/
theorem execute_call
    (fuel : Nat)
    (name : Text)
    (m : Machine) :
    execute s (fuel + 2) [.call name] m =
      run s (fuel + 1) (.symbol name) (m.traced (.call name)) := by
  rw [execute, run]
  exact Outcome.andThen_finished_ok _

/- It runs the name of the routine, if there is one. -/
theorem execute_callType
    {e : Entry}
    (hEntry : m.current? s = some e)
    (hBuiltin : m.meaning s Control.callType.name =
      .builtin (.control .callType))
    (fuel : Nat) :
    execute s (fuel + 2) [.callType] m =
      match s.program.typeRoutine? e.entryType with
      | some r => run s fuel (.symbol r) (m.traced .callType)
      | none =>
          .finished (.error (.of (.noTypeRoutine e.entryType)))
            (m.traced .callType) := by
  have hMeans := (meaning_traced .callType).trans hBuiltin
  have hEntry' := (current?_traced .callType).trans hEntry
  rw [Instruction.callType] at hMeans hEntry' ⊢
  rw [execute_call, run, hMeans]
  dsimp only
  rw [typeRoutine_outcome hEntry']
  cases s.program.typeRoutine? e.entryType <;> rfl

/- An undeclared routine runs as a function. -/
theorem execute_callType_of_not_declares
    {e : Entry}
    {r : Text}
    {body : List Instruction}
    (hTyped : m.WellTyped s)
    (hEntry : m.current? s = some e)
    (hBuiltin : m.meaning s Control.callType.name =
      .builtin (.control .callType))
    (hRoutine : s.program.typeRoutine? e.entryType = some r)
    (hBody : s.program.function? r = some body)
    (hName : s.program.declares r = false)
    (fuel : Nat) :
    execute s (fuel + 3) [.callType] m =
      (execute s fuel body (m.traced .callType)).mapError
        (·.inFrame (functionFrame r)) := by
  have hMeans :=
    meaning_of_not_declares (hTyped.traced .callType) hName hBody
  rw [execute_callType hEntry hBuiltin, hRoutine]
  dsimp only
  rw [run, hMeans, execute]

/-
  What the call of the type routine does in a state that a machine
  can be in.  The routine is a function, and if its name is not
  that of a variable or a field, the call runs that function and
  nothing else.  If it is, no code runs, and a value is pushed at
  most.  Without a routine the call fails and changes nothing.
-/
theorem callType_runs_routine
    (s : Setting)
    (m : Machine)
    (e : Entry)
    (hReach : Reachable s m)
    (hEntry : m.current? s = some e)
    (hBuiltin : m.meaning s Control.callType.name =
      .builtin (.control .callType)) :
    (∀ r, s.program.typeRoutine? e.entryType = some r →
      ∃ body, s.program.function? r = some body ∧
        (s.program.declares r = false → ∀ fuel,
          execute s (fuel + 3) [.callType] m =
            (execute s fuel body (m.traced .callType)).mapError
              (·.inFrame (functionFrame r))) ∧
        (s.program.declares r = true → ∃ result m',
          (m' = m.traced .callType ∨
            ∃ v, m' = (push v (m.traced .callType)).2) ∧
          ∀ fuel, execute s (fuel + 3) [.callType] m =
            .finished result m')) ∧
      (s.program.typeRoutine? e.entryType = none → ∀ fuel,
        execute s (fuel + 3) [.callType] m =
          .finished (.error (.of (.noTypeRoutine e.entryType)))
            (m.traced .callType)) := by
  have hTyped := hReach.wellTyped
  constructor
  · intro r hRoutine
    rcases Program.exists_function_of_typeRoutine? hRoutine with
      ⟨body, hBody⟩
    refine ⟨body, hBody, ?_, ?_⟩
    · intro hName fuel
      exact execute_callType_of_not_declares hTyped hEntry hBuiltin
        hRoutine hBody hName fuel
    · intro hName
      rcases run_symbol_of_declares (hTyped.traced .callType) hName
        with ⟨result, m', hState, hRun⟩
      refine ⟨result, m', hState, ?_⟩
      intro fuel
      rw [execute_callType hEntry hBuiltin, hRoutine]
      exact hRun fuel
  · intro hNone fuel
    rw [execute_callType hEntry hBuiltin, hNone]

/- A routine that writes its own name. -/
def sampleRoutine : List Instruction :=
  [.string "misc".toList, .call Operation.write.name]

/- A program with the routine and a field, and one entry. -/
def routineSetting (field : Text) : Setting where
  program := (Program.empty.withFields [field]).withFunction
    "misc".toList sampleRoutine
  table := some ⟨[("k".toList, .ofType "misc".toList)], []⟩

/- The machine that has begun with the entry. -/
def atEntry (s : Setting) : Machine :=
  { initial s.program with
    current := some "k".toList
    locals := s.program.initialEntryVariables }

/- The field has another name than the routine. -/
def plainSetting : Setting :=
  routineSetting "note".toList

theorem callType_runs_routine_sample :
    Reachable plainSetting (atEntry plainSetting) ∧
      plainSetting.program.declares "misc".toList = false ∧
      ∀ fuel,
        execute plainSetting (fuel + 3) [.callType]
            (atEntry plainSetting) =
          (execute plainSetting fuel sampleRoutine
              (atEntry plainSetting)).mapError
            (·.inFrame (functionFrame "misc".toList)) := by
  have hReach : Reachable plainSetting (atEntry plainSetting) :=
    .step (.initial false) 0 (.beginEntry "k".toList) rfl
  rcases (callType_runs_routine plainSetting (atEntry plainSetting)
    (.ofType "misc".toList) hReach rfl rfl).1 "misc".toList
      (by decide) with ⟨body, hBody, hRuns, _⟩
  cases hBody
  exact ⟨hReach, by decide, hRuns (by decide)⟩

/- The field has the name of the routine. -/
def hiddenSetting : Setting :=
  routineSetting "misc".toList

theorem fieldValue_hiddenSetting :
    fieldValue hiddenSetting "misc".toList (atEntry hiddenSetting) =
      (.ok .missing, atEntry hiddenSetting) := by
  have hNone : Table.lookupField
      ⟨[("k".toList, .ofType "misc".toList)], []⟩ "k".toList
        "misc".toList = .ok none := by
    rw [Table.lookupField, Table.lookupFrom]
    rfl
  unfold fieldValue hiddenSetting routineSetting atEntry currentKey
  dsimp only [Bind.bind, Action.bind]
  rw [hNone]
  rfl

/- The call pushes the missing field, and the routine would write. -/
theorem callType_of_hiddenRoutine :
    Reachable hiddenSetting (atEntry hiddenSetting) ∧
      (atEntry hiddenSetting).current? hiddenSetting =
        some (.ofType "misc".toList) ∧
      hiddenSetting.program.typeRoutine? "misc".toList =
        some "misc".toList ∧
      hiddenSetting.program.function? "misc".toList =
        some sampleRoutine ∧
      ∀ fuel,
        execute hiddenSetting (fuel + 5) [.callType]
            (atEntry hiddenSetting) =
          .finished (.ok ())
            { atEntry hiddenSetting with stack := [.missing] } ∧
        execute hiddenSetting (fuel + 5) sampleRoutine
            (atEntry hiddenSetting) =
          .finished (.ok ())
            { atEntry hiddenSetting with output := "misc".toList } := by
  have hReach : Reachable hiddenSetting (atEntry hiddenSetting) :=
    .step (.initial false) 0 (.beginEntry "k".toList) rfl
  refine ⟨hReach, rfl, by decide, by decide, ?_⟩
  intro fuel
  constructor
  · have hCall := @execute_callType hiddenSetting
      (atEntry hiddenSetting) (.ofType "misc".toList) rfl rfl
    rw [hCall]
    show run hiddenSetting (fuel + 3) (.symbol "misc".toList)
      (atEntry hiddenSetting) = _
    rw [run, show (atEntry hiddenSetting).meaning hiddenSetting
      "misc".toList = .field from rfl]
    dsimp only
    rw [Action.outcome, fieldValue_hiddenSetting]
    rfl
  · rfl

end Machine

end Bibliography
