import Bibliography.Proofs.SortedMap
import Bibliography.Proofs.Style.Isolation
import Bibliography.Proofs.Table.Keys

/-
  Variables keep their types.

  From the start of a machine on, whatever is done with it and
  whether it succeeds or fails, the global variables are the
  declared ones, and each has a value of its declared type.  So
  do the variables of the current entry; without an entry there
  are none.

  Key definitions include:
    * `Machine.Invariant`
    * `Machine.HasTypes`
    * `Machine.WellTyped`
    * `Interaction`
    * `Machine.Reachable`

  Key statements include:
    * `Machine.Invariant.run`
    * `Machine.HasTypes.assign`
    * `Machine.WellTyped.after`
    * `Machine.wellTyped_of_reachable`
-/

------------------------------------------------------------
-- Invariants
------------------------------------------------------------

namespace Bibliography

namespace Outcome

variable {α : Type}

/- Where there is an end, the state has the property. -/
def EndsIn
    (P : Machine → Prop)
    (o : Outcome α) : Prop :=
  ∀ result m, o = .finished result m → P m

variable {P : Machine → Prop}

theorem endsIn_finished
    {result : Except Error α}
    {m : Machine}
    (h : P m) : (finished result m).EndsIn P := by
  rintro _ _ ⟨⟩
  exact h

/- The state without the result, if there is an end. -/
def machine? : Outcome α → Option Machine
  | .finished _ m => some m
  | .unfinished => none

theorem EndsIn.of_machine?
    {o : Outcome α}
    (h : o.EndsIn P)
    {m : Machine}
    (hEnd : o.machine? = some m) : P m := by
  cases o with
  | unfinished => cases hEnd
  | finished result m =>
      cases hEnd
      exact h result m rfl

/- Related to itself, an outcome tells about its own state. -/
theorem Corresponds.endsIn
    {o : Outcome α}
    (h : o.Corresponds (fun m m' => m = m' ∧ P m) o) :
    o.EndsIn P := by
  rintro result m rfl
  cases h with
  | finished _ hAfter => exact hAfter.2

theorem EndsIn.mapError
    {o : Outcome α}
    (h : o.EndsIn P)
    (f : Error → Error) : (o.mapError f).EndsIn P := by
  cases o with
  | unfinished =>
      rintro result m ⟨⟩
  | finished result m =>
      cases result with
      | ok a => exact endsIn_finished (h _ m rfl)
      | error e => exact endsIn_finished (h _ m rfl)

end Outcome

namespace Machine

/-
  A property of the variables that assignment keeps.  What else a
  run changes is of no account.
-/
structure Invariant
    (s : Setting)
    (P : Machine → Prop) : Prop where
  effects : ∀ m stack output warnings log, P m →
    P { m with
        stack := stack, output := output
        warnings := warnings, log := log }
  assign : ∀ name v m, P m → P (assign s name v m).2

namespace Invariant

variable {s : Setting}
variable {P : Machine → Prop}

/- Every primitive operation keeps it. -/
theorem congruence
    (h : Invariant s P) :
    Congruence s (fun m m' => m = m' ∧ P m) where
  push := by
    rintro v m _ ⟨rfl, hm⟩
    exact ⟨rfl, rfl, h.effects m _ _ _ _ hm⟩
  pop := by
    rintro operation m _ ⟨rfl, hm⟩
    refine ⟨rfl, rfl, ?_⟩
    unfold pop
    cases m.stack with
    | nil => exact hm
    | cons v rest => exact h.effects m rest _ _ _ hm
  showStack := by
    rintro m _ ⟨rfl, hm⟩
    exact ⟨rfl, rfl, h.effects m _ _ _ _ hm⟩
  report := by
    rintro event m _ ⟨rfl, hm⟩
    exact ⟨rfl, rfl, h.effects m _ _ _ _ hm⟩
  warn := by
    rintro message m _ ⟨rfl, hm⟩
    exact ⟨rfl, rfl, h.effects m _ _ _ _ hm⟩
  write := by
    rintro t m _ ⟨rfl, hm⟩
    exact ⟨rfl, rfl, h.effects m _ _ _ _ hm⟩
  assign := by
    rintro name v m _ ⟨rfl, hm⟩
    exact ⟨rfl, rfl, h.assign name v m hm⟩
  currentKey := by
    rintro operation m _ ⟨rfl, hm⟩
    refine ⟨rfl, rfl, ?_⟩
    unfold currentKey
    cases m.current with
    | none => exact hm
    | some key => exact hm
  meaning := by
    rintro m _ name ⟨rfl, _⟩
    rfl
  traced := by
    rintro m _ i ⟨rfl, hm⟩
    rcases traced_log m i with ⟨log, hLog⟩
    rw [hLog]
    exact ⟨rfl, h.effects m _ _ _ log hm⟩

/- Every job keeps it. -/
theorem run
    (h : Invariant s P)
    (fuel : Nat)
    (job : Job)
    {m : Machine}
    (hm : P m) : (Machine.run s fuel job m).EndsIn P :=
  (h.congruence.run fuel job m m ⟨rfl, hm⟩).endsIn

/- So does taking a value from the stack, of whatever type. -/
theorem pop
    (h : Invariant s P)
    (operation : Text)
    {m : Machine}
    (hm : P m) : ((pop operation).outcome m).EndsIn P :=
  (h.congruence.compositional.pop operation m m ⟨rfl, hm⟩).endsIn

theorem popInteger
    (h : Invariant s P)
    (operation : Text)
    {m : Machine}
    (hm : P m) : ((popInteger operation).outcome m).EndsIn P :=
  (h.congruence.compositional.popInteger operation m m
    ⟨rfl, hm⟩).endsIn

theorem popText
    (h : Invariant s P)
    (operation : Text)
    {m : Machine}
    (hm : P m) : ((popText operation).outcome m).EndsIn P :=
  (h.congruence.compositional.popText operation m m ⟨rfl, hm⟩).endsIn

theorem popCallable
    (h : Invariant s P)
    (operation : Text)
    {m : Machine}
    (hm : P m) : ((popCallable operation).outcome m).EndsIn P :=
  (h.congruence.compositional.popCallable operation m m
    ⟨rfl, hm⟩).endsIn

end Invariant

end Machine

------------------------------------------------------------
-- Types of Variables
------------------------------------------------------------

/- The type of the values that a variable takes. -/
def VariableKind.type : VariableKind → ValueType
  | .integer => .integer
  | .string => .string

theorem VariableKind.type_initial
    (kind : VariableKind) : kind.initial.type = kind.type := by
  cases kind <;> rfl

/- What is assigned has the type of the old value. -/
theorem Value.type_of_assignedOver
    {old v new : Value}
    (h : old.assignedOver v = .ok new) : new.type = old.type := by
  unfold assignedOver at h
  split at h
  · cases h
    rfl
  · cases h
    rfl
  · cases h
    rfl
  · cases h

namespace Machine

/-
  The variables are exactly the declared ones, and each has a
  value of its declared type.
-/
def HasTypes
    (declared : SortedMap VariableKind)
    (values : SortedMap Value) : Prop :=
  ∀ name, (values.get? name).map Value.type =
    (declared.get? name).map VariableKind.type

/- Before any assignment they have these types. -/
theorem hasTypes_initial
    (declared : SortedMap VariableKind) :
    HasTypes declared (declared.mapValues VariableKind.initial) := by
  intro name
  rw [SortedMap.get?_mapValues, Option.map_map]
  congr 1
  funext kind
  exact kind.type_initial

/- A variable that is assigned to keeps its type. -/
theorem HasTypes.assign
    {declared : SortedMap VariableKind}
    {values : SortedMap Value}
    {name : Text}
    {old v new : Value}
    (h : HasTypes declared values)
    (hOld : values.get? name = some old)
    (hNew : old.assignedOver v = .ok new) :
    HasTypes declared (values.insert name new) := by
  intro other
  rw [SortedMap.get?_insert]
  split
  · rename_i hSame
    have hBefore := h name
    rw [hOld] at hBefore
    rw [hSame, ← hBefore, Option.map_some, Option.map_some,
      Value.type_of_assignedOver hNew]
  · exact h other

end Machine

/- The spelling under which the table, if any, holds a key. -/
def Setting.canonicalKey?
    (s : Setting)
    (key : Text) : Option Text :=
  s.table.bind (fun t => t.canonicalKey? key)

/- A canonical key stands for itself. -/
theorem Setting.canonicalKey?_of_canonicalKey?
    {s : Setting}
    {key canonical : Text}
    (h : s.canonicalKey? key = some canonical) :
    s.canonicalKey? canonical = some canonical := by
  rcases Option.bind_eq_some_iff.1 h with ⟨t, hTable, hKey⟩
  rcases Option.map_eq_some_iff.1 hKey with ⟨item, hFind, rfl⟩
  have hSame := Table.sameKey_of_find? hFind
  unfold canonicalKey?
  rw [hTable, Option.bind_some, Table.canonicalKey?,
    Table.find?_congr hSame, hFind]
  rfl

namespace Machine

/-
  The variables of a machine are as the program declares them,
  and the current entry, if there is one, is in the table.
-/
structure WellTyped
    (s : Setting)
    (m : Machine) : Prop where
  globals : HasTypes s.program.globals m.globals
  outside : m.current = none → m.locals = .empty
  inside : ∀ key, m.current = some key →
    s.canonicalKey? key = some key ∧
      HasTypes s.program.entryVariables m.locals

variable {s : Setting}

/- At the start there are global variables only. -/
theorem wellTyped_initial
    (tracing : Bool) :
    WellTyped s { initial s.program with tracing := tracing } where
  globals := hasTypes_initial s.program.globals
  outside := fun _ => rfl
  inside := by
    rintro key ⟨⟩

/- Assignment changes the value of a variable, not its type. -/
theorem WellTyped.assign
    {m : Machine}
    (h : m.WellTyped s)
    (name : Text)
    (v : Value) : (assign s name v m).2.WellTyped s := by
  unfold Machine.assign
  cases hLocal : m.locals.get? name with
  | some old =>
      dsimp only
      cases hNew : old.assignedOver v with
      | error e => exact h
      | ok new =>
          refine { h with outside := ?_, inside := ?_ }
          · intro hNone
            rw [h.outside hNone, SortedMap.get?_empty] at hLocal
            cases hLocal
          · intro key hKey
            rcases h.inside key hKey with ⟨hCanonical, hTypes⟩
            exact ⟨hCanonical, hTypes.assign hLocal hNew⟩
  | none =>
      dsimp only
      split
      · exact h
      · cases hGlobal : m.globals.get? name with
        | none => exact h
        | some old =>
            dsimp only
            cases hNew : old.assignedOver v with
            | error e => exact h
            | ok new =>
                exact
                  { h with globals := h.globals.assign hGlobal hNew }

/- Being well typed is an invariant. -/
theorem invariant_wellTyped : Invariant s (WellTyped s) where
  effects := by
    intro m stack output warnings log h
    exact { h with }
  assign := fun name v _ h => h.assign name v

------------------------------------------------------------
-- Entries
------------------------------------------------------------

/- Outside of entries there are no variables of an entry. -/
theorem WellTyped.endEntry
    {m : Machine}
    (h : m.WellTyped s) : (endEntry m).2.WellTyped s where
  globals := h.globals
  outside := fun _ => rfl
  inside := by
    rintro key ⟨⟩

/- A new entry has its variables at their initial values. -/
theorem WellTyped.beginEntry
    {m : Machine}
    (h : m.WellTyped s)
    (key : Text) :
    ((beginEntry s key).outcome m).EndsIn (WellTyped s) := by
  unfold Machine.beginEntry Action.outcome
  rw [← Setting.canonicalKey?]
  cases hKey : s.canonicalKey? key with
  | none => exact Outcome.endsIn_finished h
  | some canonical =>
      refine Outcome.endsIn_finished ⟨h.globals, ?_, ?_⟩
      · rintro ⟨⟩
      · rintro _ ⟨⟩
        exact ⟨Setting.canonicalKey?_of_canonicalKey? hKey,
          hasTypes_initial s.program.entryVariables⟩

/- The end of an entry is an end outside of entries. -/
theorem formatEntry_endsIn
    {key : Text}
    {canonical : Text}
    (hKey : s.canonicalKey? key = some canonical)
    (fuel : Nat)
    (m : Machine) :
    (formatEntry s fuel key m).EndsIn
      (fun m' => m'.current = none) := by
  unfold formatEntry Machine.beginEntry Action.outcome
  rw [← Setting.canonicalKey?, hKey]
  dsimp only [Outcome.andThen]
  split
  · rintro result m' ⟨⟩
  · rename_i result m' _
    cases result with
    | error e => exact Outcome.endsIn_finished rfl
    | ok _ =>
        rcases reportLeftover_log key (Machine.endEntry m').2 with
          ⟨log, hLog⟩
        dsimp only
        rw [hLog]
        exact Outcome.endsIn_finished rfl

/- An entry leaves the machine well typed, also by an error. -/
theorem WellTyped.formatEntry
    {m : Machine}
    (h : m.WellTyped s)
    (fuel : Nat)
    (key : Text) :
    (formatEntry s fuel key m).EndsIn (WellTyped s) := by
  have hBegun := h.beginEntry key
  unfold Machine.formatEntry
  cases hBegin : (Machine.beginEntry s key).outcome m with
  | unfinished =>
      rintro result m' ⟨⟩
  | finished result m₁ =>
      have h₁ := hBegun result m₁ hBegin
      cases result with
      | error e => exact Outcome.endsIn_finished h₁
      | ok _ =>
          have hRun := invariant_wellTyped.run fuel
            (.code s.program.entryRoutine) h₁
          dsimp only [Outcome.andThen]
          unfold execute
          split
          · rintro result m' ⟨⟩
          · rename_i result m₂ hEnd
            have h₂ := (hRun result m₂ hEnd).endEntry
            cases result with
            | error e => exact Outcome.endsIn_finished h₂
            | ok _ =>
                rcases reportLeftover_log key
                  (Machine.endEntry m₂).2 with ⟨log, hLog⟩
                dsimp only
                rw [hLog]
                exact Outcome.endsIn_finished { h₂ with }

end Machine

------------------------------------------------------------
-- What Is Done with a Machine
------------------------------------------------------------

/- One thing to do with a machine from outside. -/
inductive Interaction where
  | execute (code : List Instruction)
  | call (name : Text)
  | runCallable (c : Callable)
  | runPrologue
  | runEpilogue
  | beginEntry (key : Text)
  | endEntry
  | formatEntry (key : Text)
  | push (v : Value)
  | pop (operation : Text)
  | popInteger (operation : Text)
  | popText (operation : Text)
  | popCallable (operation : Text)
  | takeOutput
  | takeWarnings

namespace Interaction

open Machine

/- The state after it, whatever the result, if it ends. -/
def after
    (s : Setting)
    (fuel : Nat)
    (m : Machine) : Interaction → Option Machine
  | .execute code => (Machine.execute s fuel code m).machine?
  | .call name => (run s fuel (.symbol name) m).machine?
  | .runCallable c => (run s fuel (.callable c) m).machine?
  | .runPrologue => (Machine.runPrologue s fuel m).machine?
  | .runEpilogue => (Machine.runEpilogue s fuel m).machine?
  | .beginEntry key => some (Machine.beginEntry s key m).2
  | .endEntry => some (Machine.endEntry m).2
  | .formatEntry key => (Machine.formatEntry s fuel key m).machine?
  | .push v => some (Machine.push v m).2
  | .pop operation => some (Machine.pop operation m).2
  | .popInteger operation => some (Machine.popInteger operation m).2
  | .popText operation => some (Machine.popText operation m).2
  | .popCallable operation => some (Machine.popCallable operation m).2
  | .takeOutput => some (Machine.takeOutput m).2
  | .takeWarnings => some (Machine.takeWarnings m).2

end Interaction

namespace Machine

/- A state that a machine can be in after some interactions. -/
inductive Reachable (s : Setting) : Machine → Prop
  | initial (tracing : Bool) :
      Reachable s { initial s.program with tracing := tracing }
  | step
      {m m' : Machine}
      (h : Reachable s m)
      (fuel : Nat)
      (i : Interaction)
      (hStep : i.after s fuel m = some m') : Reachable s m'

variable {s : Setting}

/- Every interaction leaves the machine well typed. -/
theorem WellTyped.after
    {m m' : Machine}
    (h : m.WellTyped s)
    {fuel : Nat}
    {i : Interaction}
    (hStep : i.after s fuel m = some m') : m'.WellTyped s := by
  have hKeeps : Invariant s (WellTyped s) := invariant_wellTyped
  have hRun := fun job => hKeeps.run fuel job h
  cases i with
  | execute code => exact (hRun (.code code)).of_machine? hStep
  | call name => exact (hRun (.symbol name)).of_machine? hStep
  | runCallable c => exact (hRun (.callable c)).of_machine? hStep
  | runPrologue => exact ((hRun (.code _)).mapError _).of_machine? hStep
  | runEpilogue => exact ((hRun (.code _)).mapError _).of_machine? hStep
  | beginEntry key => exact (h.beginEntry key).of_machine? hStep
  | formatEntry key =>
      exact (h.formatEntry fuel key).of_machine? hStep
  | pop operation => exact (hKeeps.pop operation h).of_machine? hStep
  | popInteger operation =>
      exact (hKeeps.popInteger operation h).of_machine? hStep
  | popText operation =>
      exact (hKeeps.popText operation h).of_machine? hStep
  | popCallable operation =>
      exact (hKeeps.popCallable operation h).of_machine? hStep
  | endEntry =>
      cases hStep
      exact h.endEntry
  | push v =>
      cases hStep
      exact { h with }
  | takeOutput =>
      cases hStep
      exact { h with }
  | takeWarnings =>
      cases hStep
      exact { h with }

/-
  In every state that can be reached the variables are as
  declared, and after formatting an entry that the table has
  there is no current one, also where formatting fails.
-/
theorem wellTyped_of_reachable
    (s : Setting)
    (m : Machine)
    (h : Reachable s m) :
    m.WellTyped s ∧
      ∀ fuel key result m', s.canonicalKey? key ≠ none →
        formatEntry s fuel key m = .finished result m' →
          m'.current = none := by
  constructor
  · induction h with
    | initial tracing => exact wellTyped_initial tracing
    | step _ fuel i hStep ih => exact ih.after hStep
  · intro fuel key result m' hKey hRun
    rcases Option.ne_none_iff_exists'.1 hKey with ⟨canonical, hKey⟩
    exact formatEntry_endsIn hKey fuel m result m' hRun

/- Variables in both scopes, and a routine that finds no operand. -/
def typedSetting : Setting where
  program :=
    { Program.empty with
      entryVariables :=
        .ofList [("t".toList, .string), ("i".toList, .integer)]
      globals := .ofList [("n".toList, .integer)]
      entryRoutine :=
        [.integer 5, .quoted "i".toList, .call ":=".toList,
          .call "pop$".toList] }
  table :=
    some ⟨[("K".toList, .ofType "misc".toList)], []⟩

/- Assign a text to a text, and a function to an integer. -/
def typedCode : List Instruction :=
  [.string "x".toList, .quoted "t".toList, .call ":=".toList,
    .quoted "skip$".toList, .quoted "n".toList, .call ":=".toList]

theorem wellTyped_of_reachable_sample :
    ∃ m, Reachable typedSetting m ∧
      m.current = some "K".toList ∧
      m.locals.get? "t".toList = some (.string "x".toList) ∧
      m.WellTyped typedSetting ∧
      ∃ e m', formatEntry typedSetting 20 "k".toList m =
          .finished (.error e) m' ∧
        m'.current = none := by
  have hReachable : ∃ m, Reachable typedSetting m ∧
      m.current = some "K".toList ∧
      m.locals.get? "t".toList = some (.string "x".toList) ∧
      ∃ e m', formatEntry typedSetting 20 "k".toList m =
        .finished (.error e) m' :=
    ⟨_, .step (.step (.initial true) 0 (.beginEntry "k".toList) rfl)
      20 (.execute typedCode) rfl, rfl, rfl, _, _, rfl⟩
  rcases hReachable with ⟨m, hReachable, hKey, hText, e, m', hRun⟩
  rcases wellTyped_of_reachable typedSetting m hReachable with
    ⟨hTyped, hLeft⟩
  exact ⟨m, hReachable, hKey, hText, hTyped, e, m', hRun,
    hLeft 20 "k".toList _ m' (by decide) hRun⟩

end Machine

end Bibliography
