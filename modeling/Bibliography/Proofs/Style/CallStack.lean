import Bibliography.Proofs.Style.Phases
import Bibliography.Proofs.Style.Stepping
import Mathlib.Data.List.Induction

/-
  The frames of an error are the call stack.

  A step enters or leaves one function or phase at most, so the
  call stack of a configuration is what has been entered and not
  left.  A style that fails comes, step by step, to one place where
  it cannot go on.  The frames of its error are the call stack
  there: the functions that are active, innermost first, and below
  them the part of the style that was running.

  Key definitions include:
    * `Configuration.Moves`
    * `Configuration.Raises`
    * `Configuration.Performs`

  Key statements include:
    * `Configuration.moves_step`
    * `Configuration.performs_formatEntries`
    * `Configuration.performs_runStyle`
    * `Program.runStyle_frames`
-/

------------------------------------------------------------
-- Entering and Leaving
------------------------------------------------------------

namespace Bibliography

/- Only functions of the program are entered. -/
def Activation.IsOf
    (p : Program) : Activation → Prop
  | .function name => ∃ body, p.function? name = some body
  | .phase _ => True

/- A name that means a function is that of one. -/
theorem Machine.function?_of_meaning
    {s : Setting}
    {m : Machine}
    {name : Text}
    {body : List Instruction}
    (h : m.meaning s name = .function body) :
    s.program.function? name = some body := by
  unfold meaning at h
  split at h
  · cases h
  · split at h
    · cases h
    · split at h
      · cases h
      · split at h
        · cases h
        · split at h
          · rename_i found hFound
            cases h
            exact hFound
          · split at h
            · cases h
            · cases h

namespace Machine

variable {s : Setting}
variable {m : Machine}
variable {key : Text}
variable {item : Text × Entry}

/- The machine at the beginning of an entry. -/
def enter
    (s : Setting)
    (canonical : Text)
    (m : Machine) : Machine :=
  { m with
    current := some canonical
    locals := s.program.initialEntryVariables }

theorem beginEntry_of_find?
    (hFind : s.table.bind (fun t => t.find? key) = some item)
    (m : Machine) :
    beginEntry s key m = (.ok (), m.enter s item.1) := by
  have hCanonical :
      s.table.bind (fun t => t.canonicalKey? key) = some item.1 := by
    cases hTable : s.table with
    | none =>
        rw [hTable] at hFind
        cases hFind
    | some t =>
        rw [hTable] at hFind
        rw [Option.bind_some] at hFind ⊢
        rw [Table.canonicalKey?, hFind]
        rfl
  rw [beginEntry, hCanonical]
  rfl

/-
  The result of an entry is that of its routine.  If it is a
  success, then the entry has been left.
-/
theorem execute_of_formatEntry
    {fuel : Nat}
    {result : Except Error Text}
    {n : Machine}
    (hFind : s.table.bind (fun t => t.find? key) = some item)
    (h : formatEntry s fuel key m = .finished result n) :
    ∃ ended,
      execute s fuel s.program.entryRoutine (m.enter s item.1) =
          .finished (result.map fun _ => ()) ended ∧
        ∀ text, result = .ok text →
          n = (endEntry ended).2.reportLeftover key := by
  rw [formatEntry, Action.outcome, beginEntry_of_find? hFind] at h
  dsimp only [Outcome.andThen] at h
  split at h
  · cases h
  · rename_i routine ended hRun
    cases routine with
    | error e =>
        cases h
        refine ⟨ended, hRun, ?_⟩
        rintro _ ⟨⟩
    | ok _ =>
        cases h
        exact ⟨ended, hRun, fun _ _ => rfl⟩

end Machine

namespace Configuration

open Machine

variable {s : Setting}
variable {c c' : Configuration}

/-
  What a step does to the call stack: nothing, or one activation
  is entered, or the one entered last is left.
-/
inductive Moves
    (p : Program) : List Activation → List Activation → Prop where
  | stays (calls : List Activation) : Moves p calls calls
  | enters
      {a : Activation}
      (calls : List Activation)
      (h : a.IsOf p) : Moves p calls (a :: calls)
  | leaves
      (a : Activation)
      (calls : List Activation) : Moves p (a :: calls) calls

theorem moves_attempt
    {α : Type}
    {x : Action α}
    {next : α → List Task}
    {m : Machine}
    {p : Program}
    {calls : List Activation}
    (h : attempt x next m = .goes c')
    (hNext : ∀ a, Moves p calls (Task.activations (next a))) :
    Moves p calls c'.callStack := by
  unfold attempt at h
  split at h
  · cases h
    exact hNext _
  · cases h

theorem moves_stepMeaning
    (name : Text)
    (rest : List Task)
    (m : Machine)
    (h : stepMeaning s name rest m (m.meaning s name) = .goes c') :
    Moves s.program (Task.activations rest) c'.callStack := by
  cases hMeaning : m.meaning s name with
  | value v =>
      rw [hMeaning] at h
      cases h
      exact .stays _
  | outsideEntry =>
      rw [hMeaning] at h
      cases h
  | undefined =>
      rw [hMeaning] at h
      cases h
  | field =>
      rw [hMeaning] at h
      exact moves_attempt h (fun _ => .stays _)
  | function body =>
      rw [hMeaning] at h
      cases h
      exact .enters _ ⟨body, function?_of_meaning hMeaning⟩
  | builtin b =>
      rw [hMeaning] at h
      cases b with
      | operation o => exact moves_attempt h (fun _ => .stays _)
      | control control =>
          cases control with
          | _ => exact moves_attempt h (fun _ => .stays _)

theorem moves_stepJob
    (j : Job)
    (rest : List Task)
    (m : Machine)
    (h : stepJob s rest m j = .goes c') :
    Moves s.program (Task.activations rest) c'.callStack := by
  cases j with
  | code is =>
      cases is with
      | nil =>
          cases h
          exact .stays _
      | cons i more =>
          cases i with
          | _ =>
              cases h
              exact .stays _
  | callable f =>
      cases f with
      | _ =>
          cases h
          exact .stays _
  | symbol name => exact moves_stepMeaning name rest m h
  | loop test body =>
      cases h
      exact .stays _

/- A key without an entry is warned about. -/
theorem step_cite_of_none
    {key : Text}
    (hFind : s.table.bind (fun t => t.find? key) = none)
    (rest : List Task)
    (m : Machine) :
    step s ⟨.cite key :: rest, m⟩ =
      .goes ⟨rest, (warn (Setting.unknownKey key) m).2⟩ := by
  rw [step, hFind]
  rfl

/- The entry of a key is entered. -/
theorem step_cite_of_some
    {key : Text}
    {item : Text × Entry}
    (hFind : s.table.bind (fun t => t.find? key) = some item)
    (rest : List Task)
    (m : Machine) :
    step s ⟨.cite key :: rest, m⟩ =
      .goes ⟨.job (.code s.program.entryRoutine) ::
        .leave (.phase (.entry key item.1)) :: rest,
        m.enter s item.1⟩ := by
  rw [step, hFind]
  dsimp only
  rw [attempt, beginEntry_of_find? hFind]

/- Every step enters or leaves one activation at most. -/
theorem moves_step
    (h : c.step s = .goes c') :
    Moves s.program c.callStack c'.callStack := by
  rcases c with ⟨_ | ⟨task, rest⟩, m⟩
  · cases h
  · cases task with
    | job j => exact moves_stepJob j rest m h
    | afterTest test body =>
        refine moves_attempt h ?_
        intro n
        split
        · exact .stays _
        · exact .stays _
    | prologue =>
        cases h
        exact .enters _ trivial
    | cite key =>
        cases hFind : s.table.bind (fun t => t.find? key) with
        | none =>
            rw [step_cite_of_none hFind] at h
            cases h
            exact .stays _
        | some item =>
            rw [step_cite_of_some hFind] at h
            cases h
            exact .enters _ trivial
    | epilogue =>
        cases h
        exact .enters _ trivial
    | leave a =>
        rcases a with name | phase
        · cases h
          exact .leaves _ _
        · cases phase with
          | _ =>
              cases h
              exact .leaves _ _

/- So only functions of the program are ever on the call stack. -/
theorem Reaches.isOf
    (h : Reaches s c c')
    (hStart : ∀ a ∈ c.callStack, a.IsOf s.program) :
    ∀ a ∈ c'.callStack, a.IsOf s.program := by
  induction h with
  | refl => exact hStart
  | @tail before after _ hStep ih =>
      have hMoves := moves_step hStep
      generalize before.callStack = calls at ih hMoves
      generalize after.callStack = calls' at hMoves
      cases hMoves with
      | stays => exact ih
      | enters _ hNew => exact List.forall_mem_cons.2 ⟨hNew, ih⟩
      | leaves => exact (List.forall_mem_cons.1 ih).2

end Configuration

------------------------------------------------------------
-- Where an Error Arises
------------------------------------------------------------

/-
  A machine is in a phase of a style over some keys.  Outside the
  entries there is no current one; in an entry it is the one of
  the phase, with the key that the table has.
-/
def Phase.IsAt
    (t : Table)
    (keys : List Text)
    (m : Machine) : Phase → Prop
  | .prologue | .epilogue => m.current = none
  | .entry cited canonical =>
      cited ∈ keys ∧ t.canonicalKey? cited = some canonical ∧
        m.current = some canonical

/- The frames of a cause that has left something. -/
theorem Error.inFrame_within
    (kind : ErrorKind)
    (frames : List Text)
    (frame : Text) :
    ((of kind).within frames).inFrame frame =
      ⟨kind, some ⟨none, frames ++ [frame]⟩⟩ := by
  induction frames using List.reverseRecOn generalizing frame with
  | nil => rfl
  | append_singleton frames last ih =>
      rw [← within_inFrame, ih last]
      rfl

namespace Configuration

open Machine

/-
  An error of a style arises here: this step fails with its cause,
  there are active functions in one phase, and the frames of the
  error are those of the call stack.
-/
structure Raises
    (s : Setting)
    (t : Table)
    (keys : List Text)
    (c : Configuration)
    (e : Error) : Prop where
  fails : c.FailsWith s e.kind
  stack : ∃ (calls : List Text) (place : Phase),
    c.callStack = calls.map .function ++ [.phase place] ∧
      place.IsAt t keys c.machine
  context : e.context =
    some ⟨none, c.callStack.map Activation.frame⟩

/-
  Steps perform a part of a style, which begins and ends outside
  the entries.  A success comes to the rest of the tasks, and an
  error to the step where it arises.
-/
structure Performs
    {α : Type}
    (s : Setting)
    (t : Table)
    (keys : List Text)
    (c : Configuration)
    (rest : List Task)
    (o : Outcome α) : Prop where
  success : ∀ a n, o = .finished (.ok a) n →
    Reaches s c ⟨rest, n⟩ ∧ n.current = none
  failure : ∀ e n, o = .finished (.error e) n →
    ∃ c', Reaches s c c' ∧ c'.Raises s t keys e

variable {s : Setting}
variable {t : Table}
variable {keys : List Text}
variable {c c' : Configuration}
variable {rest : List Task}

/-
  Code that fails in a phase: its error collects the frame of the
  phase below those of the functions.
-/
theorem Follows.exists_raises
    {o : Outcome Unit}
    {place : Phase}
    {e : Error}
    {n : Machine}
    (h : Follows s c (.leave (.phase place) :: rest) o)
    (hPlace : ∀ m, m.current = c.machine.current →
      place.IsAt t keys m)
    (hRest : Task.activations rest = [])
    (hEnd : o = .finished (.error e) n) :
    ∃ c', Reaches s c c' ∧
      c'.Raises s t keys
        (e.inFrame (Activation.phase place).frame) := by
  rcases h.failure e n hEnd with
    ⟨inner, m, kind, calls, hReaches, hFails, hCurrent, hCalls, rfl⟩
  have hStack :
      Task.activations (inner ++ .leave (.phase place) :: rest) =
        calls.map .function ++ [.phase place] := by
    rw [Task.activations_append, hCalls, Task.activations, hRest]
  refine ⟨_, hReaches, ?_⟩
  rw [Error.inFrame_within]
  constructor
  · exact hFails
  · exact ⟨calls, place, hStack, hPlace m hCurrent⟩
  · rw [callStack, hStack, hCalls, List.map_append]
    rfl

namespace Performs

variable {α β : Type}

theorem refl
    {m : Machine}
    (hCurrent : m.current = none)
    (a : α) :
    Performs s t keys ⟨rest, m⟩ rest (.finished (.ok a) m) where
  success := by
    rintro _ _ ⟨⟩
    exact ⟨.refl, hCurrent⟩
  failure := by
    rintro _ _ ⟨⟩

/- One step more, before. -/
theorem head
    {o : Outcome α}
    (hStep : c.step s = .goes c')
    (h : Performs s t keys c' rest o) :
    Performs s t keys c rest o where
  success := by
    intro a n hEnd
    rcases h.success a n hEnd with ⟨hReaches, hCurrent⟩
    exact ⟨hReaches.head hStep, hCurrent⟩
  failure := by
    intro e n hEnd
    rcases h.failure e n hEnd with ⟨c'', hReaches, hRaises⟩
    exact ⟨c'', hReaches.head hStep, hRaises⟩

/- One part after another. -/
theorem andThen
    {middle : List Task}
    {o : Outcome α}
    {f : α → Machine → Outcome β}
    (h : Performs s t keys c middle o)
    (hNext : ∀ a n, n.current = none →
      Performs s t keys ⟨middle, n⟩ rest (f a n)) :
    Performs s t keys c rest (o.andThen f) where
  success := by
    intro b n hEnd
    rcases Outcome.andThen_eq_ok.1 hEnd with ⟨a, m, hFirst, hRest⟩
    rcases h.success a m hFirst with ⟨hReaches, hCurrent⟩
    rcases (hNext a m hCurrent).success b n hRest with
      ⟨hMore, hAfter⟩
    exact ⟨hReaches.trans hMore, hAfter⟩
  failure := by
    intro e n hEnd
    rcases Outcome.andThen_eq_error.1 hEnd with
      hFirst | ⟨a, m, hFirst, hRest⟩
    · exact h.failure e n hFirst
    · rcases h.success a m hFirst with ⟨hReaches, hCurrent⟩
      rcases (hNext a m hCurrent).failure e n hRest with
        ⟨c', hMore, hRaises⟩
      exact ⟨c', hReaches.trans hMore, hRaises⟩

end Performs

------------------------------------------------------------
-- Parts of a Style
------------------------------------------------------------

section Parts

variable {fuel : Nat}
variable {m : Machine}

/- Code that runs outside the entries, in a phase of its own. -/
theorem performs_code
    (place : Phase)
    (hPlace : ∀ m, m.current = none → place.IsAt t keys m)
    (hLeave : ∀ n, step s ⟨.leave (.phase place) :: rest, n⟩ =
      .goes ⟨rest, n⟩)
    (hRest : Task.activations rest = [])
    (hCurrent : m.current = none)
    (code : List Instruction) :
    Performs s t keys
      ⟨.job (.code code) :: .leave (.phase place) :: rest, m⟩ rest
      ((execute s fuel code m).mapError
        (·.inFrame (Activation.phase place).frame)) := by
  have hFollows := follows_run (s := s) fuel (.code code) m
    (.leave (.phase place) :: rest)
  constructor
  · intro a n hEnd
    rcases hFollows.success a n (Outcome.mapError_eq_ok.1 hEnd) with
      ⟨hReaches, hAfter⟩
    exact ⟨hReaches.tail (hLeave n), hAfter.trans hCurrent⟩
  · intro e n hEnd
    rcases Outcome.mapError_eq_error.1 hEnd with ⟨e, hError, rfl⟩
    refine hFollows.exists_raises ?_ hRest hError
    intro m' hSame
    exact hPlace m' (hSame.trans hCurrent)

theorem performs_prologue
    (hRest : Task.activations rest = [])
    (hCurrent : m.current = none) :
    Performs s t keys ⟨.prologue :: rest, m⟩ rest
      (runPrologue s fuel m) := by
  unfold runPrologue
  exact .head rfl
    (performs_code .prologue (fun _ h => h) (fun _ => rfl) hRest hCurrent
      s.program.prologue)

theorem performs_epilogue
    (hRest : Task.activations rest = [])
    (hCurrent : m.current = none) :
    Performs s t keys ⟨.epilogue :: rest, m⟩ rest
      (runEpilogue s fuel m) := by
  unfold runEpilogue
  exact .head rfl
    (performs_code .epilogue (fun _ h => h) (fun _ => rfl) hRest hCurrent
      s.program.epilogue)

/- An entry, with the frame of the key that the table has. -/
theorem performs_formatEntry
    {key : Text}
    {item : Text × Entry}
    (hTable : s.table = some t)
    (hFind : t.find? key = some item)
    (hMem : key ∈ keys)
    (hRest : Task.activations rest = []) :
    Performs s t keys ⟨.cite key :: rest, m⟩ rest
      ((formatEntry s fuel key m).mapError
        (·.inFrame (Setting.entryFrame item.1))) := by
  have hEntry : s.table.bind (fun t => t.find? key) = some item := by
    rw [hTable]
    exact hFind
  have hStep := step_cite_of_some hEntry rest m
  have hFollows := follows_run (s := s) fuel
    (.code s.program.entryRoutine) (m.enter s item.1)
    (.leave (.phase (.entry key item.1)) :: rest)
  constructor
  · intro text n hEnd
    have hOk := Outcome.mapError_eq_ok.1 hEnd
    rcases execute_of_formatEntry hEntry hOk with
      ⟨ended, hRun, hLeft⟩
    rcases hLeft text rfl with rfl
    have hRoutine := (hFollows.success () ended hRun).1
    have hCurrent := (formatEntry_eq_ok hOk).2.1
    exact ⟨(hRoutine.tail rfl).head hStep, hCurrent⟩
  · intro e n hEnd
    rcases Outcome.mapError_eq_error.1 hEnd with ⟨e, hError, rfl⟩
    rcases execute_of_formatEntry hEntry hError with
      ⟨ended, hRun, _⟩
    have hPlace : ∀ m', m'.current = (m.enter s item.1).current →
        (Phase.entry key item.1).IsAt t keys m' := by
      intro m' hCurrent
      refine ⟨hMem, ?_, hCurrent⟩
      rw [Table.canonicalKey?, hFind]
      rfl
    rcases hFollows.exists_raises hPlace hRest hRun with
      ⟨c', hReaches, hRaises⟩
    exact ⟨c', hReaches.head hStep, hRaises⟩

/- The entries, one by one. -/
theorem performs_formatEntries
    {cited : List Text}
    (hTable : s.table = some t)
    (hKeys : ∀ key ∈ cited, key ∈ keys)
    (hRest : Task.activations rest = [])
    (hCurrent : m.current = none)
    (done : List FormattedEntry) :
    Performs s t keys ⟨cited.map .cite ++ rest, m⟩ rest
      (s.formatEntries t fuel done cited m) := by
  induction cited generalizing done m with
  | nil => exact .refl hCurrent done
  | cons key more ih =>
      rcases List.forall_mem_cons.1 hKeys with ⟨hKey, hMore⟩
      cases hFind : t.find? key with
      | none =>
          have hNone :
              s.table.bind (fun t => t.find? key) = none := by
            rw [hTable]
            exact hFind
          have hWarned :
              (warn (Setting.unknownKey key) m).2.current = none :=
            hCurrent
          rw [Setting.formatEntries_of_find?_none hFind]
          exact (ih hMore hWarned done).head
            (step_cite_of_none hNone _ m)
      | some item =>
          have hTasks :
              Task.activations (more.map .cite ++ rest) = [] := by
            rw [Task.activations_append, Task.activations_cite, hRest]
            rfl
          rw [Setting.formatEntries_of_find?_some hFind]
          refine (performs_formatEntry hTable hFind hKey hTasks).andThen
            ?_
          intro text n hAfter
          exact ih hMore hAfter _

/- A style from its start to its end. -/
theorem performs_runStyle
    (p : Program)
    (t : Table)
    (fuel : Nat)
    (keys : List Text) :
    Performs ⟨p, some t⟩ t keys (.start p keys) []
      (p.runStyle t fuel keys) := by
  have hTasks :
      Task.activations (keys.map .cite ++ [.epilogue]) = [] := by
    rw [Task.activations_append, Task.activations_cite]
    rfl
  refine (performs_prologue hTasks rfl).andThen ?_
  intro _ m hCurrent
  refine (performs_formatEntries rfl (fun _ h => h) rfl hCurrent
    []).andThen ?_
  intro entries m hCurrent
  refine (performs_epilogue rfl hCurrent).andThen ?_
  intro _ m hCurrent
  exact .refl hCurrent _

end Parts

end Configuration

------------------------------------------------------------
-- Frames
------------------------------------------------------------

namespace Program

open Bibliography.Configuration

/-
  A style that fails comes to one place where it cannot go on.  The
  frames of its error are those of the call stack there: the active
  functions of the program, innermost first, and at last the part
  of the style.
-/
theorem runStyle_frames
    (p : Program)
    (t : Table)
    (fuel : Nat)
    (keys : List Text)
    (e : Error)
    (n : Machine)
    (hRun : p.runStyle t fuel keys = .finished (.error e) n) :
    ∃ c,
      Reaches ⟨p, some t⟩ (.start p keys) c ∧
        c.Raises ⟨p, some t⟩ t keys e ∧
        (∀ a ∈ c.callStack, a.IsOf p) ∧
        ∀ c', Reaches ⟨p, some t⟩ (.start p keys) c' →
          (∀ c'', c'.step ⟨p, some t⟩ ≠ .goes c'') → c' = c := by
  rcases (performs_runStyle p t fuel keys).failure e n hRun with
    ⟨c, hReaches, hRaises⟩
  refine ⟨c, hReaches, hRaises, hReaches.isOf ?_, ?_⟩
  · rw [callStack_start]
    exact List.forall_mem_nil _
  · intro c' hReaches' hLast'
    refine hReaches.unique ?_ hReaches' hLast'
    intro c'' hStep
    rw [hRaises.fails] at hStep
    cases hStep

/-
  A style whose entries choose a function by its name, which calls
  itself once and then takes from an empty stack.
-/
def failingStyle : Program :=
  { Program.empty with
    globals := .ofList [("n".toList, .integer)]
    functions := .ofList
      [("f".toList,
        [.call "n".toList, .integer 1, .call "<".toList,
          .block
            [.integer 1, .quoted "n".toList, .call ":=".toList,
              .call "f".toList],
          .block [.call "pop$".toList],
          .call "if$".toList])]
    entryRoutine :=
      [.integer 1, .quoted "f".toList, .quoted "skip$".toList,
        .call "if$".toList] }

theorem runStyle_frames_recursion :
    ∃ e n c,
      failingStyle.runStyle sampleTable 40
          ["c".toList, "a".toList] = .finished (.error e) n ∧
        e.context =
          some ⟨none, ["function f".toList, "function f".toList,
            "entry A".toList]⟩ ∧
        Reaches ⟨failingStyle, some sampleTable⟩
          (.start failingStyle ["c".toList, "a".toList]) c ∧
        c.Raises ⟨failingStyle, some sampleTable⟩ sampleTable
          ["c".toList, "a".toList] e := by
  have hRun : ∃ e n,
      failingStyle.runStyle sampleTable 40
          ["c".toList, "a".toList] = .finished (.error e) n ∧
        e.context =
          some ⟨none, ["function f".toList, "function f".toList,
            "entry A".toList]⟩ :=
    ⟨_, _, rfl, rfl⟩
  rcases hRun with ⟨e, n, hRun, hFrames⟩
  rcases runStyle_frames _ _ _ _ _ _ hRun with
    ⟨c, hReaches, hRaises, _⟩
  exact ⟨e, n, c, hRun, hFrames, hReaches, hRaises⟩

end Program

end Bibliography
