import Bibliography.Proofs.Style.Compositional
import Bibliography.Style.Output
import Mathlib.Logic.Relation

/-
  Running a style step by step.

  Instead of calling itself, this machine keeps a list of what is
  still to be done.  Entering a function or a phase of the style
  leaves a task to come back, so the list shows at every moment
  what has been entered and not left: the call stack.  The last
  section shows that a job which is run is done by steps in the
  same way, whatever there is to do after it.

  Key definitions include:
    * `Activation`
    * `Configuration`
    * `Configuration.callStack`
    * `Configuration.step`
    * `Configuration.Follows`

  Key statements include:
    * `Configuration.Reaches.unique`
    * `Machine.operational_isPlain`
    * `Configuration.follows_run`
-/

------------------------------------------------------------
-- Tasks
------------------------------------------------------------

namespace Bibliography

/-
  The parts of a style's run.  An entry is known by the key that
  cites it and by its own key.
-/
inductive Phase where
  | prologue
  | entry (cited canonical : Text)
  | epilogue

/- What can be entered and left. -/
inductive Activation where
  | function (name : Text)
  | phase (p : Phase)

/- The frame that an error collects on leaving. -/
def Activation.frame : Activation → Text
  | .function name => "function ".toList ++ name
  | .phase .prologue => "prologue".toList
  | .phase (.entry _ canonical) => "entry ".toList ++ canonical
  | .phase .epilogue => "epilogue".toList

/-
  What is to be done: a job, the decision after the test of a loop,
  the parts of a style, and coming back from what was entered.
-/
inductive Task where
  | job (j : Job)
  | afterTest (test body : Callable)
  | prologue
  | cite (key : Text)
  | epilogue
  | leave (a : Activation)

namespace Task

/- What is entered and not left before the tasks are done. -/
def activations : List Task → List Activation
  | [] => []
  | .leave a :: rest => a :: activations rest
  | _ :: rest => activations rest

@[simp]
theorem activations_append
    (first rest : List Task) :
    activations (first ++ rest) =
      activations first ++ activations rest := by
  induction first with
  | nil => rfl
  | cons task more ih =>
      cases task with
      | leave a => exact congrArg (a :: ·) ih
      | _ => exact ih

/- Entries to come are not entered yet. -/
@[simp]
theorem activations_cite
    (keys : List Text) : activations (keys.map .cite) = [] := by
  induction keys with
  | nil => rfl
  | cons key rest ih => exact ih

end Task

------------------------------------------------------------
-- Steps
------------------------------------------------------------

/- The tasks, the next one first, and the state of the machine. -/
structure Configuration where
  tasks : List Task
  machine : Machine

/- What a step comes to. -/
inductive Turn where
  | goes (c : Configuration)
  | fails (e : Error)
  | ends

namespace Configuration

open Machine

/- What has been entered and not left, innermost first. -/
def callStack (c : Configuration) : List Activation :=
  Task.activations c.tasks

/- The configuration in which a style is run from its start. -/
def start
    (p : Program)
    (keys : List Text) : Configuration where
  tasks := .prologue :: (keys.map .cite ++ [.epilogue])
  machine := .initial p

/- An operation, and the tasks after it. -/
def attempt
    {α : Type}
    (x : Action α)
    (next : α → List Task)
    (m : Machine) : Turn :=
  match x m with
  | (.ok a, n) => .goes ⟨next a, n⟩
  | (.error e, _) => .fails e

/- An instruction, with the tasks after it. -/
def stepInstruction
    (rest : List Task)
    (m : Machine) : Instruction → Turn
  | .string t => attempt (push (.string t)) (fun _ => rest) m
  | .integer n => attempt (push (.integer n)) (fun _ => rest) m
  | .quoted name =>
      attempt (push (.function (.named name))) (fun _ => rest) m
  | .block body =>
      attempt (push (.function (.body body))) (fun _ => rest) m
  | .call name => .goes ⟨.job (.symbol name) :: rest, m⟩

/- What a name means is done, or entered. -/
def stepMeaning
    (s : Setting)
    (name : Text)
    (rest : List Task)
    (m : Machine) : Meaning → Turn
  | .value v => attempt (push v) (fun _ => rest) m
  | .outsideEntry => .fails (.of (.noCurrentEntry name))
  | .undefined => .fails (.of (.undefinedSymbol name))
  | .field => attempt (fieldValue s name >>= push) (fun _ => rest) m
  | .function body =>
      .goes ⟨.job (.code body) :: .leave (.function name) :: rest, m⟩
  | .builtin (.operation o) => attempt (o.perform s) (fun _ => rest) m
  | .builtin (.control .callType) =>
      attempt (typeRoutine s)
        (fun routine => .job (.symbol routine) :: rest) m
  | .builtin (.control .conditional) =>
      attempt chooseBranch
        (fun branch => .job (.callable branch) :: rest) m
  | .builtin (.control .loop) =>
      attempt loopParts
        (fun parts => .job (.loop parts.1 parts.2) :: rest) m

/- A job is begun. -/
def stepJob
    (s : Setting)
    (rest : List Task)
    (m : Machine) : Job → Turn
  | .code [] => .goes ⟨rest, m⟩
  | .code (i :: more) =>
      stepInstruction (.job (.code more) :: rest) (m.traced i) i
  | .callable (.body code) => .goes ⟨.job (.code code) :: rest, m⟩
  | .callable (.named name) => .goes ⟨.job (.symbol name) :: rest, m⟩
  | .symbol name => stepMeaning s name rest m (m.meaning s name)
  | .loop test body =>
      .goes ⟨.job (.callable test) :: .afterTest test body :: rest, m⟩

/- The next task of a list. -/
def step (s : Setting) : Configuration → Turn
  | ⟨[], _⟩ => .ends
  | ⟨.job j :: rest, m⟩ => stepJob s rest m j
  | ⟨.afterTest test body :: rest, m⟩ =>
      attempt (popInteger Control.loop.name)
        (fun n =>
          if 0 < n then
            .job (.callable body) :: .job (.loop test body) :: rest
          else rest) m
  | ⟨.prologue :: rest, m⟩ =>
      .goes ⟨.job (.code s.program.prologue) ::
        .leave (.phase .prologue) :: rest, m⟩
  | ⟨.cite key :: rest, m⟩ =>
      match s.table.bind (fun t => t.find? key) with
      | none =>
          attempt (warn (Setting.unknownKey key)) (fun _ => rest) m
      | some (canonical, _) =>
          attempt (beginEntry s key)
            (fun _ =>
              .job (.code s.program.entryRoutine) ::
                .leave (.phase (.entry key canonical)) :: rest) m
  | ⟨.epilogue :: rest, m⟩ =>
      .goes ⟨.job (.code s.program.epilogue) ::
        .leave (.phase .epilogue) :: rest, m⟩
  | ⟨.leave (.phase (.entry cited _)) :: rest, m⟩ =>
      .goes ⟨rest, (endEntry m).2.reportLeftover cited⟩
  | ⟨.leave _ :: rest, m⟩ => .goes ⟨rest, m⟩

/- Some steps lead from one configuration to another. -/
def Reaches (s : Setting) : Configuration → Configuration → Prop :=
  Relation.ReflTransGen (fun c c' => c.step s = .goes c')

/- The step from a configuration fails with a cause. -/
def FailsWith
    (s : Setting)
    (c : Configuration)
    (kind : ErrorKind) : Prop :=
  c.step s = .fails (.of kind)

/- At the start nothing has been entered. -/
theorem callStack_start
    (p : Program)
    (keys : List Text) : (start p keys).callStack = [] := by
  calc (start p keys).callStack
      = Task.activations (keys.map .cite ++ [.epilogue]) := rfl
    _ = [] := by
        rw [Task.activations_append, Task.activations_cite]
        rfl

variable {s : Setting}

theorem Reaches.head
    {c c' c'' : Configuration}
    (hStep : c.step s = .goes c')
    (h : Reaches s c' c'') : Reaches s c c'' :=
  Relation.ReflTransGen.head hStep h

/- Steps are determined, so only one configuration has no next. -/
theorem Reaches.unique
    {c last last' : Configuration}
    (h : Reaches s c last)
    (hLast : ∀ c', last.step s ≠ .goes c')
    (h' : Reaches s c last')
    (hLast' : ∀ c', last'.step s ≠ .goes c') : last' = last := by
  have hUnique : Relator.RightUnique
      (fun c c' : Configuration => c.step s = .goes c') := by
    intro c c₁ c₂ h₁ h₂
    rw [h₁] at h₂
    cases h₂
    rfl
  rcases Relation.ReflTransGen.total_of_right_unique hUnique h h' with
    hMore | hMore
  · rcases Relation.ReflTransGen.cases_head hMore with hSame | hNext
    · exact hSame.symm
    · rcases hNext with ⟨c', hStep, _⟩
      exact absurd hStep (hLast c')
  · rcases Relation.ReflTransGen.cases_head hMore with hSame | hNext
    · exact hSame
    · rcases hNext with ⟨c', hStep, _⟩
      exact absurd hStep (hLast' c')

end Configuration

------------------------------------------------------------
-- Operations
------------------------------------------------------------

/- Operations in a row are one operation. -/
theorem Action.outcome_bind
    {α β : Type}
    (x : Action α)
    (f : α → Action β)
    (m : Machine) :
    (x >>= f).outcome m =
      (x.outcome m).andThen (fun a n => (f a).outcome n) := by
  have hBind := congrFun (Watched.lift_bind x f) m
  have hOutcome := congrArg Observation.outcome hBind
  rwa [Watched.outcome_andThen] at hOutcome

namespace Outcome

variable {α : Type}

/-
  An end within the same entry; if it is an error, then the error
  has not left anything yet.
-/
def IsPlain
    (m : Machine)
    (o : Outcome α) : Prop :=
  ∀ result n, o = .finished result n →
    n.current = m.current ∧
      ∀ e, result = .error e → ∃ kind, e = .of kind

variable {m n : Machine}

theorem isPlain_ok
    (a : α)
    (h : n.current = m.current) :
    (finished (.ok a) n).IsPlain m := by
  rintro _ _ ⟨⟩
  refine ⟨h, ?_⟩
  rintro e ⟨⟩

theorem isPlain_error
    {e : Error}
    (h : e.IsOwn)
    (m : Machine) :
    (finished (.error e : Except Error α) m).IsPlain m := by
  rintro _ _ ⟨⟩
  refine ⟨rfl, ?_⟩
  rintro _ ⟨⟩
  exact ⟨e.kind, by rw [Error.of, ← h.context]⟩

theorem isPlain_of
    (kind : ErrorKind)
    (m : Machine) :
    (finished (.error (.of kind) : Except Error α) m).IsPlain m := by
  rintro _ _ ⟨⟩
  refine ⟨rfl, ?_⟩
  rintro _ ⟨⟩
  exact ⟨kind, rfl⟩

end Outcome

namespace Machine

open Outcome

variable {s : Setting}

/- What is reported does not change the current entry. -/
theorem current_traced
    (m : Machine)
    (i : Instruction) : (m.traced i).current = m.current := by
  rcases traced_log m i with ⟨log, hLog⟩
  rw [hLog]

theorem assign_isPlain
    (name : Text)
    (v : Value)
    (m : Machine) : ((assign s name v).outcome m).IsPlain m := by
  unfold assign Action.outcome
  dsimp only
  split
  · split
    · rename_i hError
      exact isPlain_error (OwnErrors.assignedOver _ v _ hError) m
    · exact isPlain_ok _ rfl
  · split
    · exact isPlain_of _ m
    · split
      · exact isPlain_of _ m
      · split
        · rename_i hError
          exact isPlain_error (OwnErrors.assignedOver _ v _ hError) m
        · exact isPlain_ok _ rfl

/- The primitive operations are plain, and so is what is composed. -/
theorem operational_isPlain :
    Watched.Operational s
      (fun _ w => ∀ m, (w m).outcome.IsPlain m) where
  ofExcept := by
    intro α result hOwn m
    cases result with
    | ok a => exact isPlain_ok a rfl
    | error e => exact isPlain_error (hOwn e rfl) m
  push := fun _ _ => isPlain_ok _ rfl
  pop := by
    intro operation m
    rcases m with ⟨_ | ⟨v, rest⟩, _, _, _, _, _, _, _⟩
    · exact isPlain_of _ _
    · exact isPlain_ok _ rfl
  report := fun _ _ => isPlain_ok _ rfl
  warn := fun _ _ => isPlain_ok _ rfl
  write := fun _ _ => isPlain_ok _ rfl
  assign := assign_isPlain
  currentKey := by
    intro operation m
    rcases m with ⟨_, _, _, _ | key, _, _, _, _⟩
    · exact isPlain_of _ _
    · exact isPlain_ok _ rfl
  showStack := fun _ => isPlain_ok _ rfl
  andThen := by
    intro α β w next hFirst hNext m result n hEnd
    rw [Watched.outcome_andThen] at hEnd
    cases hOutcome : (w m).outcome with
    | unfinished =>
        rw [hOutcome] at hEnd
        cases hEnd
    | finished first m₁ =>
        rw [hOutcome] at hEnd
        rcases hFirst m first m₁ hOutcome with ⟨hCurrent, hBare⟩
        cases first with
        | ok a =>
            rcases hNext a m₁ result n hEnd with ⟨hAfter, hRest⟩
            exact ⟨hAfter.trans hCurrent, hRest⟩
        | error e =>
            cases hEnd
            refine ⟨hCurrent, ?_⟩
            rintro _ ⟨⟩
            exact hBare e rfl
  part := fun _ _ h => h

end Machine

------------------------------------------------------------
-- Jobs Step by Step
------------------------------------------------------------

/- The error after it has left some frames, innermost first. -/
def Error.within
    (e : Error)
    (frames : List Text) : Error :=
  frames.foldl inFrame e

theorem Error.within_inFrame
    (e : Error)
    (frames : List Text)
    (frame : Text) :
    (e.within frames).inFrame frame =
      e.within (frames ++ [frame]) := by
  rw [within, within, List.foldl_append]
  rfl

namespace Configuration

open Machine

variable {s : Setting}
variable {α β : Type}
variable {c c' : Configuration}
variable {rest : List Task}

/-
  Steps lead from a configuration to an outcome.  Where it is a
  success, they come to the rest of the tasks.  Where it is an
  error, they come to a step that fails with its cause, and its
  frames are those of the functions entered and not left since.
-/
structure Follows
    (s : Setting)
    (c : Configuration)
    (rest : List Task)
    (o : Outcome α) : Prop where
  success : ∀ a n, o = .finished (.ok a) n →
    Reaches s c ⟨rest, n⟩ ∧ n.current = c.machine.current
  failure : ∀ e n, o = .finished (.error e) n →
    ∃ (inner : List Task) (m : Machine) (kind : ErrorKind)
      (calls : List Text),
      Reaches s c ⟨inner ++ rest, m⟩ ∧
        FailsWith s ⟨inner ++ rest, m⟩ kind ∧
        m.current = c.machine.current ∧
        Task.activations inner = calls.map .function ∧
        e = (Error.of kind).within
          ((Task.activations inner).map Activation.frame)

namespace Follows

theorem refl
    (a : α)
    (m : Machine) :
    Follows s ⟨rest, m⟩ rest (.finished (.ok a) m) where
  success := by
    rintro _ _ ⟨⟩
    exact ⟨.refl, rfl⟩
  failure := by
    rintro _ _ ⟨⟩

theorem unfinished :
    Follows s c rest (.unfinished : Outcome α) where
  success := by
    rintro _ _ ⟨⟩
  failure := by
    rintro _ _ ⟨⟩

/- One step more, before. -/
theorem head
    {o : Outcome α}
    (hStep : c.step s = .goes c')
    (hCurrent : c'.machine.current = c.machine.current)
    (h : Follows s c' rest o) : Follows s c rest o where
  success := by
    intro a n hEnd
    rcases h.success a n hEnd with ⟨hReaches, hAfter⟩
    exact ⟨hReaches.head hStep, hAfter.trans hCurrent⟩
  failure := by
    intro e n hEnd
    rcases h.failure e n hEnd with
      ⟨inner, m, kind, calls, hReaches, hFails, hAfter, hFrames⟩
    exact ⟨inner, m, kind, calls, hReaches.head hStep, hFails,
      hAfter.trans hCurrent, hFrames⟩

/- A task that fails on its own. -/
theorem fails
    {task : Task}
    {kind : ErrorKind}
    {m n : Machine}
    (hFails : FailsWith s ⟨task :: rest, m⟩ kind)
    (hTask : Task.activations [task] = []) :
    Follows s ⟨task :: rest, m⟩ rest
      (.finished (.error (.of kind) : Except Error α) n) where
  success := by
    rintro _ _ ⟨⟩
  failure := by
    rintro _ _ ⟨⟩
    refine ⟨[task], m, kind, [], .refl, hFails, rfl, hTask, ?_⟩
    rw [hTask]
    rfl

/- An operation, and what is done with its value. -/
theorem attempt
    {x : Action α}
    {next : α → List Task}
    {m m' : Machine}
    {task : Task}
    {f : α → Machine → Outcome β}
    (hPlain : (x.outcome m').IsPlain m')
    (hCurrent : m'.current = m.current)
    (hStep : step s ⟨task :: rest, m⟩ =
      Configuration.attempt x next m')
    (hTask : Task.activations [task] = [])
    (hNext : ∀ a n, Follows s ⟨next a, n⟩ rest (f a n)) :
    Follows s ⟨task :: rest, m⟩ rest
      ((x.outcome m').andThen f) := by
  unfold Action.outcome at hPlain ⊢
  unfold Configuration.attempt at hStep
  rcases hResult : x m' with ⟨result, n⟩
  rw [hResult] at hPlain hStep
  rcases hPlain result n rfl with ⟨hSame, hBare⟩
  cases result with
  | ok a => exact (hNext a n).head hStep (hSame.trans hCurrent)
  | error e =>
      rcases hBare e rfl with ⟨kind, rfl⟩
      exact fails hStep hTask

/- An operation after which the rest is to be done. -/
theorem operation
    {x : Action Unit}
    {m m' : Machine}
    {task : Task}
    (hPlain : (x.outcome m').IsPlain m')
    (hCurrent : m'.current = m.current)
    (hStep : step s ⟨task :: rest, m⟩ =
      Configuration.attempt x (fun _ => rest) m')
    (hTask : Task.activations [task] = []) :
    Follows s ⟨task :: rest, m⟩ rest (x.outcome m') := by
  have h := attempt hPlain hCurrent hStep hTask
    (fun _ n => refl () n)
  rwa [Outcome.andThen_finished_ok] at h

/- The tasks of one outcome before those of the next. -/
theorem andThen
    {o : Outcome α}
    {f : α → Machine → Outcome β}
    (between : List Task)
    (h : Follows s c (between ++ rest) o)
    (hBetween : Task.activations between = [])
    (hNext : ∀ a n,
      Follows s ⟨between ++ rest, n⟩ rest (f a n)) :
    Follows s c rest (o.andThen f) := by
  cases o with
  | unfinished => exact unfinished
  | finished result n =>
      cases result with
      | ok a =>
          rcases h.success a n rfl with ⟨hReaches, hCurrent⟩
          constructor
          · intro b n' hEnd
            rcases (hNext a n).success b n' hEnd with
              ⟨hMore, hAfter⟩
            exact ⟨hReaches.trans hMore, hAfter.trans hCurrent⟩
          · intro e n' hEnd
            rcases (hNext a n).failure e n' hEnd with
              ⟨inner, m, kind, calls, hMore, hFails, hAfter, hFrames⟩
            exact ⟨inner, m, kind, calls, hReaches.trans hMore,
              hFails, hAfter.trans hCurrent, hFrames⟩
      | error e =>
          constructor
          · rintro _ _ ⟨⟩
          · rintro _ _ ⟨⟩
            rcases h.failure e n rfl with
              ⟨inner, m, kind, calls, hReaches, hFails, hAfter,
                hCalls, hFrames⟩
            rw [← List.append_assoc] at hReaches hFails
            have hSame : Task.activations (inner ++ between) =
                Task.activations inner := by
              rw [Task.activations_append, hBetween, List.append_nil]
            rw [← hSame] at hCalls hFrames
            exact ⟨inner ++ between, m, kind, calls, hReaches, hFails,
              hAfter, hCalls, hFrames⟩

/- Coming back from a function, an error collects its frame. -/
theorem inFrame
    {o : Outcome Unit}
    {name : Text}
    (h : Follows s c (.leave (.function name) :: rest) o) :
    Follows s c rest
      (o.mapError (·.inFrame (functionFrame name))) := by
  cases o with
  | unfinished => exact unfinished
  | finished result n =>
      cases result with
      | ok a =>
          constructor
          · rintro _ _ ⟨⟩
            rcases h.success a n rfl with ⟨hReaches, hCurrent⟩
            exact ⟨hReaches.tail rfl, hCurrent⟩
          · rintro _ _ ⟨⟩
      | error e =>
          constructor
          · rintro _ _ ⟨⟩
          · rintro _ _ ⟨⟩
            rcases h.failure e n rfl with
              ⟨inner, m, kind, calls, hReaches, hFails, hCurrent,
                hCalls, rfl⟩
            rw [List.append_cons] at hReaches hFails
            refine ⟨_, m, kind, calls ++ [name], hReaches, hFails,
              hCurrent, ?_, ?_⟩
            · rw [Task.activations_append, hCalls, List.map_append]
              rfl
            · dsimp only
              rw [Error.within_inFrame, Task.activations_append,
                List.map_append]
              rfl

end Follows

section Jobs

variable {fuel : Nat}
variable {m : Machine}

/- Instructions, if the jobs that they start are followed. -/
theorem follows_code
    (ih : ∀ job n rest,
      Follows s ⟨.job job :: rest, n⟩ rest (run s fuel job n))
    (i : Instruction)
    (is : List Instruction) :
    Follows s ⟨.job (.code (i :: is)) :: rest, m⟩ rest
      (run s (fuel + 1) (.code (i :: is)) m) := by
  have hPlain := @operational_isPlain s
  have hPush : ∀ v,
      step s ⟨.job (.code (i :: is)) :: rest, m⟩ =
        attempt (push v) (fun _ => .job (.code is) :: rest)
          (m.traced i) →
      Follows s ⟨.job (.code (i :: is)) :: rest, m⟩ rest
        (((push v).outcome (m.traced i)).andThen
          fun _ n => run s fuel (.code is) n) := by
    intro v hStep
    exact .attempt (hPlain.push v _) (current_traced m i) hStep rfl
      (fun _ n => ih (.code is) n rest)
  unfold run
  cases i with
  | string t => exact hPush _ rfl
  | integer n => exact hPush _ rfl
  | quoted name => exact hPush _ rfl
  | block body => exact hPush _ rfl
  | call name =>
      have hCall := ih (.symbol name) (m.traced (.call name))
        (.job (.code is) :: rest)
      exact (hCall.head rfl (current_traced m _)).andThen
        [.job (.code is)] rfl (fun _ n => ih (.code is) n rest)

/- A name, if the code behind it is followed. -/
theorem follows_symbol
    (ih : ∀ job n rest,
      Follows s ⟨.job job :: rest, n⟩ rest (run s fuel job n))
    (name : Text) :
    Follows s ⟨.job (.symbol name) :: rest, m⟩ rest
      (run s (fuel + 1) (.symbol name) m) := by
  have hPlain := @operational_isPlain s
  have hStep : step s ⟨.job (.symbol name) :: rest, m⟩ =
      stepMeaning s name rest m (m.meaning s name) := rfl
  unfold run
  cases hMeaning : m.meaning s name with
  | value v =>
      rw [hMeaning] at hStep
      exact .operation (hPlain.push v m) rfl hStep rfl
  | outsideEntry =>
      rw [hMeaning] at hStep
      exact .fails hStep rfl
  | undefined =>
      rw [hMeaning] at hStep
      exact .fails hStep rfl
  | field =>
      rw [hMeaning] at hStep
      dsimp only
      rw [← Action.outcome_bind]
      exact .operation (hPlain.bind (hPlain.fieldValue name)
        hPlain.push m) rfl hStep rfl
  | function body =>
      rw [hMeaning] at hStep
      exact ((ih (.code body) m _).head hStep rfl).inFrame
  | builtin b =>
      rw [hMeaning] at hStep
      cases b with
      | operation o =>
          exact .operation (hPlain.perform o m) rfl hStep rfl
      | control c =>
          cases c with
          | callType =>
              exact .attempt (hPlain.typeRoutine m) rfl hStep rfl
                (fun routine n => ih (.symbol routine) n rest)
          | conditional =>
              exact .attempt (hPlain.chooseBranch m) rfl hStep rfl
                (fun branch n => ih (.callable branch) n rest)
          | loop =>
              exact .attempt (hPlain.loopParts m) rfl hStep rfl
                (fun parts n => ih (.loop parts.1 parts.2) n rest)

/- A loop, if its test and its body are followed. -/
theorem follows_loop
    (ih : ∀ job n rest,
      Follows s ⟨.job job :: rest, n⟩ rest (run s fuel job n))
    (test body : Callable) :
    Follows s ⟨.job (.loop test body) :: rest, m⟩ rest
      (run s (fuel + 1) (.loop test body) m) := by
  have hPlain := @operational_isPlain s
  unfold run
  have hTest := ih (.callable test) m (.afterTest test body :: rest)
  refine .andThen [.afterTest test body] (.head rfl rfl hTest) rfl ?_
  intro _ n
  refine .attempt (hPlain.popInteger _ n) rfl rfl rfl ?_
  intro number n'
  split
  · have hBody := ih (.callable body) n'
      (.job (.loop test body) :: rest)
    exact hBody.andThen [.job (.loop test body)] rfl
      (fun _ n => ih (.loop test body) n rest)
  · exact .refl () n'

/-
  What a job comes to when it is run, it comes to step by step,
  whatever is to be done after it.  The induction is on the fuel.
-/
theorem follows_run
    (fuel : Nat)
    (job : Job)
    (m : Machine)
    (rest : List Task) :
    Follows s ⟨.job job :: rest, m⟩ rest (run s fuel job m) := by
  induction fuel generalizing job m rest with
  | zero => exact .unfinished
  | succ fuel ih =>
      cases job with
      | code is =>
          cases is with
          | nil => exact (Follows.refl () m).head rfl rfl
          | cons i is => exact follows_code ih i is
      | callable c =>
          cases c with
          | named name => exact (ih (.symbol name) m rest).head rfl rfl
          | body code => exact (ih (.code code) m rest).head rfl rfl
      | symbol name => exact follows_symbol ih name
      | loop test body => exact follows_loop ih test body

end Jobs

end Configuration

end Bibliography
