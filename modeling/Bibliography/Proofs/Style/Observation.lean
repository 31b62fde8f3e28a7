import Bibliography.Style.Evaluation

/-
  Runs that are watched.

  Beside its outcome, a run that is watched gives the built-in
  functions that it has come to, in order.  Watching a run does
  not change it.

  Key definitions include:
    * `Observation`
    * `Watched`
    * `Machine.observe`

  Key statements include:
    * `Machine.outcome_observe`
-/

------------------------------------------------------------
-- Observations
------------------------------------------------------------

namespace Bibliography

/- Nothing more is done after an outcome. -/
theorem Outcome.andThen_finished_ok (o : Outcome Unit) :
    o.andThen (fun _ m => .finished (.ok ()) m) = o := by
  cases o with
  | unfinished => rfl
  | finished result m => cases result <;> rfl

/- An outcome and the built-in functions on the way to it. -/
structure Observation (α : Type) where
  outcome : Outcome α
  builtins : List Builtin

/- What happens from each state of the machine. -/
abbrev Watched (α : Type) :=
  Machine → Observation α

namespace Watched

variable {α β : Type}

/- No end within the fuel. -/
def endless : Watched α :=
  fun _ => ⟨.unfinished, []⟩

/- An operation, of which no built-in function is known. -/
def lift (x : Action α) : Watched α :=
  fun m => ⟨x.outcome m, []⟩

/- Go on with a value, or stop at an error. -/
def andThen
    (w : Watched α)
    (next : α → Watched β) : Watched β :=
  fun m =>
    match w m with
    | ⟨.finished (.ok a) m', builtins⟩ =>
        ⟨(next a m').outcome, builtins ++ (next a m').builtins⟩
    | ⟨.finished (.error e) m', builtins⟩ =>
        ⟨.finished (.error e) m', builtins⟩
    | ⟨.unfinished, builtins⟩ => ⟨.unfinished, builtins⟩

/- Errors collect a frame. -/
def inFrame
    (frame : Text)
    (w : Watched α) : Watched α :=
  fun m =>
    ⟨(w m).outcome.mapError (·.inFrame frame), (w m).builtins⟩

/- The part of a built-in function. -/
def part
    (b : Builtin)
    (w : Watched α) : Watched α :=
  fun m => ⟨(w m).outcome, b :: (w m).builtins⟩

/- The instruction is reported before. -/
def traced
    (i : Instruction)
    (w : Watched α) : Watched α :=
  fun m => w (m.traced i)

/- What happens depends on the meaning of a name. -/
def byMeaning
    (s : Setting)
    (name : Text)
    (w : Meaning → Watched α) : Watched α :=
  fun m => w (m.meaning s name) m

theorem outcome_andThen
    (w : Watched α)
    (next : α → Watched β)
    (m : Machine) :
    (w.andThen next m).outcome =
      (w m).outcome.andThen (fun a m => (next a m).outcome) := by
  unfold andThen
  rcases w m with ⟨_ | _, builtins⟩
  · rename_i result m'
    cases result <;> rfl
  · rfl

/- What the first part comes to, the whole comes to. -/
theorem mem_andThen_of_first
    {w : Watched α}
    {next : α → Watched β}
    {m : Machine}
    {b : Builtin}
    (h : b ∈ (w m).builtins) : b ∈ (w.andThen next m).builtins := by
  unfold andThen
  split
  · rename_i hFirst
    rw [hFirst] at h
    exact List.mem_append_left _ h
  · rename_i hFirst
    rwa [hFirst] at h
  · rename_i hFirst
    rwa [hFirst] at h

/- So it does with what the second part comes to. -/
theorem mem_andThen_of_next
    {w : Watched α}
    {next : α → Watched β}
    {m m' : Machine}
    {a : α}
    {b : Builtin}
    (hFirst : (w m).outcome = .finished (.ok a) m')
    (h : b ∈ (next a m').builtins) :
    b ∈ (w.andThen next m).builtins := by
  unfold andThen
  rcases hWatched : w m with ⟨outcome, builtins⟩
  rw [hWatched] at hFirst
  cases hFirst
  exact List.mem_append_right _ h

/- Operations in a row are watched in a row. -/
theorem lift_bind
    (x : Action α)
    (f : α → Action β) :
    lift (x >>= f) = (lift x).andThen (fun a => lift (f a)) := by
  funext m
  have hRun : (x >>= f) m = Action.bind x f m := rfl
  unfold andThen lift Action.outcome
  rw [hRun]
  unfold Action.bind
  rcases x m with ⟨result, m'⟩
  cases result <;> rfl

end Watched

------------------------------------------------------------
-- Watched Runs
------------------------------------------------------------

namespace Machine

open Watched

/- Run a job and watch it. -/
def observe
    (s : Setting) : Nat → Job → Watched Unit
  | 0, _ => endless
  | _ + 1, .code [] => lift (pure ())
  | fuel + 1, .code (i :: rest) =>
      let first :=
        match i with
        | .string t => lift (push (.string t))
        | .integer n => lift (push (.integer n))
        | .quoted name => lift (push (.function (.named name)))
        | .block body => lift (push (.function (.body body)))
        | .call name => observe s fuel (.symbol name)
      (first.traced i).andThen fun _ => observe s fuel (.code rest)
  | fuel + 1, .callable (.body code) => observe s fuel (.code code)
  | fuel + 1, .callable (.named name) => observe s fuel (.symbol name)
  | fuel + 1, .symbol name =>
      byMeaning s name fun
        | .value v => lift (push v)
        | .outsideEntry => lift (.fail (.of (.noCurrentEntry name)))
        | .undefined => lift (.fail (.of (.undefinedSymbol name)))
        | .field => lift (fieldValue s name >>= push)
        | .function body =>
            (observe s fuel (.code body)).inFrame (functionFrame name)
        | .builtin (.operation o) =>
            (lift (o.perform s)).part (.operation o)
        | .builtin (.control .callType) =>
            ((lift (typeRoutine s)).andThen fun routine =>
              observe s fuel (.symbol routine)).part
                (.control .callType)
        | .builtin (.control .conditional) =>
            ((lift chooseBranch).andThen fun branch =>
              observe s fuel (.callable branch)).part
                (.control .conditional)
        | .builtin (.control .loop) =>
            ((lift loopParts).andThen fun parts =>
              observe s fuel (.loop parts.1 parts.2)).part
                (.control .loop)
  | fuel + 1, .loop test body =>
      (observe s fuel (.callable test)).andThen fun _ =>
        (lift (popInteger Control.loop.name)).andThen fun n =>
          if 0 < n then
            (observe s fuel (.callable body)).andThen fun _ =>
              observe s fuel (.loop test body)
          else lift (pure ())

/- Tracing an instruction changes nothing but the log. -/
theorem traced_log
    (m : Machine)
    (i : Instruction) :
    ∃ log, m.traced i = { m with log := log } := by
  unfold traced
  split
  · exact ⟨_, rfl⟩
  · exact ⟨m.log, rfl⟩

/- A run is not changed by being watched. -/
theorem outcome_observe
    (s : Setting)
    (fuel : Nat)
    (job : Job)
    (m : Machine) :
    (observe s fuel job m).outcome = run s fuel job m := by
  induction fuel generalizing job m with
  | zero => rfl
  | succ fuel ih =>
      cases job with
      | code is =>
          cases is with
          | nil => rfl
          | cons i rest =>
              unfold observe run
              rw [outcome_andThen]
              simp only [ih]
              congr 1
              cases i with
              | call name => exact ih (.symbol name) (m.traced _)
              | _ => rfl
      | callable c =>
          cases c with
          | named name => exact ih (.symbol name) m
          | body code => exact ih (.code code) m
      | symbol name =>
          unfold observe run byMeaning
          cases m.meaning s name with
          | field =>
              dsimp only
              rw [lift_bind, outcome_andThen]
              rfl
          | function body =>
              exact congrArg (Outcome.mapError _) (ih (.code body) m)
          | builtin b =>
              cases b with
              | operation o => rfl
              | control c =>
                  cases c <;>
                  · dsimp only [part]
                    rw [outcome_andThen]
                    simp only [ih]
                    rfl
          | _ => rfl
      | loop test body =>
          unfold observe run
          rw [outcome_andThen, ih]
          congr 1
          funext _ m₁
          rw [outcome_andThen]
          congr 1
          funext n m₂
          split
          · rw [outcome_andThen, ih]
            simp only [ih]
          · rfl

end Machine

end Bibliography
