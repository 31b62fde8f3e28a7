import Bibliography.Style.Builtin

/-
  Running the code of style programs.

  A name means, in this order: a variable of the current entry, a
  declared field, a global variable, a function of the program, a
  built-in function.  Programs can loop, so a run is given fuel;
  running out of it is no result of the program.

  Key definitions include:
    * `Outcome`
    * `Job`
    * `Machine.run`
    * `Machine.formatEntry`
-/

------------------------------------------------------------
-- Outcomes
------------------------------------------------------------

namespace Bibliography

/- A result with the state after it, or no end within the fuel. -/
inductive Outcome (α : Type) where
  | finished (result : Except Error α) (m : Machine)
  | unfinished

namespace Outcome

variable {α β : Type}

/- Go on with a value, or stop at an error. -/
@[inline]
def andThen
    (o : Outcome α)
    (next : α → Machine → Outcome β) : Outcome β :=
  match o with
  | .finished (.ok a) m => next a m
  | .finished (.error e) m => .finished (.error e) m
  | .unfinished => .unfinished

/- Change the error, if there is one. -/
def mapError
    (f : Error → Error) : Outcome α → Outcome α
  | .finished (.error e) m => .finished (.error (f e)) m
  | o => o

/- The result without the state, if there is one. -/
def result? : Outcome α → Option (Except Error α)
  | .finished result _ => some result
  | .unfinished => none

end Outcome

namespace Action

/- The outcome of an operation, which always ends. -/
@[inline]
def outcome
    {α : Type}
    (x : Action α)
    (m : Machine) : Outcome α :=
  .finished (x m).1 (x m).2

end Action

------------------------------------------------------------
-- Names and Jobs
------------------------------------------------------------

/- What a name means in a state. -/
inductive Meaning where
  | value (v : Value)
  | field
  | function (body : List Instruction)
  | builtin (b : Builtin)
  | outsideEntry
  | undefined

/- What there is to run. -/
inductive Job where
  | code (is : List Instruction)
  | callable (c : Callable)
  | symbol (name : Text)
  | loop (test body : Callable)

namespace Machine

/- Look a name up. -/
def meaning
    (s : Setting)
    (m : Machine)
    (name : Text) : Meaning :=
  match m.locals.get? name with
  | some v => .value v
  | none =>
      if s.program.isEntryVariable name then .outsideEntry
      else if s.program.isField name then .field
      else
        match m.globals.get? name with
        | some v => .value v
        | none =>
            match s.program.function? name with
            | some body => .function body
            | none =>
                match Builtin.ofName? name with
                | some b => .builtin b
                | none => .undefined

/- The frame of a function in errors. -/
def functionFrame (name : Text) : Text :=
  "function ".toList ++ name

/- The name of the routine for the current entry. -/
def typeRoutine (s : Setting) : Action Text := do
  let e ← currentEntry s Control.callType.name
  match s.program.typeRoutine? e.entryType with
  | some name => pure name
  | none => .fail (.of (.noTypeRoutine e.entryType))

/- The branch that a conditional chooses. -/
def chooseBranch : Action Callable := do
  let otherwise ← popCallable Control.conditional.name
  let positive ← popCallable Control.conditional.name
  let n ← popInteger Control.conditional.name
  pure (if 0 < n then positive else otherwise)

/- The test and the body of a loop. -/
def loopParts : Action (Callable × Callable) := do
  let body ← popCallable Control.loop.name
  let test ← popCallable Control.loop.name
  pure (test, body)

/- Report an instruction if the machine is tracing. -/
def traced
    (m : Machine)
    (i : Instruction) : Machine :=
  if m.tracing then
    { m with
      log :=
        m.log ++ [.instruction i.render m.stack.length] }
  else m

------------------------------------------------------------
-- Evaluation
------------------------------------------------------------

/-
  Run a job.  Every step into other code takes one unit of fuel.
-/
def run
    (s : Setting) : Nat → Job → Machine → Outcome Unit
  | 0, _, _ => .unfinished
  | _ + 1, .code [], m => .finished (.ok ()) m
  | fuel + 1, .code (i :: rest), m =>
      let first :=
        match i with
        | .string t => (push (.string t)).outcome (m.traced i)
        | .integer n => (push (.integer n)).outcome (m.traced i)
        | .quoted name =>
            (push (.function (.named name))).outcome (m.traced i)
        | .block body =>
            (push (.function (.body body))).outcome (m.traced i)
        | .call name => run s fuel (.symbol name) (m.traced i)
      first.andThen fun _ m => run s fuel (.code rest) m
  | fuel + 1, .callable (.body code), m =>
      run s fuel (.code code) m
  | fuel + 1, .callable (.named name), m =>
      run s fuel (.symbol name) m
  | fuel + 1, .symbol name, m =>
      match m.meaning s name with
      | .value v => (push v).outcome m
      | .outsideEntry =>
          .finished (.error (.of (.noCurrentEntry name))) m
      | .field =>
          ((fieldValue s name).outcome m).andThen
            fun v m => (push v).outcome m
      | .function body =>
          (run s fuel (.code body) m).mapError
            (·.inFrame (functionFrame name))
      | .builtin (.operation o) => (o.perform s).outcome m
      | .builtin (.control .callType) =>
          ((typeRoutine s).outcome m).andThen
            fun name m => run s fuel (.symbol name) m
      | .builtin (.control .conditional) =>
          (chooseBranch.outcome m).andThen
            fun branch m => run s fuel (.callable branch) m
      | .builtin (.control .loop) =>
          (loopParts.outcome m).andThen
            fun parts m => run s fuel (.loop parts.1 parts.2) m
      | .undefined =>
          .finished (.error (.of (.undefinedSymbol name))) m
  | fuel + 1, .loop test body, m =>
      (run s fuel (.callable test) m).andThen fun _ m =>
        ((popInteger Control.loop.name).outcome m).andThen
          fun n m =>
            if 0 < n then
              (run s fuel (.callable body) m).andThen
                fun _ m => run s fuel (.loop test body) m
            else .finished (.ok ()) m

/- Run instructions. -/
def execute
    (s : Setting)
    (fuel : Nat)
    (code : List Instruction)
    (m : Machine) : Outcome Unit :=
  run s fuel (.code code) m

/- Run the prologue of the program. -/
def runPrologue
    (s : Setting)
    (fuel : Nat)
    (m : Machine) : Outcome Unit :=
  (execute s fuel s.program.prologue m).mapError
    (·.inFrame "prologue".toList)

/- Run the epilogue of the program. -/
def runEpilogue
    (s : Setting)
    (fuel : Nat)
    (m : Machine) : Outcome Unit :=
  (execute s fuel s.program.epilogue m).mapError
    (·.inFrame "epilogue".toList)

/- Report what an entry has left on the stack. -/
def reportLeftover
    (key : Text)
    (m : Machine) : Machine :=
  if m.stack.isEmpty then m
  else
    { m with
      log := m.log ++ [.leftover key m.stack.length] }

/-
  Run the entry routine for a key.  The result is what it wrote.
  The entry is left also after an error.
-/
def formatEntry
    (s : Setting)
    (fuel : Nat)
    (key : Text)
    (m : Machine) : Outcome Text :=
  ((beginEntry s key).outcome m).andThen fun _ m =>
    match execute s fuel s.program.entryRoutine m with
    | .unfinished => .unfinished
    | .finished result m' =>
        let m'' := (endEntry m').2
        match result with
        | .error e => .finished (.error e) m''
        | .ok _ =>
            .finished (.ok (m'.output.drop m.output.length))
              (m''.reportLeftover key)

end Machine

end Bibliography
