import Bibliography.Style.Program
import Bibliography.Table.Lookup

/-
  The machine that runs style programs, and what an operation can
  do to it.

  The program and the table do not change during a run; they are
  the setting.  Everything else is the state of the machine.  An
  operation that fails leaves the state as it was when it failed.

  Key definitions include:
    * `Setting`
    * `Event`
    * `Machine`
    * `Action`
    * `Machine.pop`
    * `Machine.assign`
    * `Machine.beginEntry`
-/

------------------------------------------------------------
-- State
------------------------------------------------------------

namespace Bibliography

/- The program to run and the table it reads, if there is one. -/
structure Setting where
  program : Program
  table : Option Table

/- What the machine reports beside its output. -/
inductive Event where
  | top (shown : Text)
  | stackItem (shown : Text)
  | warning (message : Text)
  | leftover (key : Text) (depth : Nat)
  | instruction (shown : Text) (depth : Nat)
  deriving DecidableEq

namespace Event

/- The line that reports an event. -/
def describe : Event → Text
  | .top shown => "INFO top$ value=".toList ++ shown
  | .stackItem shown => "INFO stack$ value=".toList ++ shown
  | .warning message => "WARN ".toList ++ message
  | .leftover key depth =>
      "DEBUG stack not empty after entry key=".toList ++ key ++
        s!" depth={depth}".toList
  | .instruction shown depth =>
      "TRACE execute instruction=".toList ++ shown ++
        s!" depth={depth}".toList

end Event

/- The state of a run; the stack has its top first. -/
structure Machine where
  stack : List Value
  globals : SortedMap Value
  locals : SortedMap Value
  current : Option Text
  output : Text
  warnings : List Text
  tracing : Bool
  log : List Event
  deriving DecidableEq

------------------------------------------------------------
-- Actions
------------------------------------------------------------

/- An operation: a value or an error, and the state after it. -/
def Action (α : Type) : Type :=
  Machine → Except Error α × Machine

namespace Action

variable {α β : Type}

/- A value without a change of state. -/
@[inline]
def pure (a : α) : Action α :=
  fun m => (.ok a, m)

/- One operation after another; an error ends them. -/
@[inline]
def bind
    (x : Action α)
    (f : α → Action β) : Action β :=
  fun m =>
    match x m with
    | (.ok a, m') => f a m'
    | (.error e, m') => (.error e, m')

instance : Monad Action where
  pure := pure
  bind := bind

/- An error without a change of state. -/
def fail (e : Error) : Action α :=
  fun m => (.error e, m)

/- A result that does not depend on the state. -/
def ofExcept : Except Error α → Action α
  | .ok a => pure a
  | .error e => fail e

/- A value read from the state. -/
def read (f : Machine → α) : Action α :=
  fun m => (.ok (f m), m)

/- A change of state. -/
def modify (f : Machine → Machine) : Action Unit :=
  fun m => (.ok (), f m)

end Action

------------------------------------------------------------
-- Operations
------------------------------------------------------------

namespace Machine

/- The machine at the start of a run. -/
def initial (p : Program) : Machine where
  stack := []
  globals := p.initialGlobals
  locals := .empty
  current := none
  output := []
  warnings := []
  tracing := false
  log := []

/- Report an event. -/
def report (event : Event) : Action Unit :=
  .modify (fun m => { m with log := m.log ++ [event] })

/- Put a value on the stack. -/
def push (v : Value) : Action Unit :=
  .modify (fun m => { m with stack := v :: m.stack })

/- Take a value from the stack on behalf of an operation. -/
def pop (operation : Text) : Action Value :=
  fun m =>
    match m.stack with
    | [] => (.error (.of (.stackUnderflow operation)), m)
    | v :: rest => (.ok v, { m with stack := rest })

/- Take an integer; a value of another type is gone, too. -/
def popInteger (operation : Text) : Action Int64 := do
  let v ← pop operation
  .ofExcept (v.asInteger operation)

/- Take a text; a missing field is the empty text. -/
def popText (operation : Text) : Action Text := do
  let v ← pop operation
  .ofExcept (v.asText operation)

/- Take a function. -/
def popCallable (operation : Text) : Action Callable := do
  let v ← pop operation
  .ofExcept (v.asCallable operation)

/- Append to the output. -/
def write (t : Text) : Action Unit :=
  .modify (fun m => { m with output := m.output ++ t })

/- Record a warning. -/
def warn (message : Text) : Action Unit :=
  .modify
    (fun m =>
      { m with
        warnings := m.warnings ++ [message]
        log := m.log ++ [.warning message] })

/- Take what has been written, leaving nothing of it. -/
def takeOutput : Action Text :=
  fun m => (.ok m.output, { m with output := [] })

/- Take the warnings, leaving none. -/
def takeWarnings : Action (List Text) :=
  fun m => (.ok m.warnings, { m with warnings := [] })

------------------------------------------------------------
-- Variables and Entries
------------------------------------------------------------

/- Assign to a variable of the entry or a global variable. -/
def assign
    (s : Setting)
    (name : Text)
    (v : Value) : Action Unit :=
  fun m =>
    match m.locals.get? name with
    | some old =>
        match old.assignedOver v with
        | .error e => (.error e, m)
        | .ok new =>
            (.ok (), { m with locals := m.locals.insert name new })
    | none =>
        if s.program.isEntryVariable name then
          (.error (.of (.noCurrentEntry ":=".toList)), m)
        else
          match m.globals.get? name with
          | none => (.error (.of (.undefinedSymbol name)), m)
          | some old =>
              match old.assignedOver v with
              | .error e => (.error e, m)
              | .ok new =>
                  (.ok (),
                    { m with
                      globals := m.globals.insert name new })

/- The key of the current entry. -/
def currentKey (operation : Text) : Action Text :=
  fun m =>
    match m.current with
    | some key => (.ok key, m)
    | none => (.error (.of (.noCurrentEntry operation)), m)

/- The current entry itself. -/
def currentEntry
    (s : Setting)
    (operation : Text) : Action Entry := do
  let key ← currentKey operation
  match s.table.bind (fun t => t.get? key) with
  | some e => pure e
  | none => .fail (.of (.noCurrentEntry operation))

/- The value of a field of the current entry. -/
def fieldValue
    (s : Setting)
    (name : Text) : Action Value := do
  let key ← currentKey name
  match s.table with
  | none => pure .missing
  | some t =>
      match t.lookupField key name with
      | .error e => .fail e
      | .ok none => pure .missing
      | .ok (some text) => pure (.string text)

/- The preamble of the table. -/
def preamble (s : Setting) : Text :=
  match s.table with
  | none => []
  | some t => t.preambleText

/- Make an entry the current one, with fresh variables. -/
def beginEntry
    (s : Setting)
    (key : Text) : Action Unit :=
  fun m =>
    match s.table.bind (fun t => t.canonicalKey? key) with
    | none =>
        (.error
          (.of (.internal ("no entry for key ".toList ++ key))),
          m)
    | some canonical =>
        (.ok (),
          { m with
            current := some canonical
            locals := s.program.initialEntryVariables })

/- Leave the current entry. -/
def endEntry : Action Unit :=
  .modify
    (fun m => { m with current := none, locals := .empty })

end Machine

end Bibliography
