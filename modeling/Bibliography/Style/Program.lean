import Bibliography.SortedMap
import Bibliography.Style.InstructionText
import Bibliography.Style.Value

/-
  Style programs: declarations, functions, and the routines for
  the types of entries.

  All names are in lower case.  A function is also the routine of
  the entry type that has its name.

  Key definitions include:
    * `Program`
    * `Program.withFunction`
    * `Program.typeRoutine?`
-/

------------------------------------------------------------
-- Programs
------------------------------------------------------------

namespace Bibliography

/- Declarations and code of a style. -/
structure Program where
  fields : List Text
  entryVariables : SortedMap VariableKind
  globals : SortedMap VariableKind
  functions : SortedMap (List Instruction)
  typeRoutines : SortedMap Text
  entryRoutine : List Instruction
  prologue : List Instruction
  epilogue : List Instruction
  deriving DecidableEq

namespace Program

/- The instruction that runs the routine of the entry type. -/
def callType : Text :=
  "call.type$".toList

/- The function for types without a routine of their own. -/
def defaultRoutine : Text :=
  "default.type".toList

/- The program without declarations. -/
def empty : Program where
  fields := []
  entryVariables := .empty
  globals := .empty
  functions := .empty
  typeRoutines := .empty
  entryRoutine := [.call callType]
  prologue := []
  epilogue := []

instance : Inhabited Program :=
  ⟨empty⟩

------------------------------------------------------------
-- Declarations
------------------------------------------------------------

/- Give several names the same kind. -/
def declareAll
    (kind : VariableKind)
    (names : List Text)
    (m : SortedMap VariableKind) : SortedMap VariableKind :=
  names.foldl (fun m name => m.insert name.lower kind) m

/- Declare fields. -/
def withFields
    (p : Program)
    (names : List Text) : Program :=
  { p with fields := p.fields ++ names.map Text.lower }

/- Declare variables of the current entry. -/
def withEntryVariables
    (p : Program)
    (kind : VariableKind)
    (names : List Text) : Program :=
  { p with
    entryVariables := declareAll kind names p.entryVariables }

/- Declare global variables. -/
def withGlobals
    (p : Program)
    (kind : VariableKind)
    (names : List Text) : Program :=
  { p with globals := declareAll kind names p.globals }

/- Define a function, which is also a type routine. -/
def withFunction
    (p : Program)
    (name : Text)
    (body : List Instruction) : Program :=
  { p with
    functions := p.functions.insert name.lower body
    typeRoutines := p.typeRoutines.insert name.lower name.lower }

/- Define a function by its source text. -/
def withFunctionSource
    (p : Program)
    (name source : Text) : Except Error Program :=
  (Instruction.parse source).map (p.withFunction name)

/- Make a function the routine of an entry type. -/
def withTypeRoutine
    (p : Program)
    (entryType function : Text) : Program :=
  { p with
    typeRoutines :=
      p.typeRoutines.insert entryType.lower function.lower }

------------------------------------------------------------
-- Lookup
------------------------------------------------------------

/- Whether a name is a declared field. -/
def isField
    (p : Program)
    (name : Text) : Bool :=
  p.fields.contains name

/- Whether a name is a declared variable of entries. -/
def isEntryVariable
    (p : Program)
    (name : Text) : Bool :=
  p.entryVariables.contains name

/- The body of a function. -/
def function?
    (p : Program)
    (name : Text) : Option (List Instruction) :=
  p.functions.get? name

/- The function for types that have none of their own. -/
def defaultRoutine? (p : Program) : Option Text :=
  if p.functions.contains defaultRoutine then
    some defaultRoutine
  else none

/-
  The function that formats entries of a type.  A routine that is
  not a function counts as absent.
-/
def typeRoutine?
    (p : Program)
    (entryType : Text) : Option Text :=
  match p.typeRoutines.get? entryType.lower with
  | some name =>
      if p.functions.contains name then some name
      else p.defaultRoutine?
  | none => p.defaultRoutine?

/- The variables of an entry before any assignment. -/
def initialEntryVariables (p : Program) : SortedMap Value :=
  p.entryVariables.mapValues VariableKind.initial

/- The global variables before any assignment. -/
def initialGlobals (p : Program) : SortedMap Value :=
  p.globals.mapValues VariableKind.initial

end Program

end Bibliography
