import Bibliography.Location

/-
  What can go wrong, with the wording of every message.

  Syntax errors are recovered record by record, inconsistent data
  is reported, and all other errors end the operation that meets
  them.  While an error leaves nested calls it collects a frame
  for each of them, innermost first.

  Key definitions include:
    * `ValueType`
    * `ErrorKind`
    * `ErrorKind.message`
    * `ErrorCategory`
    * `ErrorContext`
    * `Error`
    * `Error.inFrame`
    * `Error.render`
-/

------------------------------------------------------------
-- Value Types
------------------------------------------------------------

namespace Bibliography

/- The types of the values of a style program. -/
inductive ValueType where
  | string
  | integer
  | function
  | missing
  deriving DecidableEq

namespace ValueType

/- The name of a type in messages. -/
def name : ValueType → String
  | .string => "string"
  | .integer => "integer"
  | .function => "function"
  | .missing => "missing field"

end ValueType

------------------------------------------------------------
-- Kinds of Errors
------------------------------------------------------------

/- The broad classes of errors. -/
inductive ErrorCategory where
  | syntactic
  | data
  | interpreter
  | io
  deriving DecidableEq

/- The causes of errors. -/
inductive ErrorKind where
  | tokenRequired (expected : Text) (location : Location)
  | prematureEnd (location : Location)
  | unbalancedBrace (location : Location)
  | duplicateKey (key : Text)
  | repeatedField (key field : Text)
  | undefinedMacro (name : Text)
  | invalidName (name : Text)
  | missingCrossref (key crossref : Text)
  | alreadyLabelled (key : Text)
  | stackUnderflow (operation : Text)
  | typeMismatch (operation : Text) (expected actual : ValueType)
  | undefinedSymbol (name : Text)
  | substringStartZero
  | noTypeRoutine (entryType : Text)
  | noCurrentEntry (operation : Text)
  | nameIndexOutOfRange (index : Int64) (count : Nat)
  | io (message : Text)
  | serialization (message : Text)
  | internal (message : Text)
  deriving DecidableEq

namespace ErrorKind

/- The class of a cause. -/
def category : ErrorKind → ErrorCategory
  | .tokenRequired .. | .prematureEnd _ | .unbalancedBrace _ =>
      .syntactic
  | .duplicateKey _ | .repeatedField .. | .undefinedMacro _
  | .invalidName _ | .missingCrossref .. | .alreadyLabelled _ =>
      .data
  | .stackUnderflow _ | .typeMismatch .. | .undefinedSymbol _
  | .substringStartZero | .noTypeRoutine _ | .noCurrentEntry _
  | .nameIndexOutOfRange .. | .internal _ => .interpreter
  | .io _ | .serialization _ => .io

/- Syntax errors have a place. -/
def location : ErrorKind → Option Location
  | .tokenRequired _ l | .prematureEnd l | .unbalancedBrace l =>
      some l
  | _ => none

/- The words that open the message of a syntax error. -/
private def syntaxAt (l : Location) : String :=
  s!"syntax error in line {l.line}: "

/- The message of a cause. -/
def message : ErrorKind → Text
  | .tokenRequired expected l =>
      (syntaxAt l).toList ++ expected ++ " expected".toList
  | .prematureEnd l =>
      (syntaxAt l).toList ++ "premature end of file".toList
  | .unbalancedBrace l =>
      (syntaxAt l).toList ++ "unbalanced brace".toList
  | .duplicateKey key =>
      "repeated bibliography entry: ".toList ++ key
  | .repeatedField key field =>
      "repeated field ".toList ++ field ++
        " in entry ".toList ++ key
  | .undefinedMacro name => "undefined macro: ".toList ++ name
  | .invalidName name => "invalid name format: ".toList ++ name
  | .missingCrossref key crossref =>
      "entry ".toList ++ key ++ " cross-references ".toList ++
        crossref ++ ", which is not in the database".toList
  | .alreadyLabelled key =>
      "entry ".toList ++ key ++
        " has already been labelled".toList
  | .stackUnderflow operation =>
      "stack underflow in ".toList ++ operation
  | .typeMismatch operation expected actual =>
      operation ++
        s!": expected {expected.name}, got {actual.name}".toList
  | .undefinedSymbol name => "undefined symbol: ".toList ++ name
  | .substringStartZero =>
      "substring$: start position must not be zero".toList
  | .noTypeRoutine entryType =>
      "no formatting routine for entry type ".toList ++ entryType
  | .noCurrentEntry operation =>
      operation ++ " requires a current entry".toList
  | .nameIndexOutOfRange index count =>
      s!"name index {index.toInt} out of range ({count} names)".toList
  | .io message => "I/O error: ".toList ++ message
  | .serialization message =>
      "serialization error: ".toList ++ message
  | .internal message => "internal error: ".toList ++ message

end ErrorKind

------------------------------------------------------------
-- Errors in Context
------------------------------------------------------------

/- Where an error arose: a source name and enclosing frames. -/
structure ErrorContext where
  source : Option Text
  frames : List Text
  deriving DecidableEq

namespace ErrorContext

/- The context without source and frames. -/
def empty : ErrorContext :=
  ⟨none, []⟩

/- One line for the source and one for each frame. -/
def describe (c : ErrorContext) : Text :=
  let sourceLine :=
    match c.source with
    | none => []
    | some source => "at ".toList ++ source ++ ['\n']
  sourceLine ++
    c.frames.flatMap
      (fun frame => "  in ".toList ++ frame ++ ['\n'])

end ErrorContext

/- An error is a cause with an optional context. -/
structure Error where
  kind : ErrorKind
  context : Option ErrorContext
  deriving DecidableEq

namespace Error

/- An error of a cause alone. -/
def of (kind : ErrorKind) : Error :=
  ⟨kind, none⟩

/- Replace the context by one that names a source. -/
def inSource
    (e : Error)
    (source : Text) : Error :=
  { e with context := some ⟨some source, []⟩ }

/- Add an enclosing frame. -/
def inFrame
    (e : Error)
    (frame : Text) : Error :=
  let context := e.context.getD ErrorContext.empty
  { e with
    context :=
      some { context with frames := context.frames ++ [frame] } }

/- The message, its source line, and the context. -/
def render (e : Error) : Text :=
  let shown :=
    match e.kind.location with
    | some l => l.render e.kind.message
    | none => e.kind.message
  match e.context with
  | none => shown
  | some context =>
      if context.describe.isEmpty then shown
      else shown ++ '\n' :: context.describe.trimEnd

end Error

end Bibliography
