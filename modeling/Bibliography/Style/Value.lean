import Bibliography.Error
import Bibliography.Style.Instruction

/-
  The values that a style program computes with.

  Key definitions include:
    * `Callable`
    * `Value`
    * `Value.render`
    * `VariableKind`
-/

------------------------------------------------------------
-- Values
------------------------------------------------------------

namespace Bibliography

/- Something to run: a name or a block. -/
inductive Callable where
  | named (name : Text)
  | body (code : List Instruction)
  deriving DecidableEq

/- A value; the missing value stands for an absent field. -/
inductive Value where
  | string (text : Text)
  | integer (n : Int64)
  | function (c : Callable)
  | missing
  deriving DecidableEq

namespace Value

/- The integer of a truth value. -/
def ofBool (b : Bool) : Value :=
  .integer (if b then 1 else 0)

/- The type of a value. -/
def type : Value → ValueType
  | .string _ => .string
  | .integer _ => .integer
  | .function _ => .function
  | .missing => .missing

/- The error of an operation that wants another type. -/
def mismatch
    (v : Value)
    (operation : Text)
    (expected : ValueType) : Error :=
  .of (.typeMismatch operation expected v.type)

/- The integer that an operation wants. -/
def asInteger
    (operation : Text) : Value → Except Error Int64
  | .integer n => .ok n
  | v => .error (v.mismatch operation .integer)

/- The text that an operation wants; a missing field is empty. -/
def asText
    (operation : Text) : Value → Except Error Text
  | .string t => .ok t
  | .missing => .ok []
  | v => .error (v.mismatch operation .string)

/- The function that an operation wants. -/
def asCallable
    (operation : Text) : Value → Except Error Callable
  | .function c => .ok c
  | v => .error (v.mismatch operation .function)

/- The text that shows a value. -/
def render : Value → Text
  | .string t => '"' :: t ++ ['"']
  | .integer n => (toString n.toInt).toList
  | .function (.named name) => '\x27' :: name
  | .function (.body code) => (Instruction.block code).render
  | .missing => "<missing>".toList

end Value

------------------------------------------------------------
-- Variables
------------------------------------------------------------

/- A variable holds integers or texts. -/
inductive VariableKind where
  | integer
  | string
  deriving DecidableEq

namespace VariableKind

/- The value of a variable before any assignment. -/
def initial : VariableKind → Value
  | .integer => .integer 0
  | .string => .string []

end VariableKind

namespace Value

/-
  The value that a variable takes when `v` is assigned to it
  while it holds `old`.  Its type stays; a missing field assigned
  to a text variable is the empty text.
-/
def assignedOver
    (old v : Value) : Except Error Value :=
  match old, v with
  | .integer _, .integer n => .ok (.integer n)
  | .string _, .string t => .ok (.string t)
  | .string _, .missing => .ok (.string [])
  | old, v => .error (v.mismatch ":=".toList old.type)

end Value

end Bibliography
