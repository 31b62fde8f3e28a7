import Bibliography.Person.Format
import Bibliography.Style.Machine
import Bibliography.Text.Case
import Bibliography.Text.Excerpt
import Bibliography.Text.Purify

/-
  The built-in functions of the style language.

  Operations take their operands from the stack, the last one
  first, and push a result.  Control functions run other code;
  what they do is told where code is evaluated.

  Key definitions include:
    * `Operation`
    * `Operation.perform`
    * `Control`
    * `Builtin`
    * `Builtin.ofName?`
-/

------------------------------------------------------------
-- Names
------------------------------------------------------------

namespace Bibliography

/- Built-in functions that run no other code. -/
inductive Operation where
  | concatenate
  | add
  | subtract
  | assign
  | less
  | equal
  | greater
  | addPeriod
  | changeCase
  | charToInteger
  | cite
  | duplicate
  | isEmpty
  | entryMax
  | formatName
  | globalMax
  | integerToChar
  | integerToText
  | isMissing
  | newline
  | countNames
  | drop
  | preamble
  | purify
  | quoteMark
  | skip
  | showStack
  | substring
  | swap
  | textLength
  | truncate
  | showTop
  | entryType
  | warn
  | width
  | write
  deriving DecidableEq

/- Built-in functions that run other code. -/
inductive Control where
  | callType
  | conditional
  | loop
  deriving DecidableEq

/- The built-in functions. -/
inductive Builtin where
  | operation (o : Operation)
  | control (c : Control)
  deriving DecidableEq

namespace Operation

/- The name of an operation in programs and messages. -/
def word : Operation → String
  | .concatenate => "*"
  | .add => "+"
  | .subtract => "-"
  | .assign => ":="
  | .less => "<"
  | .equal => "="
  | .greater => ">"
  | .addPeriod => "add.period$"
  | .changeCase => "change.case$"
  | .charToInteger => "chr.to.int$"
  | .cite => "cite$"
  | .duplicate => "duplicate$"
  | .isEmpty => "empty$"
  | .entryMax => "entry.max$"
  | .formatName => "format.name$"
  | .globalMax => "global.max$"
  | .integerToChar => "int.to.chr$"
  | .integerToText => "int.to.str$"
  | .isMissing => "missing$"
  | .newline => "newline$"
  | .countNames => "num.names$"
  | .drop => "pop$"
  | .preamble => "preamble$"
  | .purify => "purify$"
  | .quoteMark => "quote$"
  | .skip => "skip$"
  | .showStack => "stack$"
  | .substring => "substring$"
  | .swap => "swap$"
  | .textLength => "text.length$"
  | .truncate => "text.prefix$"
  | .showTop => "top$"
  | .entryType => "type$"
  | .warn => "warning$"
  | .width => "width$"
  | .write => "write$"

/- The name as text. -/
def name (o : Operation) : Text :=
  o.word.toList

end Operation

namespace Control

/- The name of a control function in programs and messages. -/
def word : Control → String
  | .callType => "call.type$"
  | .conditional => "if$"
  | .loop => "while$"

/- The name as text. -/
def name (c : Control) : Text :=
  c.word.toList

end Control

namespace Builtin

/- The built-in functions in the order of their names. -/
def all : List Builtin :=
  [.operation .concatenate, .operation .add,
    .operation .subtract, .operation .assign, .operation .less,
    .operation .equal, .operation .greater,
    .operation .addPeriod, .control .callType,
    .operation .changeCase, .operation .charToInteger,
    .operation .cite, .operation .duplicate,
    .operation .isEmpty, .operation .entryMax,
    .operation .formatName, .operation .globalMax,
    .control .conditional, .operation .integerToChar,
    .operation .integerToText, .operation .isMissing,
    .operation .newline, .operation .countNames,
    .operation .drop, .operation .preamble, .operation .purify,
    .operation .quoteMark, .operation .skip,
    .operation .showStack, .operation .substring,
    .operation .swap, .operation .textLength,
    .operation .truncate, .operation .showTop,
    .operation .entryType, .operation .warn, .control .loop,
    .operation .width, .operation .write]

/- The name of a built-in function. -/
def name : Builtin → Text
  | .operation o => o.name
  | .control c => c.name

/- The built-in function of a name. -/
def ofName? (name : Text) : Option Builtin :=
  all.find? (fun b => b.name == name)

end Builtin

------------------------------------------------------------
-- Operations on Values
------------------------------------------------------------

namespace Operation

open Machine

/- The greatest length of a global text that styles count on. -/
def globalMaximum : Int64 :=
  20000

/- The greatest length of an entry's text that styles count on. -/
def entryMaximum : Int64 :=
  250

/- Whether two values are equal integers or equal texts. -/
def compareEqual (a b : Value) : Except Error Bool :=
  match a, b with
  | .integer m, .integer n => .ok (m == n)
  | .integer _, other =>
      .error (other.mismatch equal.name .integer)
  | a, b => do
      let s ← a.asText equal.name
      let t ← b.asText equal.name
      return s == t

/- Whether a value is a missing field or blank text. -/
def blank : Value → Except Error Bool
  | .missing => .ok true
  | .string t => .ok t.trim.isEmpty
  | other => .error (other.mismatch isEmpty.name .string)

/- The name with an index from one in a list of names. -/
def selectName
    (names : List Text)
    (index : Int64) : Except Error Text :=
  let missing : Error :=
    .of (.nameIndexOutOfRange index names.length)
  if index ≤ 0 then .error missing
  else
    match names[index.toInt.toNat - 1]? with
    | some name => .ok name
    | none => .error missing

/- The formatted name with an index in a list of names. -/
def formatSelected
    (names : Text)
    (index : Int64)
    (pattern : Text) : Except Error Text := do
  let name ← selectName names.splitNames index
  let p ← Person.parse name
  return p.format pattern

/- The character with a code, unless it is no scalar value. -/
def charOfCode? (n : Int64) : Option Char :=
  if h : 0 ≤ n.toInt ∧ n.toInt.toNat.isValidChar then
    some (Char.ofNatAux n.toInt.toNat h.2)
  else none

/- Report the values of a stack, top first. -/
def stackEvents (stack : List Value) : List Event :=
  stack.map (fun v => .stackItem v.render)

------------------------------------------------------------
-- Operations on the Machine
------------------------------------------------------------

/- Replace two integers, the second on top, by a value. -/
def onIntegers
    (o : Operation)
    (f : Int64 → Int64 → Value) : Action Unit := do
  let b ← popInteger o.name
  let a ← popInteger o.name
  push (f a b)

/- Replace a text by a value. -/
def onText
    (o : Operation)
    (f : Text → Value) : Action Unit := do
  let t ← popText o.name
  push (f t)

/- Do what an operation says. -/
def perform (s : Setting) : Operation → Action Unit
  | .add => onIntegers .add (fun a b => .integer (a + b))
  | .subtract =>
      onIntegers .subtract (fun a b => .integer (a - b))
  | .greater =>
      onIntegers .greater (fun a b => .ofBool (decide (a > b)))
  | .less =>
      onIntegers .less (fun a b => .ofBool (decide (a < b)))
  | .concatenate => do
      let b ← popText concatenate.name
      let a ← popText concatenate.name
      push (.string (a ++ b))
  | .equal => do
      let b ← pop equal.name
      let a ← pop equal.name
      let same ← .ofExcept (compareEqual a b)
      push (.ofBool same)
  | .assign => do
      let target ← pop assign.name
      let v ← pop assign.name
      match target with
      | .function (.named name) => Machine.assign s name v
      | other => .fail (other.mismatch assign.name .function)
  | .skip => pure ()
  | .duplicate => do
      let v ← pop duplicate.name
      push v
      push v
  | .swap => do
      let b ← pop swap.name
      let a ← pop swap.name
      push b
      push a
  | .drop => do
      let _ ← pop drop.name
      pure ()
  | .showTop => do
      let v ← pop showTop.name
      report (.top v.render)
  | .showStack =>
      .modify
        (fun m =>
          { m with
            stack := []
            log := m.log ++ stackEvents m.stack })
  | .cite => do
      let key ← currentKey cite.name
      push (.string key)
  | .entryType => do
      let e ← currentEntry s entryType.name
      push (.string e.entryType)
  | .isEmpty => do
      let v ← pop isEmpty.name
      let b ← .ofExcept (blank v)
      push (.ofBool b)
  | .isMissing => do
      let v ← pop isMissing.name
      push (.ofBool (v == .missing))
  | .preamble => push (.string (Machine.preamble s))
  | .addPeriod => onText .addPeriod (fun t => .string t.addPeriod)
  | .changeCase => do
      let mode ← popText changeCase.name
      let t ← popText changeCase.name
      match CaseMode.parse? mode with
      | some mode => push (.string (t.changeCase mode))
      | none =>
          Machine.warn
            (mode ++
              " is an illegal case-conversion string".toList)
          push (.string t)
  | .formatName => do
      let pattern ← popText formatName.name
      let index ← popInteger formatName.name
      let names ← popText formatName.name
      let t ← .ofExcept (formatSelected names index pattern)
      push (.string t)
  | .countNames =>
      onText .countNames
        (fun t => .integer (Counting.ofNat t.splitNames.length))
  | .integerToText => do
      let n ← popInteger integerToText.name
      push (.string (toString n.toInt).toList)
  | .charToInteger => do
      let t ← popText charToInteger.name
      match t with
      | [c] => push (.integer (Counting.ofNat c.toNat))
      | t =>
          Machine.warn
            ('"' :: t ++ "\" isn\x27t a single character".toList)
          push (.integer 0)
  | .integerToChar => do
      let n ← popInteger integerToChar.name
      match charOfCode? n with
      | some c => push (.string [c])
      | none =>
          Machine.warn
            ((toString n.toInt).toList ++
              " isn\x27t valid character code".toList)
          push (.string [])
  | .substring => do
      let len ← popInteger substring.name
      let start ← popInteger substring.name
      let t ← popText substring.name
      let piece ← .ofExcept (t.substring start len)
      push (.string piece)
  | .textLength =>
      onText .textLength
        (fun t => .integer (Counting.ofNat t.visibleLength))
  | .width =>
      onText .width
        (fun t => .integer (Counting.ofNat t.visibleLength))
  | .truncate => do
      let len ← popInteger truncate.name
      let t ← popText truncate.name
      push (.string (t.truncate len))
  | .purify => onText .purify (fun t => .string t.purify)
  | .quoteMark => push (.string ['"'])
  | .globalMax => push (.integer globalMaximum)
  | .entryMax => push (.integer entryMaximum)
  | .write => do
      let t ← popText write.name
      Machine.write t
  | .newline => Machine.write ['\n']
  | .warn => do
      let t ← popText warn.name
      Machine.warn t

end Operation

end Bibliography
