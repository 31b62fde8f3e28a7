import Bibliography.Database.Document
import Bibliography.Proofs.Database.Body
import Bibliography.Proofs.Person.Commas

/-
  The grammar of well-formed databases and what they say.

  A document is a tree of records with all its white space, so it
  has exactly one text.  Its meaning is told without reading that
  text: macros are replaced by their texts at the point where
  they stand, of repeated fields and keys the first counts, and
  the value of a person field is a list of names.

  Key definitions include:
    * `Grammar.Expression`
    * `Grammar.Block`
    * `Grammar.Document`
    * `Grammar.Document.text`
    * `Grammar.Document.meaning`
    * `Grammar.Document.isWellFormed`
    * `Grammar.Document.isDefined`
    * `Grammar.Document.hasReadableNames`
-/

------------------------------------------------------------
-- Value Expressions
------------------------------------------------------------

namespace Bibliography

namespace Grammar

/- One part of a value. -/
inductive Part where
  | quoted (body : Text)
  | braced (body : Text)
  | number (digits : Text)
  | abbreviation (name : Text)
  deriving DecidableEq

namespace Part

/- The text of a part with its delimiters. -/
def text : Part → Text
  | .quoted body => '"' :: body ++ ['"']
  | .braced body => '{' :: body ++ ['}']
  | .number digits => digits
  | .abbreviation name => name

/-
  Bodies are balanced, a quoted one has no quote outside of
  braces, and numbers and names are tokens.
-/
def isWellFormed : Part → Bool
  | .quoted body => body.isBody true
  | .braced body => body.isBody false
  | .number digits => Pattern.number.accepts digits
  | .abbreviation name => Pattern.name.accepts name

/- Whether the part is no unknown macro. -/
def isDefined
    (macros : MacroTable) : Part → Bool
  | .abbreviation name => macros.contains name
  | _ => true

/- What the part stands for; an unknown macro is empty. -/
def meaning
    (macros : MacroTable) : Part → Text
  | .quoted body => body
  | .braced body => body
  | .number digits => digits
  | .abbreviation name => (macros.get? name).getD []

end Part

/- Parts joined by `#`, with the white space in front of each. -/
inductive Expression where
  | single (gap : Text) (part : Part)
  | joined (gap : Text) (part : Part) (gapHash : Text)
      (rest : Expression)
  deriving DecidableEq

namespace Expression

def text : Expression → Text
  | .single gap part => gap ++ part.text
  | .joined gap part gapHash rest =>
      gap ++ part.text ++ gapHash ++ '#' :: rest.text

def isWellFormed : Expression → Bool
  | .single gap part => gap.isBlank && part.isWellFormed
  | .joined gap part gapHash rest =>
      gap.isBlank && part.isWellFormed && gapHash.isBlank &&
        rest.isWellFormed

def isDefined
    (macros : MacroTable) : Expression → Bool
  | .single _ part => part.isDefined macros
  | .joined _ part _ rest =>
      part.isDefined macros && rest.isDefined macros

/- The parts one after the other. -/
def expansion
    (macros : MacroTable) : Expression → Text
  | .single _ part => part.meaning macros
  | .joined _ part _ rest =>
      part.meaning macros ++ rest.expansion macros

/- The value, with single blanks for its white space. -/
def meaning
    (macros : MacroTable)
    (e : Expression) : Text :=
  (e.expansion macros).normalizeSpace

end Expression

------------------------------------------------------------
-- Assignments
------------------------------------------------------------

/- A name, an equals sign, and a value. -/
structure Assignment where
  gap : Text
  name : Text
  gapEquals : Text
  value : Expression
  deriving DecidableEq

namespace Assignment

def text (a : Assignment) : Text :=
  a.gap ++ a.name ++ a.gapEquals ++ '=' :: a.value.text

def isWellFormed (a : Assignment) : Bool :=
  a.gap.isBlank && Pattern.name.accepts a.name &&
    a.gapEquals.isBlank && a.value.isWellFormed

/- The name in lower case with its value. -/
def meaning
    (macros : MacroTable)
    (a : Assignment) : Text × Text :=
  (a.name.lower, a.value.meaning macros)

end Assignment

/- A comma, and an assignment if one follows it. -/
structure Slot where
  gap : Text
  assignment : Option Assignment
  deriving DecidableEq

namespace Slot

def text (s : Slot) : Text :=
  s.gap ++ ',' :: (s.assignment.map Assignment.text).getD []

def isWellFormed (s : Slot) : Bool :=
  s.gap.isBlank && s.assignment.all Assignment.isWellFormed

end Slot

/- The assignments of an entry in order. -/
def assignmentsOf (slots : List Slot) : List Assignment :=
  slots.filterMap Slot.assignment

theorem assignmentsOf_cons
    (slot : Slot)
    (rest : List Slot) :
    assignmentsOf (slot :: rest) =
      slot.assignment.toList ++ assignmentsOf rest := by
  cases hSlot : slot.assignment with
  | none =>
      rw [assignmentsOf, List.filterMap_cons_none hSlot]
      rfl
  | some a =>
      rw [assignmentsOf, List.filterMap_cons_some hSlot]
      rfl

------------------------------------------------------------
-- Records
------------------------------------------------------------

/- The pairs of delimiters of a record. -/
inductive Delimiter where
  | braces
  | parens
  deriving DecidableEq

namespace Delimiter

/- The character and the pattern that open, and that close. -/
def opening : Delimiter → Char
  | .braces => '{'
  | .parens => '('

def closing : Delimiter → Char
  | .braces => '}'
  | .parens => ')'

def opener : Delimiter → Pattern
  | .braces => .openBrace
  | .parens => .openParen

def closer : Delimiter → Pattern
  | .braces => .closeBrace
  | .parens => .closeParen

end Delimiter

/- What stands between the delimiters. -/
inductive Content where
  | definition (a : Assignment)
  | preamble (value : Expression)
  | entry (gap key : Text) (slots : List Slot)
  deriving DecidableEq

namespace Content

def text : Content → Text
  | .definition a => a.text
  | .preamble value => value.text
  | .entry gap key slots => gap ++ key ++ slots.flatMap Slot.text

def isWellFormed : Content → Bool
  | .definition a => a.isWellFormed
  | .preamble value => value.isWellFormed
  | .entry gap key slots =>
      gap.isBlank && Pattern.key.accepts key &&
        slots.all Slot.isWellFormed

/- Whether a record of a kind, in lower case, has such content. -/
def fits
    (kind : Text) : Content → Bool
  | .definition _ => kind == "string".toList
  | .preamble _ => kind == "preamble".toList
  | .entry .. =>
      kind != "string".toList && kind != "preamble".toList &&
        kind != "comment".toList

/- The values in the content. -/
def values : Content → List Expression
  | .definition a => [a.value]
  | .preamble value => [value]
  | .entry _ _ slots => (assignmentsOf slots).map Assignment.value

end Content

/- A record with its white space. -/
structure Block where
  gapKind : Text
  kind : Text
  gapOpen : Text
  delimiter : Delimiter
  content : Content
  gapClose : Text
  deriving DecidableEq

namespace Block

def text (b : Block) : Text :=
  '@' :: b.gapKind ++ b.kind ++ b.gapOpen ++
    b.delimiter.opening :: b.content.text ++ b.gapClose ++
    [b.delimiter.closing]

def isWellFormed (b : Block) : Bool :=
  b.gapKind.isBlank && Pattern.name.accepts b.kind &&
    b.gapOpen.isBlank && b.content.fits b.kind.lower &&
    b.content.isWellFormed && b.gapClose.isBlank

end Block

/- Records, each with the text in front, and the text at the end. -/
structure Document where
  blocks : List (Text × Block)
  tail : Text
  deriving DecidableEq

namespace Document

def text (d : Document) : Text :=
  d.blocks.flatMap (fun item => item.1 ++ item.2.text) ++ d.tail

/- Between the records there is no at sign. -/
def isWellFormed (d : Document) : Bool :=
  d.blocks.all
      (fun item => !item.1.contains '@' && item.2.isWellFormed) &&
    !d.tail.contains '@'

/-
  In a well-formed document the records are well formed, and there
  is no at sign between them.
-/
theorem isWellFormed_iff
    {d : Document} :
    d.isWellFormed = true ↔
      (∀ item ∈ d.blocks,
        '@' ∉ item.1 ∧ item.2.isWellFormed = true) ∧
        '@' ∉ d.tail := by
  rw [Document.isWellFormed, Bool.and_eq_true, List.all_eq_true]
  simp

end Document

end Grammar

------------------------------------------------------------
-- Meaning of Entries
------------------------------------------------------------

namespace Entry

/- Of the assignments to one name the first. -/
def firstAssignments
    (assignments : List (Text × Text)) : List (Text × Text) :=
  assignments.eraseDupsBy (fun a b => a.1 == b.1)

/- The assignments to plain fields. -/
def plainFields
    (config : ParserConfig)
    (assignments : List (Text × Text)) : List (Text × Text) :=
  assignments.filter (fun a => !config.isPersonField a.1)

/-
  The assignments to person fields as lists of persons.  A field
  without names leaves no trace.
-/
def personLists
    (config : ParserConfig)
    (assignments : List (Text × Text)) :
    List (Text × List Person) :=
  ((assignments.filter (fun a => config.isPersonField a.1)).map
    (fun a => (a.1, a.2.splitNames.map Person.read))).filter
      (fun l => !l.2.isEmpty)

/- The entry with some assignments of lower-case names. -/
def ofAssignments
    (config : ParserConfig)
    (kind : Text)
    (assignments : List (Text × Text)) : Entry where
  entryType := kind
  fields := .ofList (plainFields config (firstAssignments assignments))
  persons := .ofList (personLists config (firstAssignments assignments))
  number := none
  label := none

/- The names that repeat an earlier one, in order. -/
def repeatsAfter (seen : List Text) : List Text → List Text
  | [] => []
  | name :: rest =>
      if seen.contains name then name :: repeatsAfter seen rest
      else repeatsAfter (name :: seen) rest

end Entry

------------------------------------------------------------
-- Meaning of Documents
------------------------------------------------------------

namespace MacroTable

/- The macros after a record. -/
def after
    (m : MacroTable) : Record → MacroTable
  | .definition name text => m.define name text
  | _ => m

end MacroTable

namespace Grammar

/-
  What the content of a record of a kind says where some macros
  are defined.
-/
def Content.meaning
    (config : ParserConfig)
    (macros : MacroTable)
    (kind : Text) : Content → Record
  | .definition a => .definition a.name (a.value.meaning macros)
  | .preamble value => .preamble (value.meaning macros)
  | .entry _ key slots =>
      let assignments :=
        (assignmentsOf slots).map (Assignment.meaning macros)
      .entry key (.ofAssignments config kind assignments)
        (Entry.repeatsAfter [] (assignments.map (fun a => a.1)))

/- What a record says where some macros are defined. -/
def Block.meaning
    (config : ParserConfig)
    (macros : MacroTable)
    (b : Block) : Record :=
  b.content.meaning config macros b.kind.lower

/- What records say one after the other. -/
def meanings
    (config : ParserConfig) :
    MacroTable → List Block → List Record
  | _, [] => []
  | macros, b :: rest =>
      let record := b.meaning config macros
      record :: meanings config (macros.after record) rest

/- A condition that each record meets where it stands. -/
def holdsThroughout
    (config : ParserConfig)
    (condition : MacroTable → Block → Bool) :
    MacroTable → List Block → Bool
  | _, [] => true
  | macros, b :: rest =>
      condition macros b &&
        holdsThroughout config condition
          (macros.after (b.meaning config macros)) rest

/- The entry of a record under its key, if it has one. -/
def entryOf : Record → Option (Text × Entry)
  | .entry key e _ => some (key, e)
  | _ => none

/- The preamble fragment of a record, if it has one. -/
def fragmentOf : Record → Option Text
  | .preamble fragment => some fragment
  | _ => none

/-
  The diagnostics of records that are well formed: repeated
  fields, and keys that are among the earlier ones.
-/
def complaints (earlier : List Text) : List Record → List Error
  | [] => []
  | .entry key _ repeated :: rest =>
      repeated.map (fun f => .of (.repeatedField key f)) ++
        (if earlier.any (fun k => Table.sameKey k key) then
          [.of (.duplicateKey key)]
        else []) ++
        complaints (key :: earlier) rest
  | _ :: rest => complaints earlier rest

/- The table of some records; of a key the first entry counts. -/
def tableOf (records : List Record) : Table where
  entries :=
    (records.filterMap entryOf).eraseDupsBy
      (fun a b => Table.sameKey a.1 b.1)
  preamble := records.filterMap fragmentOf

namespace Document

/- The records without what stands between them. -/
def records (d : Document) : List Block :=
  d.blocks.map (fun item => item.2)

/- What a document says. -/
def meaning
    (config : ParserConfig)
    (d : Document) : Database :=
  let records := meanings config config.macros d.records
  { table := tableOf records
    macros := records.foldl MacroTable.after config.macros
    diagnostics := complaints [] records }

------------------------------------------------------------
-- Conditions on Documents
------------------------------------------------------------

/- Whether every macro is defined where it is used. -/
def isDefined
    (config : ParserConfig)
    (d : Document) : Bool :=
  holdsThroughout config
    (fun macros b =>
      b.content.values.all (Expression.isDefined macros))
    config.macros d.records

end Document

/- Whether the names in a person field have two commas at most. -/
def Assignment.hasReadableNames
    (config : ParserConfig)
    (macros : MacroTable)
    (a : Assignment) : Bool :=
  !config.isPersonField a.name.lower ||
    (a.value.meaning macros).splitNames.all
      (fun name => name.commas ≤ 2)

/- The same of the person fields of an entry. -/
def Content.hasReadableNames
    (config : ParserConfig)
    (macros : MacroTable) : Content → Bool
  | .entry _ _ slots =>
      (assignmentsOf slots).all
        (Assignment.hasReadableNames config macros)
  | _ => true

/- Whether all names in person fields have two commas at most. -/
def Document.hasReadableNames
    (config : ParserConfig)
    (d : Document) : Bool :=
  holdsThroughout config
    (fun macros b => b.content.hasReadableNames config macros)
    config.macros d.records

end Grammar

end Bibliography
