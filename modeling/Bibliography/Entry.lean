import Bibliography.Person.Basic
import Bibliography.SortedMap

/-
  Bibliography entries.

  An entry has a type, plain fields, and for each role a list of
  persons.  Names of types, fields and roles are in lower case.
  Once an entry is cited it gets a number and a label; these say
  nothing about its content.

  Key definitions include:
    * `Entry`
    * `Entry.field?`
    * `Entry.renderPersons?`
    * `Entry.SameContent`
-/

------------------------------------------------------------
-- Entries
------------------------------------------------------------

namespace Bibliography

/- An entry with its number and label, if it has them. -/
structure Entry where
  entryType : Text
  fields : SortedMap Text
  persons : SortedMap (List Person)
  number : Option Nat
  label : Option Text
  deriving DecidableEq

namespace Entry

/- The entry of a type without fields and persons. -/
def ofType (entryType : Text) : Entry where
  entryType := entryType.lower
  fields := .empty
  persons := .empty
  number := none
  label := none

/- The field that names another entry. -/
def crossrefField : Text :=
  "crossref".toList

/- Whether a field of that name is there already. -/
def hasField
    (e : Entry)
    (name : Text) : Bool :=
  e.fields.contains name.lower

/- Add a field; an earlier one of the same name stays. -/
def insertField
    (e : Entry)
    (name value : Text) : Entry :=
  if e.hasField name then e
  else { e with fields := e.fields.insert name.lower value }

/- The persons of a role, none for an unknown role. -/
def personsOf
    (e : Entry)
    (role : Text) : List Person :=
  (e.persons.get? role.lower).getD []

/- Add a person at the end of a role. -/
def addPerson
    (e : Entry)
    (role : Text)
    (p : Person) : Entry :=
  { e with
    persons :=
      e.persons.insert role.lower (e.personsOf role ++ [p]) }

/- The value of a plain field. -/
def field?
    (e : Entry)
    (name : Text) : Option Text :=
  e.fields.get? name.lower

/- The persons of a role as one text. -/
def renderPersons?
    (e : Entry)
    (role : Text) : Option Text :=
  (e.persons.get? role.lower).map Person.renderAll

/- The key that the entry refers to. -/
def crossref? (e : Entry) : Option Text :=
  e.fields.get? crossrefField

/- Whether the entry has been numbered. -/
def isLabelled (e : Entry) : Bool :=
  e.number.isSome

/- Give the entry its number and label. -/
def withLabel
    (e : Entry)
    (number : Nat)
    (label : Text) : Entry :=
  { e with number := some number, label := some label }

/- Equality of all but number and label. -/
def SameContent (e f : Entry) : Prop :=
  e.entryType = f.entryType ∧ e.fields = f.fields ∧
    e.persons = f.persons

instance (e f : Entry) : Decidable (e.SameContent f) :=
  inferInstanceAs (Decidable (_ ∧ _ ∧ _))

end Entry

end Bibliography
