import Bibliography.MessagePack.Reading
import Bibliography.Table.Basic

/-
  Tables as MessagePack snapshots.

  A snapshot keeps keys, entries, numbers, labels and preamble as
  they are.  Whatever follows the table in a snapshot is ignored.

  Key definitions include:
    * `Table.toSnapshot`
    * `Table.ofSnapshot?`
-/

------------------------------------------------------------
-- Writing
------------------------------------------------------------

namespace Bibliography

open MessagePack

/- A list of words. -/
def packWords (words : List Text) : Bytes :=
  writeArray writeText words

namespace Person

/- The snapshot of a person. -/
def toSnapshot (p : Person) : Bytes :=
  writeNamed
    [("first", packWords p.first),
      ("middle", packWords p.middle),
      ("prelast", packWords p.prelast),
      ("last", packWords p.last),
      ("lineage", packWords p.lineage)]

end Person

namespace Entry

/- The snapshot of an entry. -/
def toSnapshot (e : Entry) : Bytes :=
  writeNamed
    [("entry_type", writeText e.entryType),
      ("fields", writeMap writeText e.fields.items),
      ("persons",
        writeMap (writeArray Person.toSnapshot) e.persons.items),
      ("number", writeOption writeNat e.number),
      ("label", writeOption writeText e.label)]

end Entry

namespace Table

/- The snapshot of an item: its key and its entry. -/
def packItem (item : Text × Entry) : Bytes :=
  arrayHeader 2 ++ writeText item.1 ++ item.2.toSnapshot

/- The snapshot of a table. -/
def toSnapshot (t : Table) : Bytes :=
  writeNamed
    [("entries", writeArray packItem t.entries),
      ("preamble", packWords t.preamble)]

end Table

------------------------------------------------------------
-- Reading
------------------------------------------------------------

/- A list of words. -/
def unpackWords : ValueReader (List Text) :=
  readArray (leaf readText)

namespace Person

/- The parts of a person that have been read. -/
structure Parts where
  first : Option (List Text)
  middle : Option (List Text)
  prelast : Option (List Text)
  last : Option (List Text)
  lineage : Option (List Text)

/- The fields of a person. -/
def snapshotFields : List (Member Parts) :=
  [.once "first" unpackWords Parts.first
      (fun d a => { d with first := some a }),
    .once "middle" unpackWords Parts.middle
      (fun d a => { d with middle := some a }),
    .once "prelast" unpackWords Parts.prelast
      (fun d a => { d with prelast := some a }),
    .once "last" unpackWords Parts.last
      (fun d a => { d with last := some a }),
    .once "lineage" unpackWords Parts.lineage
      (fun d a => { d with lineage := some a })]

/- The person whose parts are all there. -/
def ofParts? (d : Parts) : Option Person := do
  let first ← d.first
  let middle ← d.middle
  let prelast ← d.prelast
  let last ← d.last
  let lineage ← d.lineage
  return ⟨first, middle, prelast, last, lineage⟩

/- Read the snapshot of a person. -/
def ofSnapshot : ValueReader Person :=
  readRecord snapshotFields ⟨none, none, none, none, none⟩
    ofParts?

end Person

namespace Entry

/- The parts of an entry that have been read. -/
structure Parts where
  entryType : Option Text
  fields : Option (SortedMap Text)
  persons : Option (SortedMap (List Person))
  number : Option (Option Nat)
  label : Option (Option Text)

/- The fields of an entry. -/
def snapshotFields : List (Member Parts) :=
  [.once "entry_type" (leaf readText) Parts.entryType
      (fun d a => { d with entryType := some a }),
    .once "fields" (readMap (leaf readText)) Parts.fields
      (fun d a => { d with fields := some a }),
    .once "persons" (readMap (readArray Person.ofSnapshot))
      Parts.persons
      (fun d a => { d with persons := some a }),
    .once "number" (readOption (leaf readNat)) Parts.number
      (fun d a => { d with number := some a }),
    .once "label" (readOption (leaf readText)) Parts.label
      (fun d a => { d with label := some a })]

/- The entry of some parts; number and label may be missing. -/
def ofParts? (d : Parts) : Option Entry := do
  let entryType ← d.entryType
  let fields ← d.fields
  let persons ← d.persons
  return ⟨entryType, fields, persons, d.number.getD none,
    d.label.getD none⟩

/- Read the snapshot of an entry. -/
def ofSnapshot : ValueReader Entry :=
  readRecord snapshotFields ⟨none, none, none, none, none⟩
    ofParts?

end Entry

namespace Table

/- The parts of a table that have been read. -/
structure Parts where
  entries : Option (List (Text × Entry))
  preamble : Option (List Text)

/- The fields of a table. -/
def snapshotFields : List (Member Parts) :=
  [.once "entries"
      (readArray (readPair (leaf readText) Entry.ofSnapshot))
      Parts.entries
      (fun d a => { d with entries := some a }),
    .once "preamble" unpackWords Parts.preamble
      (fun d a => { d with preamble := some a })]

/- The table whose parts are all there. -/
def ofParts? (d : Parts) : Option Table := do
  let entries ← d.entries
  let preamble ← d.preamble
  return ⟨entries, preamble⟩

/- Read the snapshot of a table. -/
def readSnapshot : ValueReader Table :=
  readRecord snapshotFields ⟨none, none⟩ ofParts?

/- The error of bytes that are no snapshot. -/
def notASnapshot : Error :=
  .of (.serialization "not a table snapshot".toList)

/- The table of a snapshot; what follows it is ignored. -/
def ofSnapshot (bs : Bytes) : Except Error Table :=
  match readSnapshot nestingLimit bs with
  | none => .error notASnapshot
  | some (t, _) => .ok t

end Table

end Bibliography
