import Bibliography.Table.Basic

/-
  Tables written as database text.

  Preamble fragments come first, then the entries in their order.
  Every value is braced, and macros are not used, so the text says
  the same whatever macros its reader knows.

  Key definitions include:
    * `Entry.write`
    * `Table.write`
-/

------------------------------------------------------------
-- Writing
------------------------------------------------------------

namespace Bibliography

namespace Entry

/- The line of a field. -/
def writeField
    (name value : Text) : Text :=
  "    ".toList ++ name ++ " = \x7b".toList ++ value ++
    "\x7d,\n".toList

/- The record of an entry, persons before plain fields. -/
def write
    (key : Text)
    (e : Entry) : Text :=
  '@' :: e.entryType ++ '{' :: key ++ ",\n".toList ++
    e.persons.items.flatMap
      (fun item => writeField item.1 (Person.renderAll item.2)) ++
    e.fields.items.flatMap
      (fun item => writeField item.1 item.2) ++
    "\x7d\n".toList

end Entry

namespace Table

/- The record of a preamble fragment. -/
def writePreamble (fragment : Text) : Text :=
  "@preamble\x7b\x7b".toList ++ fragment ++
    "\x7d\x7d\n\n".toList

/- The database text of a table. -/
def write (t : Table) : Text :=
  t.preamble.flatMap writePreamble ++
    t.entries.flatMap (fun item => item.2.write item.1 ++ ['\n'])

end Table

end Bibliography
