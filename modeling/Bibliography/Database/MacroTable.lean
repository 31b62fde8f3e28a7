import Bibliography.SortedMap

/-
  Abbreviations that a database can use in its values.

  Names are compared without regard to case.  The months are
  defined in advance.

  Key definitions include:
    * `MacroTable`
    * `MacroTable.months`
-/

------------------------------------------------------------
-- Macro Tables
------------------------------------------------------------

namespace Bibliography

/- Texts by the lower-case form of their names. -/
structure MacroTable where
  texts : SortedMap Text
  deriving DecidableEq

namespace MacroTable

/- The table without definitions. -/
def empty : MacroTable :=
  ⟨.empty⟩

/- Define a name anew. -/
def define
    (m : MacroTable)
    (name text : Text) : MacroTable :=
  ⟨m.texts.insert name.lower text⟩

/- The text of a name. -/
def get?
    (m : MacroTable)
    (name : Text) : Option Text :=
  m.texts.get? name.lower

/- Whether a name is defined. -/
def contains
    (m : MacroTable)
    (name : Text) : Bool :=
  m.texts.contains name.lower

/- The number of names defined. -/
def size (m : MacroTable) : Nat :=
  m.texts.size

/- Define names one after the other. -/
def defineAll
    (m : MacroTable)
    (definitions : List (Text × Text)) : MacroTable :=
  definitions.foldl (fun m d => m.define d.1 d.2) m

/- The months by their first three letters. -/
def monthNames : List (String × String) :=
  [("jan", "January"), ("feb", "February"), ("mar", "March"),
    ("apr", "April"), ("may", "May"), ("jun", "June"),
    ("jul", "July"), ("aug", "August"), ("sep", "September"),
    ("oct", "October"), ("nov", "November"),
    ("dec", "December")]

/- The table of the months. -/
def months : MacroTable :=
  empty.defineAll
    (monthNames.map (fun m => (m.1.toList, m.2.toList)))

end MacroTable

end Bibliography
