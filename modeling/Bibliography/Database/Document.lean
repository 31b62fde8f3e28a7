import Bibliography.Database.Record
import Bibliography.Table.Basic

/-
  Reading a whole database.

  Whatever stands between records is ignored.  A record that
  cannot be read becomes a diagnostic, and reading goes on at the
  next at sign after the place where it failed.

  Key definitions include:
    * `Database`
    * `Database.add`
    * `Database.readRecords`
    * `Database.parse`
-/

------------------------------------------------------------
-- Databases
------------------------------------------------------------

namespace Bibliography

/-
  What the records so far have said: entries and preamble, macros,
  and the errors that were recovered.
-/
structure Database where
  table : Table
  macros : MacroTable
  diagnostics : List Error
  deriving DecidableEq

namespace Database

/- The database before its first record. -/
def initial (config : ParserConfig) : Database :=
  ⟨.empty, config.macros, []⟩

/- Add diagnostics at the end. -/
def report
    (db : Database)
    (errors : List Error) : Database :=
  { db with diagnostics := db.diagnostics ++ errors }

/- Take in what a record says. -/
def addRecord
    (db : Database) : Record → Database
  | .entry key e repeated =>
      let db :=
        db.report
          (repeated.map (fun f => .of (.repeatedField key f)))
      let inserted := db.table.tryInsert key e
      { db with table := inserted.2 }.report inserted.errors
  | .definition name text =>
      { db with macros := db.macros.define name text }
  | .preamble fragment =>
      { db with table := db.table.addPreamble fragment }
  | .comment => db

/- Take in a record or the error that it failed with. -/
def add
    (db : Database) : Except Error Record → Database
  | .ok record => db.addRecord record
  | .error err => db.report [err]

/- Read the records in the rest of a text. -/
def readRecords
    (config : ParserConfig)
    (db : Database)
    (s : Scanner) : Database :=
  match _hSkip : s.skipTo [.atSign] with
  | none => db
  | some (_, s₁) =>
      readRecords config
        (db.add (s₁.readRecord config db.macros).1)
        (s₁.readRecord config db.macros).2
termination_by s.rest.length
decreasing_by
  exact Nat.lt_of_le_of_lt
    (Scanner.length_rest_readRecord config db.macros s₁)
    (Scanner.length_rest_skipTo _hSkip)

/- Read a database. -/
def parse
    (config : ParserConfig)
    (t : Text) : Database :=
  readRecords config (initial config) (.ofText t)

end Database

namespace Table

/- The table of a database read with the standard settings. -/
def parse (t : Text) : Table :=
  (Database.parse .standard t).table

end Table

end Bibliography
