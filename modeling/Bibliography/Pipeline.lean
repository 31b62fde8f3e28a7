import Bibliography.Database.Document
import Bibliography.Style.Output
import Bibliography.Table.Citation

/-
  A whole run: parse a database, resolve the citations, label the
  entries, and format them.  Each step ends before the next one
  begins.

  Key definitions include:
    * `RunConfig`
    * `RunOutput`
    * `RunConfig.runTable`
    * `RunConfig.run`
-/

------------------------------------------------------------
-- Configuration and Output
------------------------------------------------------------

namespace Bibliography

/- The settings of a run. -/
structure RunConfig where
  parser : ParserConfig
  minCrossrefs : Nat
  labelStyle : LabelStyle
  deriving DecidableEq

namespace RunConfig

/- Two references pull an entry in, and labels are numbers. -/
def standard : RunConfig :=
  ⟨.standard, 2, .number⟩

end RunConfig

/- All that a run has produced. -/
structure RunOutput where
  table : Table
  citations : List Text
  style : StyleOutput
  diagnostics : List Error
  deriving DecidableEq

------------------------------------------------------------
-- Runs
------------------------------------------------------------

namespace RunConfig

/- Read a database. -/
def parse
    (config : RunConfig)
    (t : Text) : Database :=
  Database.parse config.parser t

/- The citations to format. -/
def resolve
    (config : RunConfig)
    (t : Table)
    (citations : List Text) : List Text :=
  t.resolveCitations citations config.minCrossrefs

/-
  Resolve, label and format a table that has been read.  There is
  no result if the style does not end within the fuel.
-/
def runTable
    (config : RunConfig)
    (fuel : Nat)
    (t : Table)
    (diagnostics : List Error)
    (p : Program)
    (citations : List Text) : Option (Except Error RunOutput) :=
  let resolved := config.resolve t citations
  match t.assignLabels resolved config.labelStyle with
  | .error e => some (.error e)
  | .ok labelled =>
      match p.runStyle labelled fuel resolved with
      | .unfinished => none
      | .finished (.error e) _ => some (.error e)
      | .finished (.ok style) _ =>
          some (.ok ⟨labelled, resolved, style, diagnostics⟩)

/- Run over the text of a database. -/
def run
    (config : RunConfig)
    (fuel : Nat)
    (t : Text)
    (p : Program)
    (citations : List Text) : Option (Except Error RunOutput) :=
  let db := config.parse t
  config.runTable fuel db.table db.diagnostics p citations

end RunConfig

end Bibliography
