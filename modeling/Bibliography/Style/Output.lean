import Bibliography.Style.Evaluation
import Bibliography.Table.Label

/-
  Running a style over a list of citations.

  The prologue runs first and the epilogue last.  A key without an
  entry is skipped with a warning.  An entry without a label is
  labelled with its place among the formatted ones.

  Key definitions include:
    * `FormattedEntry`
    * `StyleOutput`
    * `Setting.formatEntries`
    * `Program.runStyle`
-/

------------------------------------------------------------
-- Output of a Run
------------------------------------------------------------

namespace Bibliography

/- The text of one entry, with its key and label. -/
structure FormattedEntry where
  key : Text
  label : Text
  text : Text
  deriving DecidableEq

/- All that a run has produced. -/
structure StyleOutput where
  entries : List FormattedEntry
  output : Text
  warnings : List Text
  labelWidth : Nat
  deriving DecidableEq

namespace StyleOutput

/- The output of a machine that has run to its end. -/
def ofMachine
    (entries : List FormattedEntry)
    (m : Machine) : StyleOutput where
  entries := entries
  output := m.output
  warnings := m.warnings
  labelWidth :=
    Table.maximum (entries.map (fun e => e.label.length))

end StyleOutput

------------------------------------------------------------
-- Runs
------------------------------------------------------------

namespace Setting

/- The warning about a key without an entry. -/
def unknownKey (key : Text) : Text :=
  "I didn\x27t find a database entry for \"".toList ++ key ++
    ['"']

/- The frame of an entry in errors. -/
def entryFrame (key : Text) : Text :=
  "entry ".toList ++ key

/-
  Format the entries of some keys after those that are done
  already.
-/
def formatEntries
    (s : Setting)
    (t : Table)
    (fuel : Nat) :
    List FormattedEntry → List Text → Machine →
      Outcome (List FormattedEntry)
  | done, [], m => .finished (.ok done) m
  | done, key :: rest, m =>
      match t.find? key with
      | none =>
          ((Machine.warn (unknownKey key)).outcome m).andThen
            fun _ m => formatEntries s t fuel done rest m
      | some (canonical, e) =>
          ((Machine.formatEntry s fuel key m).mapError
              (·.inFrame (entryFrame canonical))).andThen
            fun text m =>
              let place := (toString (done.length + 1)).toList
              let formatted : FormattedEntry :=
                ⟨canonical, e.label.getD place, text⟩
              formatEntries s t fuel (done ++ [formatted]) rest m

end Setting

namespace Program

/- Run a style over the entries of some keys. -/
def runStyle
    (p : Program)
    (t : Table)
    (fuel : Nat)
    (keys : List Text) : Outcome StyleOutput :=
  let s : Setting := ⟨p, some t⟩
  (Machine.runPrologue s fuel (.initial p)).andThen fun _ m =>
    (s.formatEntries t fuel [] keys m).andThen fun entries m =>
      (Machine.runEpilogue s fuel m).andThen fun _ m =>
        .finished (.ok (.ofMachine entries m)) m

end Program

end Bibliography
