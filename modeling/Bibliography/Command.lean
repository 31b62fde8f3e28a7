import Bibliography.Files
import Bibliography.Pipeline

/-
  The command line.

  Arguments become a request, a request a report: an exit code
  and what is printed.  Only the access to files is left open.

  Key definitions include:
    * `Request`
    * `Request.parse`
    * `Report`
    * `Request.answer`
    * `answerArguments`
-/

------------------------------------------------------------
-- Requests
------------------------------------------------------------

namespace Bibliography

/- What the command line can be asked for. -/
inductive Request where
  | help
  | version
  | check (file : Text)
  | cite (file : Text) (keys : List Text) (minimum : Option Nat)
  | person (name : Text)
  | snapshot (file out : Text)
  deriving DecidableEq

/- Why arguments are no request. -/
inductive UsageFault where
  | missingMinimum
  | invalidMinimum (value : Text)
  | unknownOption (option : Text)
  | minimumWithoutCite
  | wrongCount (command : Text)
  | unknownCommand (command : Text)
  deriving DecidableEq

namespace UsageFault

/- The words for a fault. -/
def message : UsageFault → Text
  | .missingMinimum => "--min-crossrefs requires a value".toList
  | .invalidMinimum value =>
      "invalid --min-crossrefs value: ".toList ++ value
  | .unknownOption option => "unknown option: ".toList ++ option
  | .minimumWithoutCite =>
      "--min-crossrefs only applies to cite".toList
  | .wrongCount command =>
      "wrong number of arguments for ".toList ++ command
  | .unknownCommand command =>
      "unknown command: ".toList ++ command

end UsageFault

namespace Request

/- The options and operands among some arguments. -/
structure Arguments where
  operands : List Text
  minimum : Option Nat
  help : Bool
  version : Bool

/- A count as digits with an optional plus sign, in 64 bits. -/
def parseCount? (t : Text) : Option Nat :=
  let digits :=
    match t with
    | '+' :: rest => rest
    | other => other
  match Text.parseNat? digits with
  | some n => if n < 0x10000000000000000 then some n else none
  | none => none

/- Whether an argument is an option by its form. -/
def looksLikeOption (arg : Text) : Bool :=
  arg.head? == some '-' && arg.length != 1

/- Sort arguments into options and operands. -/
def sortArguments
    (a : Arguments) : List Text → Except UsageFault Arguments
  | [] => .ok a
  | arg :: rest =>
      if arg = "-h".toList ∨ arg = "--help".toList then
        sortArguments { a with help := true } rest
      else if arg = "-V".toList ∨ arg = "--version".toList then
        sortArguments { a with version := true } rest
      else if arg = "-v".toList ∨ arg = "--verbose".toList then
        sortArguments a rest
      else if arg = "--min-crossrefs".toList then
        match rest with
        | [] => .error .missingMinimum
        | value :: rest =>
            match parseCount? value with
            | none => .error (.invalidMinimum value)
            | some n =>
                sortArguments { a with minimum := some n } rest
      else if looksLikeOption arg then
        .error (.unknownOption arg)
      else
        sortArguments { a with operands := a.operands ++ [arg] }
          rest

/- The request of a command with its operands. -/
def ofCommand
    (command : Text)
    (operands : List Text)
    (minimum : Option Nat) : Except UsageFault Request :=
  if command = "check".toList then
    match operands with
    | [file] => .ok (.check file)
    | _ => .error (.wrongCount command)
  else if command = "cite".toList then
    match operands with
    | file :: keys => .ok (.cite file keys minimum)
    | [] => .error (.wrongCount command)
  else if command = "name".toList then
    match operands with
    | [name] => .ok (.person name)
    | _ => .error (.wrongCount command)
  else if command = "snapshot".toList then
    match operands with
    | [file, out] => .ok (.snapshot file out)
    | _ => .error (.wrongCount command)
  else .error (.unknownCommand command)

/-
  The request of some arguments.  Help comes before the version,
  and both before any command.
-/
def parse (args : List Text) : Except UsageFault Request :=
  match sortArguments ⟨[], none, false, false⟩ args with
  | .error fault => .error fault
  | .ok a =>
      if a.help then .ok .help
      else if a.version then .ok .version
      else
        match a.operands with
        | [] => .ok .help
        | command :: operands =>
            if a.minimum.isSome ∧ command ≠ "cite".toList then
              .error .minimumWithoutCite
            else ofCommand command operands a.minimum

end Request

------------------------------------------------------------
-- Reports
------------------------------------------------------------

/- The exit code and the text on both output streams. -/
structure Report where
  code : Nat
  output : Text
  errors : Text
  deriving DecidableEq

namespace Report

/- Success with some output. -/
def success (output : Text) : Report :=
  ⟨0, output, []⟩

/- A line in red that names an error. -/
def errorLine (message : Text) : Text :=
  "\x1b[31mError: ".toList ++ message ++ "\x1b[0m\n".toList

/- The report of an error while a request is answered. -/
def failure (e : Error) : Report :=
  ⟨1, [], errorLine e.kind.message⟩

/- The report of arguments that are no request. -/
def misuse (fault : UsageFault) : Report :=
  ⟨1, [],
    errorLine fault.message ++
      "Try \x27bibtable --help\x27 for usage.\n".toList⟩

end Report

------------------------------------------------------------
-- Answers
------------------------------------------------------------

namespace Request

/- The lines of the help page. -/
def helpLines : List String := [
  "bibtable - bibliography database tools",
  "",
  "USAGE:",
  "    bibtable [OPTIONS] <COMMAND>",
  "",
  "COMMANDS:",
  "    check FILE                            Parse FILE and report skipped records",
  "    cite FILE [KEY...] [--min-crossrefs N]",
  "                                          Print resolved citations (default: *)",
  "    name STRING                           Print the parts of a personal name",
  "    snapshot FILE OUT                     Save the parsed table of FILE to OUT",
  "",
  "OPTIONS:",
  "    -h, --help       Print this help message",
  "    -V, --version    Print version information",
  "    -v, --verbose    Log at debug level (otherwise RUST_LOG, default warn)",
  ""]

/- The text of the help page. -/
def helpText : String :=
  "\n".intercalate helpLines ++ "\n"

/- The line with the version. -/
def versionText : String :=
  "bibtable 0.1.0\n"

/- A count in decimal. -/
def showCount (n : Nat) : Text :=
  (toString n).toList

/- The report of a database that has been checked. -/
def checkReport
    (file : Text)
    (db : Database) : Report where
  code := if db.diagnostics.isEmpty then 0 else 1
  output :=
    db.diagnostics.flatMap (fun e => e.render ++ ['\n']) ++
      file ++ ": ".toList ++ showCount db.table.size ++
      " entries, ".toList ++ showCount db.diagnostics.length ++
      " skipped records\n".toList
  errors := []

/- The keys that are cited; all of them if none is given. -/
def citedKeys (keys : List Text) : List Text :=
  if keys.isEmpty then [Table.wildcard] else keys

/- The report of resolved citations. -/
def citeReport
    (t : Table)
    (keys : List Text)
    (minimum : Option Nat) : Report :=
  let config :=
    { RunConfig.standard with
      minCrossrefs :=
        minimum.getD RunConfig.standard.minCrossrefs }
  .success
    ((config.resolve t (citedKeys keys)).flatMap
      (fun key => key ++ ['\n']))

/- The line of a part of a name. -/
def partLine
    (label : String)
    (words : List Text) : Text :=
  label.toList ++ List.replicate (8 - label.length) ' ' ++
    [' '] ++ Text.unwords words ++ ['\n']

/- The report of the parts of a name. -/
def nameReport (name : Text) : Report :=
  match Person.parse name with
  | .error e => .failure e
  | .ok p =>
      .success
        (partLine "first" p.first ++ partLine "middle" p.middle ++
          partLine "prelast" p.prelast ++
          partLine "last" p.last ++
          partLine "lineage" p.lineage)

/- The report of a snapshot that has been saved. -/
def snapshotReport
    (out : Text)
    (db : Database) : Report :=
  .success
    ("wrote ".toList ++ showCount db.table.size ++
      " entries to ".toList ++ out ++ " (".toList ++
      showCount db.diagnostics.length ++
      " skipped records)\n".toList)

/- Answer a request. -/
def answer
    {m : Type → Type}
    [Monad m]
    (files : FileAccess m) : Request → m Report
  | .help => return .success helpText.toList
  | .version => return .success versionText.toList
  | .person name => return nameReport name
  | .check file => do
      match ← files.readDatabase FileAccess.sourceError .standard
          file with
      | .error e => return .failure e
      | .ok db => return checkReport file db
  | .cite file keys minimum => do
      match ← files.readDatabase FileAccess.sourceError .standard
          file with
      | .error e => return .failure e
      | .ok db => return citeReport db.table keys minimum
  | .snapshot file out => do
      match ← files.readDatabase FileAccess.sourceError .standard
          file with
      | .error e => return .failure e
      | .ok db =>
          match ← files.saveSnapshot db.table out with
          | .error e => return .failure e
          | .ok _ => return snapshotReport out db

end Request

/- Answer the arguments of the command line. -/
def answerArguments
    {m : Type → Type}
    [Monad m]
    (files : FileAccess m)
    (args : List Text) : m Report :=
  match Request.parse args with
  | .error fault => return .misuse fault
  | .ok request => request.answer files

end Bibliography
