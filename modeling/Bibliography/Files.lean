import Bibliography.Database.Document
import Bibliography.Snapshot

/-
  Databases and snapshots in files.

  How files are accessed is a parameter, so that the same code
  runs on a real disk and on a list of files held in memory.

  Key definitions include:
    * `FileFault`
    * `FileAccess`
    * `FileAccess.readDatabase`
    * `FileAccess.saveSnapshot`
    * `FileAccess.loadSnapshot`
-/

------------------------------------------------------------
-- Access to Files
------------------------------------------------------------

namespace Bibliography

/- Why a file cannot be used. -/
inductive FileFault where
  | notFound
  | notADirectory
  | isADirectory
  | nameTooLong
  | nulInPath
  | notText
  | other (message : Text)
  deriving DecidableEq

namespace FileFault

/- The words for a fault. -/
def message : FileFault → Text
  | .notFound => "No such file or directory (os error 2)".toList
  | .notADirectory => "Not a directory (os error 20)".toList
  | .isADirectory => "Is a directory (os error 21)".toList
  | .nameTooLong => "File name too long (os error 36)".toList
  | .nulInPath =>
      "file name contained an unexpected NUL byte".toList
  | .notText => "stream did not contain valid UTF-8".toList
  | .other message => message

/- The step at which loading a snapshot meets a fault. -/
def loadingStep : FileFault → String
  | .isADirectory => "read"
  | _ => "open"

end FileFault

/- Reading a whole file and writing a new one. -/
structure FileAccess (m : Type → Type) where
  read : Text → m (Except FileFault Bytes)
  create : Text → Bytes → m (Except FileFault Unit)

namespace FileAccess

variable {m : Type → Type} [Monad m]

/- The text of a file. -/
def readText
    (files : FileAccess m)
    (path : Text) : m (Except FileFault Text) := do
  match ← files.read path with
  | .error fault => return .error fault
  | .ok bytes =>
      match Text.ofBytes? bytes with
      | none => return .error .notText
      | some t => return .ok t

------------------------------------------------------------
-- Databases
------------------------------------------------------------

/- The error of a database file, with its path in the message. -/
def pathError
    (path : Text)
    (fault : FileFault) : Error :=
  .of (.io (path ++ ": ".toList ++ fault.message))

/- The error of a database file, with its path as the source. -/
def sourceError
    (path : Text)
    (fault : FileFault) : Error :=
  (Error.of (.io fault.message)).inSource path

/-
  Read a database file; `wrap` makes an error of a path and a
  fault.
-/
def readDatabase
    (files : FileAccess m)
    (wrap : Text → FileFault → Error)
    (config : ParserConfig)
    (path : Text) : m (Except Error Database) := do
  match ← files.readText path with
  | .error fault => return .error (wrap path fault)
  | .ok t => return .ok (Database.parse config t)

------------------------------------------------------------
-- Snapshots
------------------------------------------------------------

/- The error of a snapshot file. -/
def snapshotError
    (step : String)
    (path : Text)
    (fault : FileFault) : Error :=
  .of
    (.io
      ("failed to ".toList ++ step.toList ++
        " file \x27".toList ++ path ++ "\x27: ".toList ++
        fault.message))

/- Save the snapshot of a table in a new file. -/
def saveSnapshot
    (files : FileAccess m)
    (t : Table)
    (path : Text) : m (Except Error Unit) := do
  match ← files.create path t.toSnapshot with
  | .error fault =>
      return .error (snapshotError "create" path fault)
  | .ok _ => return .ok ()

/- Load the table of a snapshot file. -/
def loadSnapshot
    (files : FileAccess m)
    (path : Text) : m (Except Error Table) := do
  match ← files.read path with
  | .error fault =>
      return .error (snapshotError fault.loadingStep path fault)
  | .ok bytes => return Table.ofSnapshot bytes

end FileAccess

end Bibliography
