import Bibliography.Files

/-
  Files in memory.

  A disk holds files by the names on the way to them from its
  root.  A path is followed name by name: what is on the way has
  to be a directory, `..` goes up, and `.` and the empty name
  beside a slash stay in a directory.

  Key definitions include:
    * `Address`
    * `Disk`
    * `Disk.follow`
    * `Disk.read`
    * `Disk.create`
    * `Disk.access`
-/

------------------------------------------------------------
-- Paths
------------------------------------------------------------

namespace Bibliography

/- The names on the way to a file or directory from the root. -/
abbrev Address :=
  List Text

namespace Address

/- The directory at which a path without a first slash begins. -/
def workingDirectory : Address :=
  ["tmp".toList, "work".toList]

/- Where a path begins. -/
def start (path : Text) : Address :=
  if path.head? = some '/' then [] else workingDirectory

/- Where a name leads from a directory. -/
def step
    (place : Address)
    (name : Text) : Address :=
  if name = [] ∨ name = ['.'] then place
  else if name = ['.', '.'] then place.dropLast
  else place ++ [name]

/- Where a path leads if all on its way are directories. -/
def ofPath (path : Text) : Address :=
  (List.splitOn '/' path).foldl step (start path)

end Address

/- The most bytes of a name. -/
def nameLimit : Nat :=
  255

/- The most bytes of a path. -/
def pathLimit : Nat :=
  4095

/- Why a path is refused before it is followed. -/
def pathFault? (path : Text) : Option FileFault :=
  if path.contains '\x00' then some .nulInPath
  else if path = [] then some .notFound
  else if pathLimit < (Text.toBytes path).length then
    some .nameTooLong
  else none

------------------------------------------------------------
-- Disks
------------------------------------------------------------

/- Files by their addresses. -/
structure Disk where
  files : List (Address × Bytes)

namespace Disk

/- The disk without files. -/
def empty : Disk :=
  ⟨[]⟩

/- The content of the file at an address. -/
def find?
    (d : Disk)
    (place : Address) : Option Bytes :=
  d.files.lookup place

/-
  Whether an address is that of a directory: one on the way to a
  file or to the working directory, or the latter itself.
-/
def isDirectory
    (d : Disk)
    (place : Address) : Bool :=
  place.isPrefixOf Address.workingDirectory ||
    d.files.any
      (fun f => place.isPrefixOf f.1 && place != f.1)

/- Whether a file or directory is at an address. -/
def holds
    (d : Disk)
    (place : Address) : Bool :=
  (d.find? place).isSome || d.isDirectory place

/- Put a file where a path leads, in place of an earlier one. -/
def put
    (d : Disk)
    (path : Text)
    (bytes : Bytes) : Disk :=
  let place := Address.ofPath path
  ⟨(place, bytes) :: d.files.filter (fun f => f.1 != place)⟩

/- Go from a place on the way to what has a name there. -/
def follow
    (d : Disk)
    (place : Address)
    (name : Text) : Except FileFault Address :=
  if !d.isDirectory place then .error .notADirectory
  else if nameLimit < (Text.toBytes name).length then
    .error .nameTooLong
  else if d.holds (place.step name) then .ok (place.step name)
  else .error .notFound

/- Follow some names from where a path begins. -/
def followAll
    (d : Disk)
    (path : Text)
    (names : List Text) : Except FileFault Address :=
  names.foldlM d.follow (Address.start path)

------------------------------------------------------------
-- Reading and Writing
------------------------------------------------------------

/- Read a file. -/
def read
    (d : Disk)
    (path : Text) : Except FileFault Bytes :=
  match pathFault? path with
  | some fault => .error fault
  | none =>
      match d.followAll path (List.splitOn '/' path) with
      | .error fault => .error fault
      | .ok place =>
          match d.find? place with
          | none => .error .isADirectory
          | some bytes => .ok bytes

/-
  Make a file in a directory that is there.  A path that ends with
  a slash is one of a directory, whether it is there or not.
-/
def create
    (d : Disk)
    (path : Text)
    (bytes : Bytes) : Except FileFault Disk :=
  match pathFault? path with
  | some fault => .error fault
  | none =>
      let names :=
        (List.splitOn '/' path).filter (fun name => name != [])
      let name := names.getLastD []
      match d.followAll path names.dropLast with
      | .error fault => .error fault
      | .ok place =>
          if !d.isDirectory place then .error .notADirectory
          else if path.getLast? = some '/' ||
              d.isDirectory (place.step name) then
            .error .isADirectory
          else if nameLimit < (Text.toBytes name).length then
            .error .nameTooLong
          else .ok (d.put path bytes)

/- Access to the files of a disk in memory. -/
def access : FileAccess (StateM Disk) where
  read path := do
    return (← get).read path
  create path bytes := do
    match (← get).create path bytes with
    | .error fault => return .error fault
    | .ok d =>
        set d
        return .ok ()

end Disk

end Bibliography
