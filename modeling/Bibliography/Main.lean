import Bibliography.Command

/-
  The program on a real disk.
-/

------------------------------------------------------------
-- Files on Disk
------------------------------------------------------------

namespace Bibliography

/- The fault of an error number of the operating system. -/
def faultOfCode
    (code : UInt32)
    (details : String) : FileFault :=
  match code.toNat with
  | 2 => .notFound
  | 20 => .notADirectory
  | 21 => .isADirectory
  | 36 => .nameTooLong
  | n =>
      .other
        (details.toList ++ " (os error ".toList ++
          (toString n).toList ++ ")".toList)

/- What a failed access to a file means. -/
def faultOfError : IO.Error → FileFault
  | .noFileOrDirectory .. => .notFound
  | .inappropriateType _ code details
  | .invalidArgument _ code details
  | .permissionDenied _ code details
  | .resourceExhausted _ code details
  | .alreadyExists _ code details
  | .noSuchThing _ code details
  | .interrupted _ code details
  | .hardwareFault code details
  | .resourceBusy code details
  | .otherError code details => faultOfCode code details
  | e => .other (toString e).toList

/- Access to files of the operating system. -/
def diskAccess : FileAccess IO where
  read path := do
    if path.contains '\x00' then return .error .nulInPath
    try
      let bytes ← IO.FS.readBinFile (String.ofList path)
      return .ok bytes.toList
    catch e => return .error (faultOfError e)
  create path bytes := do
    if path.contains '\x00' then return .error .nulInPath
    try
      IO.FS.writeBinFile (String.ofList path) bytes.toByteArray
      return .ok ()
    catch e => return .error (faultOfError e)

end Bibliography

------------------------------------------------------------
-- Entry Point
------------------------------------------------------------

/- Answer the arguments and print the report. -/
def main (args : List String) : IO UInt32 := do
  let report ←
    Bibliography.answerArguments Bibliography.diskAccess
      (args.map String.toList)
  IO.print (String.ofList report.output)
  IO.eprint (String.ofList report.errors)
  return UInt32.ofNat report.code
