import RecordQuery.Cli.Run

/-!
The `memql` program: the command line read, the files it names read from disk, the command run,
its output printed and its status returned. Everything but the reading and printing is
`Cli.parseArgs` and `Cli.Command.perform`.
-/

set_option autoImplicit false

namespace RecordQuery

namespace Program

/-- The system error code of a failed read, when it has one. -/
def osCode? : IO.Error → Option (UInt32 × String)
  | .noFileOrDirectory _ code details => some (code, details)
  | .inappropriateType _ code details => some (code, details)
  | .permissionDenied _ code details => some (code, details)
  | .invalidArgument _ code details => some (code, details)
  | .resourceExhausted _ code details => some (code, details)
  | .noSuchThing _ code details => some (code, details)
  | .otherError code details => some (code, details)
  | .hardwareFault code details => some (code, details)
  | _ => none

/-- Why a read failed, from the system error. -/
def readFault (e : IO.Error) : Cli.ReadFault :=
  match osCode? e with
  | some (2, _) => .notFound
  | some (20, _) => .notDirectory
  | some (21, _) => .isDirectory
  | some (code, details) => .other details code.toNat
  | none => .other (toString e) 0

/-- The text of a file, or why it cannot be read. -/
def readText (path : String) : IO (Except Cli.ReadFault String) := do
  try
    let bytes ← IO.FS.readBinFile path
    match String.fromUTF8? bytes with
    | some text => pure (.ok text)
    | none => pure (.error .notUtf8)
  catch e => pure (.error (readFault e))

end Program

end RecordQuery

/-- Run `memql` on the command line. -/
def main (args : List String) : IO UInt32 := do
  let stdout ← IO.getStdout
  let stderr ← IO.getStderr
  match RecordQuery.Cli.parseArgs args with
  | .error e =>
    if e.kind.toStdout then stdout.putStr e.text else stderr.putStr e.text
    pure e.kind.exitCode.toUInt32
  | .ok inv =>
    let table ← inv.command.paths.mapM fun p => do pure (p, ← RecordQuery.Program.readText p)
    let files : RecordQuery.Cli.FileReader := fun p =>
      ((table.find? (·.1 == p)).map (·.2)).getD (.error .notFound)
    let o := inv.command.perform files
    stdout.putStr o.stdout
    stderr.putStr (o.errorText inv.threshold)
    stdout.flush
    pure (match o.result with
      | .ok () => 0
      | .error _ => 1)
