import Chip8.Headless.Arguments

/-!
# The command line

Reads the arguments and the program file, runs a headless session, and writes
its report. `RUST_LOG` holds the filter of the log.
-/

namespace Chip8

/-- The contents of a file, or why it cannot be read. -/
def readProgram (file : String) : IO (Except Headless.FileError (List UInt8)) := do
  try
    let bytes ← IO.FS.readBinFile file
    return .ok bytes.toList
  catch e =>
    match e with
    | .noFileOrDirectory .. => return .error .notFound
    | .permissionDenied .. => return .error ⟨13, "PermissionDenied", "Permission denied"⟩
    | e => return .error ⟨5, "Other", toString e⟩

/-- The filter of the log, as it is written. -/
def logFilter : IO String := do
  return (← IO.getEnv "RUST_LOG").getD ""

/-- Run a session and write what came of it. -/
def runSession (options : Headless.Options) : IO UInt32 := do
  let report := Headless.run options (← readProgram options.file)
  if let some delay := options.pacing.delay? then
    IO.sleep (UInt32.ofNat (delay * report.ticks / 1000000))
  IO.print report.output
  IO.eprint (report.stderr (← logFilter))
  return UInt32.ofNat report.exitCode

end Chip8

/-- Run the program that the command line names. -/
def main (args : List String) : IO UInt32 := do
  let drawn ← IO.rand 0 0xFFFFFFFFFFFFFFFF
  let options? := do
    let arguments ← Chip8.Headless.Arguments.read args
    arguments.options? (UInt64.ofNat drawn)
  match options? with
  | some options => Chip8.runSession options
  | none =>
    IO.eprintln Chip8.Headless.Arguments.usage
    return 1
