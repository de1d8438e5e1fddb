import StatementGate.CommandLine.Run
import StatementGate.Files.Tree

/-! # Command line

The commands on the files of the process. Only this module performs effects; what it prints is
decided by `CommandLine.run`. -/

namespace StatementGate.CommandLine

/-- What a failed effect is told as. -/
def reason : IO.Error → String
  | .noFileOrDirectory .. => FileError.notFound.message
  | .inappropriateType .. => FileError.isDirectory.message
  | .permissionDenied .. => "Permission denied (os error 13)"
  | e => toString e

def attempt {α : Type} (action : IO α) : IO (Except String α) := do
  try pure (.ok (← action)) catch e => pure (.error (reason e))

/-- An open database is the handle of its file; nothing here waits for a file that is busy. -/
def processFiles : FileAccess IO IO.FS.Handle where
  read path := attempt do pure (← IO.FS.readBinFile path).toList
  openLog path := attempt do let _ ← IO.FS.Handle.mk path .append
  openDatabase path readOnly _ := do
    match ← attempt (IO.FS.Handle.mk path (if readOnly then .read else .append)) with
    | .ok handle => pure (.ok handle)
    | .error _ => pure (.error s!"unable to open database file: {path}")

/-- Prints what a command leaves behind. Requests reach a gateway through `Gateway.route`; this
command line opens no socket for them. -/
def Outcome.print {Connection : Type} : Outcome Connection → IO UInt32
  | .exit left => do
    (← IO.getStdout).putStr left.output
    (← IO.getStderr).putStr left.error
    pure (UInt32.ofNat left.code)
  | .serve _ address _ => do
    (← IO.getStderr).putStr s!"gateway server failed: {address.render} cannot be listened on\n"
    pure 1

end StatementGate.CommandLine

/-- The arguments are those behind the program's name. -/
def main (arguments : List String) : IO UInt32 := do
  let environment ← IO.getEnv StatementGate.Settings.pathVariable
  let outcome ← StatementGate.CommandLine.run StatementGate.CommandLine.processFiles environment
    arguments
  outcome.print
