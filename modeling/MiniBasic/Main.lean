import MiniBasic.CommandLine.Run

/-!
# The program

Reads the bytes that a command needs, runs it, and writes its two streams.  Colours are for a
terminal, or for whoever insists on them by `CLICOLOR_FORCE`.

The standard input is read as a whole, and both streams are put out at the end.  So there is no
prompt for a line that is still to be typed, and no bar that shows how far a check has come.
-/

namespace MiniBasic

open CommandLine

/-- The number of a system's error.  It comes with either sign. -/
def errorNumber (code : UInt32) : Nat := code.toInt32.toInt.natAbs

/-- Why a file was not read. -/
def CommandLine.FileError.ofSystem : IO.Error → FileError
  | .noFileOrDirectory .. => .notFound
  | .permissionDenied .. => .notAllowed
  | .inappropriateType _ code _ => if errorNumber code = 20 then .notDirectory else .isDirectory
  | .invalidArgument _ code details =>
    if errorNumber code = 36 then .nameTooLong else .other details
  | error => .other (toString error)

/-- The bytes of a file. -/
def readFile (path : String) : IO (Except FileError ByteArray) := do
  try
    return .ok (← IO.FS.readBinFile path)
  catch error =>
    return .error (.ofSystem error)

/-- The bytes of the standard input. -/
def readInput : IO (Except FileError ByteArray) := do
  return .ok (← (← IO.getStdin).readBinToEnd)

/-- A setting of the environment, or its value when it is not set. -/
def setting (name unset : String) : IO String := do
  return (← IO.getEnv name).getD unset

/-- May styles be written to the standard output? -/
def isCapable : IO Bool := do
  if (← setting "CLICOLOR_FORCE" "0") != "0" then return true
  if (← setting "CLICOLOR" "1") == "0" || (← setting "TERM" "") == "dumb" then return false
  if (← IO.getEnv "NO_COLOR").isSome then return false
  (← IO.getStdout).isTty

/-- Puts on both streams what is written at the end. -/
def put (written : Written) : IO UInt32 := do
  (← IO.getStdout).putStr written.stdout
  (← IO.getStderr).putStr written.stderr
  return written.code.toUInt32

end MiniBasic

open MiniBasic CommandLine in
/-- Runs the program. -/
def main (args : List String) : IO UInt32 := do
  match Invocation.ofArguments args with
  | .error ending => put (ending.outcome.write false)
  | .ok invocation =>
    let contents ← match invocation.command.file? with
      | some path => readFile path
      | none => readInput
    put (invocation.write (← isCapable) contents)
