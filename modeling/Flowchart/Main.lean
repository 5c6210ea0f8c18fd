import Mathlib.Tactic.DeprecateTo
import Flowchart.Command.Run

/-! # The command line program

The lines of the log bear the time at which the program was started.  The clock is that of `Std.Time`,
which comes with the import from Mathlib.
-/

namespace Flowchart.Command

/-- The name of the environment variable that sets the level of the log. -/
def logLevelVariable : String := "FLOWCHART_LOG_LEVEL"

/-- The number of the reason for which a file could not be read.  The system may give it with a
minus sign. -/
def reasonNumber : IO.Error → Nat
  | .noFileOrDirectory _ code _ | .inappropriateType _ code _ | .permissionDenied _ code _
  | .invalidArgument _ code _ | .resourceExhausted _ code _ => min code.toNat (-code).toNat
  | _ => 5

/-- Reads the bytes of a file. -/
def readContents (name : String) : IO Contents := do
  try
    let bytes ← IO.FS.readBinFile name
    return .ok bytes.toList
  catch e =>
    return .error (.ofNumber (reasonNumber e))

/-- The time in the zone of the system, or universal time if that zone is not known. -/
def localTime : IO Std.Time.PlainDateTime := do
  try Std.Time.PlainDateTime.now
  catch _ => return .ofWallTime (.ofTimestamp (← Std.Time.Timestamp.now) .zero)

/-- A time as it stands in a line of the log, to the millisecond. -/
def stampOf (time : Std.Time.PlainDateTime) : Text :=
  time.format "uuuu-MM-dd HH:mm:ss,SSS"

/-- Prints an output and gives its status. -/
def emit (output : Output) : IO UInt32 := do
  IO.print output.out.toString
  IO.eprint output.err.toString
  return output.status.toUInt32

end Flowchart.Command

open Flowchart.Command in
/-- Runs the program on the arguments it was started with. -/
def main (argv : List String) : IO UInt32 := do
  match readCommandLine (argv.map Flowchart.Text.ofString) with
  | .error halt => emit halt.output
  | .ok invocation =>
    let contents ← match invocation.file? with
      | some name => readContents name.toString
      | none => pure (.error .missing)
    let asked ← IO.getEnv logLevelVariable
    let surroundings :=
      { logLevel := asked.map Flowchart.Text.ofString, stamp := stampOf (← localTime) }
    match carryOut surroundings invocation contents with
    | .ok output => emit output
    | .error crash =>
      IO.eprintln ("flowchart: " ++ crash.message.toString)
      return 1
