import Aliquot.CommandLine.Run
import Std.Time.Zoned

/-!
# The program

Writes what a command line leaves behind to the log and the two streams.

Source: `main` and `_setup_logging` in `bezout.cli`.
-/

namespace Aliquot.Main

/-- A number with at least `width` digits. -/
def padded (width : Nat) (k : Int) : String :=
  let digits := toString k
  String.ofList (List.replicate (width - digits.length) '0') ++ digits

/-- The local date and time, to the millisecond. -/
def timestamp : IO String := do
  let now ← Std.Time.PlainDateTime.now
  let date := s!"{padded 4 now.year}-{padded 2 now.month.val}-{padded 2 now.day.val}"
  let time := s!"{padded 2 now.hour.val}:{padded 2 now.minute.val}:{padded 2 now.second.val}"
  return s!"{date} {time},{padded 3 now.millisecond.val}"

/-- Writes a log. A log file is there afterwards even if there are no lines. -/
def writeLog (log : CommandLine.Log) : IO Unit := do
  let stream ← match log.target with
    | .file name => IO.FS.Stream.ofHandle <$> IO.FS.Handle.mk name .append
    | .errorStream => IO.getStderr
  for line in log.lines do
    stream.putStrLn s!"{← timestamp} - {line}"

/-- Carries out a command line. -/
def run (args : List String) : IO UInt32 := do
  let outcome := CommandLine.outcome args
  if let some log := outcome.record? then writeLog log
  (← IO.getStdout).putStr outcome.stdout
  let message? := outcome.stderr?.or (outcome.fault?.map Fault.message)
  if let some message := message? then (← IO.getStderr).putStrLn message
  return outcome.exit.toUInt32

end Aliquot.Main

/-- The entry point. -/
def main (args : List String) : IO UInt32 := Aliquot.Main.run args
