import Redaction.CommandLine

/-!
# The program

Runs the command line on the real standard streams. The environment gives the paths of the libraries
and says what to log; the program itself reads no manifest.
-/

namespace Redaction

/-- What the variables of the environment say. -/
def environmentOfVariables : IO Environment := do
  return {
    runtimeCrate := ← IO.getEnv "PROTOREDACT_RUNTIME_CRATE"
    logCrate := ← IO.getEnv "PROTOREDACT_SLOG_CRATE"
    inTest := (← IO.getEnv "CARGO_TARGET_TMPDIR").isSome }

/-- Which events are logged. -/
def filterOfVariables : IO Log.Filter := do
  return .ofName ((← IO.getEnv "RUST_LOG").getD "")

/-- The bytes of a stream up to its end. -/
partial def readAll (stream : IO.FS.Stream) (done : ByteArray) : IO ByteArray := do
  let chunk ← stream.read 65536
  if chunk.isEmpty then return done else readAll stream (done ++ chunk)

end Redaction

open Redaction in
/-- **The entry point.** -/
def main (args : List String) : IO UInt32 := do
  let environment ← environmentOfVariables
  let filter ← filterOfVariables
  let reads := CommandLine.actionOf args = .answer
  let input ← if reads then readAll (← IO.getStdin) ByteArray.empty else pure ByteArray.empty
  let outcome := CommandLine.run environment args input.data.toList
  let stderr ← IO.getStderr
  for event in outcome.events do
    if filter.shows event.level then stderr.putStrLn event.line
  if let some report := outcome.report then stderr.putStr report
  let stdout ← IO.getStdout
  stdout.write ⟨outcome.stdout.toArray⟩
  stdout.flush
  return outcome.exitCode.toUInt32
