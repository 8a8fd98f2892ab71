import PostSieve.CommandLine.Outcome
import Std.Time.DateTime.Timestamp

/-! The program: it reads the clock, the environment and the archive, and prints the outcome. -/

namespace PostSieve.CommandLine

open Calendar (Instant)

def currentInstant : IO Instant := do
  let t := (← Std.Time.Timestamp.now).toNanosecondsSinceUnixEpoch.val
  return (Instant.ofParts? (t / 1000000000) (t % 1000000000).toNat).getD .epoch

/-- The reason for a failure to read a file. -/
def fileError : IO.Error → FileError
  | .noFileOrDirectory .. => .missing
  | .permissionDenied _ code details | .inappropriateType _ code details =>
    .other s!"{details} (os error {code})"
  | e => .other (toString e)

def readFile (path : String) : IO (Except FileError ByteArray) := do
  try
    return .ok (← IO.FS.readBinFile path)
  catch e =>
    return .error (fileError e)

end PostSieve.CommandLine

open PostSieve PostSieve.CommandLine in
/-- Answers the request of the arguments. -/
def main (arguments : List String) : IO UInt32 := do
  let rule ← IO.getEnv "HISTWEET_RULE"
  let archive ← IO.getEnv "HISTWEET_ARCHIVE"
  let environment (name : String) :=
    if name = "HISTWEET_RULE" then rule
    else if name = "HISTWEET_ARCHIVE" then archive
    else none
  let outcome ←
    match Request.read environment arguments with
    | .error e => pure (Outcome.refusal e)
    | .ok request =>
      let file ← match request.path? with
        | some path => readFile path
        | none => pure (.error .missing)
      pure (request.run (← currentInstant) file)
  IO.print outcome.output
  IO.eprint outcome.errors
  return UInt32.ofNat outcome.exitCode
