import Compliance.Command.Answer
import Std.Time.DateTime.Timestamp

/-!
# Compliance.Main

The command line: reads the files that a command names, runs the command and prints what it
leaves behind.
-/

namespace Compliance.Main

/-- The instant of the system's clock. -/
def systemClock : IO Instant := do
  let now ← Std.Time.Timestamp.now
  return (Instant.of? now.toNanosecondsSinceUnixEpoch.val 0).getD Instant.epoch

def fileError : IO.Error → FileError
  | .noFileOrDirectory .. => .missing
  | .inappropriateType .. => .isADirectory
  | .permissionDenied .. => .denied
  | e => .other (toString e)

def readFile (path : String) : IO (Except FileError String) := do
  try
    let bytes ← IO.FS.readBinFile path
    match String.fromUTF8? bytes with
    | some text => return .ok text
    | none => return .error .notText
  catch e => return .error (fileError e)

/-- The files that an invocation names, with what they hold. -/
def readAll (paths : List String) : IO (List (String × Except FileError String)) :=
  paths.mapM fun path => do return (path, ← readFile path)

def worldOf (files : List (String × Except FileError String)) (clock : Instant) : World where
  read path :=
    match files.find? fun (name, _) => name == path with
    | some (_, content) => content
    | none => .error .missing
  clock := clock

/-- Runs the command that the arguments ask for; the result is the exit code. -/
def run (arguments : List String) : IO UInt32 := do
  let paths := match Invocation.ofArguments? arguments with
    | .ok i => i.files
    | .error _ => []
  let outcome := runArguments arguments (worldOf (← readAll paths) (← systemClock))
  IO.print outcome.output
  IO.eprint outcome.errors
  return outcome.code.toUInt32

end Compliance.Main

def main (arguments : List String) : IO UInt32 := Compliance.Main.run arguments
