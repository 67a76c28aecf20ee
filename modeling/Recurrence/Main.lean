import Recurrence.Command.Run

/-! # The program

Fetches what a run may ask for, runs it, and prints its outcome. -/
namespace Recurrence

/-- What stands at a path on disk. What is there and cannot be read counts as a directory. A path
that is too long or goes on behind a file leads nowhere; the error names the path only if it could
not be followed to its end. -/
def readEntry (path : String) : IO FileEntry := do
  try
    return .file (← IO.FS.readFile path)
  catch
    | .noFileOrDirectory .. => return .missing
    | .invalidArgument .. => return .missing
    | .inappropriateType (some _) .. => return .missing
    | _ => return .directory

/-- All that is left of a stream. -/
partial def readAll (stream : IO.FS.Stream) (sofar : ByteArray) : IO ByteArray := do
  let bytes ← stream.read 4096
  if bytes.isEmpty then return sofar else readAll stream (sofar ++ bytes)

/-- The text of a stream, unless it cannot be read or is no text. -/
def readInput (stream : IO.FS.Stream) : IO (Option String) := do
  try
    return String.fromUTF8? (← readAll stream .empty)
  catch _ =>
    return none

/-- The file that a command line names, if it names one. -/
def namedFile? (args : List String) : Option String :=
  match Invocation.ofArgs args with
  | .ok ⟨_, .build file⟩ => file
  | _ => none

/-- The command reads the standard input. -/
def readsInput (args : List String) : Bool :=
  match Invocation.ofArgs args with
  | .ok ⟨_, .build none⟩ => true
  | _ => false

end Recurrence

open Recurrence in
def main (args : List String) : IO UInt32 := do
  let configPath ← IO.getEnv "CADENCE_CONFIG"
  let logFilter ← IO.getEnv "RUST_LOG"
  let paths := configPath.getD Config.usualPath :: (namedFile? args).toList
  let entries ← paths.mapM fun p => return (p, ← readEntry p)
  let input ← if readsInput args then readInput (← IO.getStdin) else pure none
  let outcome := Outcome.ofArgs
    { lookup := fun p => (entries.lookup p).getD .missing, input, configPath, logFilter } args
  IO.print outcome.output
  match outcome.errorLine? with
  | some line => IO.eprintln line
  | none => pure ()
  return outcome.exitCode.toUInt32
