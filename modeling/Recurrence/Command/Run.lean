import Recurrence.Command.Answer
import Recurrence.Command.Args
import Recurrence.Config.Toml

/-! # Running a command

A run depends on its arguments, on the files it can see, on its standard input, on the path of the
configuration and on the log filter of its environment. Arguments are read first, then the
configuration, and the command comes last. A log filter whose check breaks off ends the run before
its command.

What paths lead to is told by the directory in which a command runs: its files, by their paths from
there. -/
namespace Recurrence

inductive FileEntry where
  | file (contents : String)
  | directory
  | missing
deriving DecidableEq, Repr

structure Directory where
  files : List (String × String)
deriving DecidableEq, Repr

namespace Directory

/-- The parts of a path that lead somewhere. -/
def parts (path : List Char) : List (List Char) :=
  (path.splitOn '/').filter fun p => p ≠ [] && p ≠ ['.']

/-- The path names a directory by its form: it ends in a slash, or in a part that is a directory. -/
def wantsDirectory (path : List Char) : Bool :=
  ((path.splitOn '/').getLast?).any fun p => p = [] || p = ['.'] || p = ['.', '.']

def isDirectory (d : Directory) (ps : List (List Char)) : Bool :=
  ps.isEmpty || d.files.any fun f =>
    let qs := parts f.1.toList
    ps.length < qs.length && ps.isPrefixOf qs

/-- Where a path leads from `here`, step by step. Nothing is known of the world outside. -/
def walk (d : Directory) : List (List Char) → List (List Char) → Option (List (List Char))
  | here, [] => some here
  | here, p :: ps =>
    if p = ['.', '.'] then
      if here = [] then (if ps.all (· = ['.', '.']) then some [] else none)
      else if d.isDirectory here then d.walk here.dropLast ps
      else none
    else d.walk (here ++ [p]) ps

/-- The number of bytes in the shortest path that is too long to lead anywhere. -/
def pathBound : Nat := 4096

def lookup (d : Directory) (path : String) : FileEntry :=
  let cs := path.toList
  if cs.isEmpty || pathBound ≤ path.utf8ByteSize then .missing
  else if cs.head? = some '/' then
    if (parts cs).all (· = ['.', '.']) then .directory else .missing
  else match d.walk [] (parts cs) with
    | none => .missing
    | some here =>
      if d.isDirectory here then .directory
      else if wantsDirectory cs then .missing
      else match d.files.find? fun f => parts f.1.toList == here with
        | some f => .file f.2
        | none => .missing

end Directory

/-- All that a run can see besides its arguments. -/
structure World where
  lookup : String → FileEntry
  /-- The standard input, unless it cannot be read or is no text. -/
  input : Option String := some ""
  /-- Where the configuration is, if not in the usual place. -/
  configPath : Option String := none
  /-- The log filter of the environment, which goes before that of the configuration. -/
  logFilter : Option String := none

/-- How a run ends. The log has all records, whether the filter lets them through or not. -/
structure Outcome where
  exitCode : Nat
  output : String := ""
  failure : Option Failure := none
  log : List LogRecord := []

def Config.usualPath : String := "cadence.toml"

def versionLine : String := "cadence 0.1.0\n"

/-- The configuration at a path. Where there is nothing, the defaults hold. -/
def Config.load (lookup : String → FileEntry) (path : String) : Except Failure Config :=
  match lookup path with
  | .missing => .ok .default
  | .directory => .error (.unreadableFile path)
  | .file text =>
    match Config.ofToml? text with
    | some c => .ok c
    | none => .error (.badConfig path)

def readText (lookup : String → FileEntry) (path : String) : Except Failure String :=
  match lookup path with
  | .file text => .ok text
  | _ => .error (.unreadableFile path)

/-- The text of the descriptor: a file, or the standard input. -/
def World.descriptorText (w : World) : Option String → Except Failure String
  | some path => readText w.lookup path
  | none =>
    match w.input with
    | some text => .ok text
    | none => .error (.unreadableFile "stdin")

namespace Outcome

/-- The outcome of a command whose text ends its last line. -/
def ofAnswer (a : Answer) : Outcome :=
  match a.result with
  | .ok text => { exitCode := 0, output := text ++ "\n", log := a.log }
  | .error f => { exitCode := 1, failure := some f, log := a.log }

def ofCommand (w : World) (c : Config) (path : String) (issues : List Issue) (out : Output) :
    Command → Outcome
  | .parse cron => ofAnswer (.parse cron out)
  | .build file =>
    match w.descriptorText file with
    | .ok text => ofAnswer (.build text out)
    | .error f => { exitCode := 1, failure := some f }
  | .describe cron => ofAnswer (.describe cron out)
  | .edit cron edits => ofAnswer (.edit cron edits out)
  | .validateConfig =>
    { exitCode := if Issue.noErrors issues then 0 else 1
      output := c.reportWith path issues ++ "\n" }
  | .showConfig => { exitCode := 0, output := c.toToml }
  | .version => { exitCode := 0, output := versionLine }

/-- The outcome of a run that stops dead while it sets up its log. -/
def brokenOff : Outcome := { exitCode := 101 }

/-- The log filter of the environment is checked first, and then that of the configuration, for its
issues if for nothing else. Where a check breaks off, so does the run. -/
def ofInvocation (w : World) (i : Invocation) : Outcome :=
  let path := w.configPath.getD Config.usualPath
  match Config.load w.lookup path with
  | .error f => { exitCode := 1, failure := some f }
  | .ok c =>
    if w.logFilter.any Filter.splits then brokenOff
    else match c.issues? with
    | none => brokenOff
    | some issues =>
      let loaded := (Event.configLoaded path (w.lookup path != .missing) issues.length).record
      let o := ofCommand w c path issues (.ofConfig c.output i.json) i.command
      { o with log := loaded :: o.log }

/-- Of a request for help only the code is told: the output stays empty where the help text would
stand. -/
def ofArgs (w : World) (args : List String) : Outcome :=
  match Invocation.ofArgs args with
  | .ok i => ofInvocation w i
  | .error e =>
    { exitCode := e.exitCode, output := if e = .versionText then versionLine else "" }

/-- The first line of a text that ends in a line feed, with a carriage return before it or not. -/
def firstLine (cs : List Char) : List Char :=
  let line := cs.takeWhile (· ≠ '\n')
  if line.getLast? = some '\r' then line.dropLast else line

def errorLine? (o : Outcome) : Option String :=
  o.failure.map fun f => "Error: " ++ String.ofList (firstLine f.message.toList)

end Outcome
end Recurrence
