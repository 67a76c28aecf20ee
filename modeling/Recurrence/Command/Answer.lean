import Recurrence.Config
import Recurrence.Descriptor.Json
import Recurrence.Editor

/-! # Answers of commands

What a command prints or why it fails, and what it logs on the way. In an editing session all edits
are read before the first is applied, so that a bad one leaves no trace. -/
namespace Recurrence

/-- Whether commands print JSON, and whether JSON is indented. -/
structure Output where
  json : Bool
  pretty : Bool
deriving DecidableEq, Repr

/-- The configured output. JSON may be asked for on the command line as well. -/
def Output.ofConfig (c : OutputConfig) (forceJson : Bool) : Output :=
  ⟨forceJson || c.format = .json, c.pretty⟩

def Output.render (out : Output) (v : Json.Value) : String :=
  v.render (if out.pretty then .indented else .compact)

inductive Failure where
  | badEdit (e : EditError)
  | badDescriptor (e : Json.Error)
  /-- A file by its path, or the standard input under the name `stdin`. -/
  | unreadableFile (path : String)
  | badConfig (path : String)
deriving DecidableEq, Repr

/-- The outermost message: what the command was doing, unless the cause speaks for itself. -/
def Failure.message : Failure → String
  | badEdit e => e.message
  | badDescriptor _ => "reading descriptor"
  | unreadableFile path => "reading " ++ path
  | badConfig path => "parsing " ++ path

def Failure.context? : Failure → Option String
  | badEdit _ => none
  | f => some f.message

structure Transcript where
  initial : String
  steps : List (String × String)
  expression : String
  description : String
  descriptor : Descriptor
deriving DecidableEq, Repr

namespace Transcript

/-- The session of an expression with these edits, and the events that it logs. -/
def ofEdits (cron : String) (edits : List Edit) : Transcript × List Event :=
  let ed := Editor.load cron
  let steps := ed.steps edits
  let signals := Editor.loadSignals cron ++ steps.flatMap Editor.Step.signals
  let last := ed.run edits
  ({ initial := ed.expression
     steps := (edits.map Edit.toText).zip (signals.filterMap Editor.Signal.expression?)
     expression := last.expression
     description := last.preview
     descriptor := last.descriptor },
    signals.filterMap Editor.Signal.event?)

/-- As `ofEdits`, with the edits as they are typed. -/
def ofTexts (cron : String) (raws : List String) : Except EditError (Transcript × List Event) :=
  ofEdits cron <$> raws.mapM Edit.ofText

def toJson (t : Transcript) : Json.Value := .object
  [("initial", .string t.initial),
    ("steps", .array (t.steps.map fun (e, x) => .array [.string e, .string x])),
    ("expression", .string t.expression), ("description", .string t.description),
    ("descriptor", t.descriptor.toJson)]

/-- An edit in a column of 24 characters, and the expression behind it. -/
def stepLine (edit expression : String) : String :=
  edit ++ String.ofList (List.replicate (24 - edit.length) ' ') ++ " -> " ++ expression

def lines (t : Transcript) : List String :=
  ["  " ++ t.initial] ++ t.steps.map (fun (e, x) => stepLine e x) ++
    ["", t.expression, t.description]

def render (t : Transcript) (out : Output) : String :=
  if out.json then out.render t.toJson else "\n".intercalate t.lines

end Transcript

/-- The text of a command or its failure, with the records it logs, in order. -/
structure Answer where
  result : Except Failure String
  log : List LogRecord := []

namespace Answer

def malformedLog (cron : String) : List LogRecord :=
  if Cron.isMalformed cron then
    [⟨.warn, "expected 5 fields, falling back to defaults", [("cron", cron)]⟩]
  else []

def parse (cron : String) (out : Output) : Answer where
  result := .ok (out.render (Descriptor.ofCron cron).toJson)
  log := malformedLog cron

def build (text : String) (out : Output) : Answer :=
  match Descriptor.ofJson text with
  | .error e => { result := .error (.badDescriptor e) }
  | .ok d =>
    let expression := d.toCron
    { result := .ok (if out.json then out.render (.object [("expression", .string expression)])
        else expression)
      log := [⟨.debug, "built", [("frequency", d.frequency.name), ("expression", expression)]⟩] }

def describe (cron : String) (out : Output) : Answer :=
  let d := Descriptor.ofCron cron
  { result := .ok (if out.json then
      out.render (.object [("expression", .string cron), ("frequency", .string d.frequency.name),
        ("description", .string d.sentence)])
    else d.sentence) }

def edit (cron : String) (raws : List String) (out : Output) : Answer :=
  match Transcript.ofTexts cron raws with
  | .error e => { result := .error (.badEdit e) }
  | .ok (t, events) => { result := .ok (t.render out), log := events.map Event.record }

end Answer
end Recurrence
