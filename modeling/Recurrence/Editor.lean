import Recurrence.Edit
import Recurrence.Json.Value
import Recurrence.Descriptor

/-! # Editing sessions

An editor is opened on a cron expression and takes one edit at a time. Each call sends signals: the
event of the log, and for an edit also the new expression. Events are what the editor and the
command line report while they work, as records of the log. -/
namespace Recurrence

inductive LogLevel where
  | debug
  | info
  | warn
deriving DecidableEq, Repr

/-- One record of the log: a message and named texts. -/
structure LogRecord where
  level : LogLevel
  message : String
  fields : List (String × String)
deriving DecidableEq, Repr

inductive Event where
  | scheduleLoaded (input : String) (frequency : Frequency) (malformed : Bool)
  | scheduleEdited (field : String) (frequency : Frequency) (expression : String) (clamped : Bool)
  | configLoaded (path : String) (fromFile : Bool) (issues : Nat)
deriving DecidableEq, Repr

namespace Event

def toJson : Event → Json.Value
  | scheduleLoaded input frequency malformed => .object
      [("event", .string "ScheduleLoaded"), ("input", .string input),
        ("frequency", .string frequency.name), ("malformed", .bool malformed)]
  | scheduleEdited field frequency expression clamped => .object
      [("event", .string "ScheduleEdited"), ("field", .string field),
        ("frequency", .string frequency.name), ("expression", .string expression),
        ("clamped", .bool clamped)]
  | configLoaded path fromFile issues => .object
      [("event", .string "ConfigLoaded"), ("path", .string path), ("from_file", .bool fromFile),
        ("issues", .number issues)]

/-- The record that carries the event, as JSON on one line. -/
def record (e : Event) : LogRecord :=
  ⟨.info, "cadence_event", [("trace_event", e.toJson.render .compact)]⟩

end Event

structure Editor where
  descriptor : Descriptor
deriving DecidableEq, Repr

namespace Editor

/-- What a call lets the outside know, in this order of time. -/
inductive Signal where
  | logged (event : Event)
  | changed (expression : String)
deriving DecidableEq, Repr

def expression (ed : Editor) : String := ed.descriptor.toCron

def preview (ed : Editor) : String := ed.descriptor.sentence

def load (cron : String) : Editor := ⟨Descriptor.ofCron cron⟩

def loadSignals (cron : String) : List Signal :=
  [.logged (.scheduleLoaded cron (Descriptor.ofCron cron).frequency (Cron.isMalformed cron))]

/-- What one edit leads to: the next state, the signals sent on the way, and the expression that the
caller gets. -/
structure Step where
  editor : Editor
  signals : List Signal
  returned : String
deriving DecidableEq, Repr

def apply (ed : Editor) (e : Edit) : Step :=
  let next : Editor := ⟨ed.descriptor.edit e⟩
  let expression := next.expression
  { editor := next
    signals :=
      [.logged (.scheduleEdited e.fieldName next.descriptor.frequency expression e.isClamped),
        .changed expression]
    returned := expression }

def steps (ed : Editor) : List Edit → List Step
  | [] => []
  | e :: es => ed.apply e :: (ed.apply e).editor.steps es

def run (ed : Editor) (es : List Edit) : Editor := es.foldl (fun s e => (s.apply e).editor) ed

end Editor

def Editor.Signal.event? : Editor.Signal → Option Event
  | .logged e => some e
  | .changed _ => none

def Editor.Signal.expression? : Editor.Signal → Option String
  | .logged _ => none
  | .changed s => some s

end Recurrence
