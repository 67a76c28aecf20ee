import Recurrence.Config.Filter
import Recurrence.Text.Printable

/-! # Configuration

How results are printed and what is logged. Every setting has a default. Settings that cannot work
are errors; settings that have no effect are warnings. A filter whose check would split a character
breaks the search for issues off.

A report has the settings in force and their issues, one to a line, and a line that sums them up. -/
namespace Recurrence

inductive OutputFormat where
  | text
  | json
deriving DecidableEq, Repr

def OutputFormat.name : OutputFormat → String
  | text => "text"
  | json => "json"

def OutputFormat.ofName? : String → Option OutputFormat
  | "text" => some text
  | "json" => some json
  | _ => none

/-- How results are printed. `pretty` matters for JSON only. -/
structure OutputConfig where
  format : OutputFormat := .text
  pretty : Bool := true
deriving DecidableEq, Repr

/-- What is logged, and whether a record of the log is a JSON object. -/
structure LoggingConfig where
  filter : String := "warn"
  json : Bool := false
deriving DecidableEq, Repr

structure Config where
  output : OutputConfig := {}
  logging : LoggingConfig := {}
deriving DecidableEq, Repr

def Config.default : Config := {}

inductive Severity where
  | error
  | warning
deriving DecidableEq, Repr

structure Issue where
  severity : Severity
  field : String
  message : String
deriving DecidableEq, Repr

def Issue.line (i : Issue) : String :=
  let tag := match i.severity with
    | .error => "ERROR"
    | .warning => "WARN"
  "[" ++ tag ++ "] " ++ i.field ++ ": " ++ i.message

def Issue.noErrors (issues : List Issue) : Bool := issues.all fun i => i.severity != .error

namespace Config

/-- The issues of the filter, or `none` if its check breaks off. -/
def filterIssues? (c : Config) : Option (List Issue) :=
  if Text.allBlank c.logging.filter.toList then
    some [⟨.warning, "logging.filter", "empty filter disables all logging"⟩]
  else match Filter.check c.logging.filter with
    | .ok () => some []
    | .error (.refused e) =>
      some [⟨.error, "logging.filter", "invalid filter directive: " ++ e.message⟩]
    | .error .splitCharacter => none

def outputIssues (c : Config) : List Issue :=
  if c.output.format = .text && !c.output.pretty then
    [⟨.warning, "output.pretty", "has no effect when output.format is \"text\""⟩]
  else []

/-- All issues, or `none` if the search breaks off. -/
def issues? (c : Config) : Option (List Issue) := c.filterIssues?.map (· ++ c.outputIssues)

def isValid? (c : Config) : Option Bool := c.issues?.map Issue.noErrors

def outputSummary (c : Config) : String :=
  match c.output.format with
  | .text => "text"
  | .json => if c.output.pretty then "json (pretty)" else "json (compact)"

def loggingSummary (c : Config) : String :=
  (if c.logging.json then "json" else "compact") ++ " to stderr, filter " ++
    Text.quoted c.logging.filter ++ " (RUST_LOG overrides)"

def issueSummary (issues : List Issue) : String :=
  let errors := (issues.filter fun i => i.severity = .error).length
  if issues.isEmpty then "ok"
  else errors.repr ++ " error(s), " ++ (issues.length - errors).repr ++ " warning(s)"

def reportWith (c : Config) (path : String) (issues : List Issue) : String :=
  "\n".intercalate <|
    ["config:  " ++ path, "output:  " ++ c.outputSummary, "logging: " ++ c.loggingSummary] ++
      issues.map Issue.line ++ [issueSummary issues]

/-- The report, unless the search for issues breaks off. -/
def report? (c : Config) (path : String) : Option String := c.issues?.map (c.reportWith path)

end Config
end Recurrence
