import Recurrence.Config
import Recurrence.Toml.Reader
import Recurrence.Toml.Text

/-! # The configuration file

The file is a TOML document with the tables `output` and `logging`. What it leaves out takes its
default and what it does not know is ignored. A table may also be written as an array of its
settings in their order. -/
namespace Recurrence

open Toml

/-- One setting: its value as the file has it, or the default. -/
def setting {α : Type} (read : Value → Option α) (default : α) : Option Value → Option α
  | none => some default
  | some v => read v

/-- The settings of a group by name, when it is written as a table, or by position. A date holds no
setting that anybody knows. -/
def settings? (names : List String) : Value → Option (List (Option Value))
  | .table _ entries => some (names.map fun n => entries.lookup n)
  | .array items => some ((List.range names.length).map fun i => items[i]?)
  | .tables items =>
    some ((List.range names.length).map fun i => (items[i]?).map (.table .header ·))
  | .dateTime _ => some (names.map fun _ => none)
  | _ => none

def isEmptyContainer : Value → Bool
  | .table _ entries => entries.isEmpty
  | .array items => items.isEmpty
  | _ => false

/-- A format: its name, or a table that has an empty value under its name. -/
def OutputFormat.ofToml? : Value → Option OutputFormat
  | .string s => ofName? s
  | .table _ [(name, contents)] => if isEmptyContainer contents then ofName? name else none
  | _ => none

def boolean? : Value → Option Bool
  | .boolean b => some b
  | _ => none

def string? : Value → Option String
  | .string s => some s
  | _ => none

def OutputConfig.ofToml? (v : Value) : Option OutputConfig := do
  let given ← settings? ["format", "pretty"] v
  let d : OutputConfig := {}
  return {
    format := ← setting OutputFormat.ofToml? d.format (given[0]?.join)
    pretty := ← setting boolean? d.pretty (given[1]?.join) }

def LoggingConfig.ofToml? (v : Value) : Option LoggingConfig := do
  let given ← settings? ["filter", "json"] v
  let d : LoggingConfig := {}
  return {
    filter := ← setting string? d.filter (given[0]?.join)
    json := ← setting boolean? d.json (given[1]?.join) }

namespace Config

def ofToml? (text : String) : Option Config := do
  let entries ← Entries.ofText? text
  return {
    output := ← setting OutputConfig.ofToml? {} (entries.lookup "output")
    logging := ← setting LoggingConfig.ofToml? {} (entries.lookup "logging") }

def showBool (b : Bool) : String := if b then "true" else "false"

def toToml (c : Config) : String :=
  "[output]\nformat = " ++ writeString c.output.format.name ++
    "\npretty = " ++ showBool c.output.pretty ++
    "\n\n[logging]\nfilter = " ++ writeString c.logging.filter ++
    "\njson = " ++ showBool c.logging.json ++ "\n"

end Config
end Recurrence
