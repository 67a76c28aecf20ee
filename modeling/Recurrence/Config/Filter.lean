import Recurrence.Pattern
import Recurrence.Text.Alphanumeric

/-! # Log filters

A filter is a list of directives with commas between them. A directive is a level, a target, or a
target with a level behind an equals sign; the target may end in a span `[name{field=value}]`.

Blanks around a directive do not count while it is read, but its parts are cut out of the text with
them, as many bytes behind its beginning as the reader had counted. Blanks of several bytes in
front may put such a cut inside a character.

A span may ask for a field by its name, and for its value behind an equals sign. A value is compared
with a number, or else with a pattern. Names are not checked. -/
namespace Recurrence

inductive FilterError where
  | badDirective
  | badLevel
  | badField (e : PatternError)
deriving DecidableEq, Repr

def FilterError.message : FilterError → String
  | badDirective => "invalid filter directive"
  | badLevel =>
    "error parsing level filter: expected one of \"off\", \"error\", \"warn\", \"info\", " ++
      "\"debug\", \"trace\", or a number 0-5"
  | badField e => "invalid field filter: " ++ e.message

namespace Filter

def checkValue (cs : List Char) : Except PatternError Unit :=
  if Text.isReal cs then .ok () else Pattern.check cs

/-- Checks a field. What stands behind a second equals sign does not count. -/
def checkField (cs : List Char) : Except PatternError Unit :=
  match cs.splitOn '=' with
  | _ :: value :: _ => checkValue value
  | _ => .ok ()

inductive Stop where
  | refused (e : FilterError)
  /-- A part would begin or end inside a character. -/
  | splitCharacter
deriving DecidableEq, Repr

abbrev Checked (α : Type) := Except Stop α

def refuse {α : Type} (e : FilterError) : Checked α := .error (.refused e)

/-- A part of a directive, or the stop if it cannot be cut out. -/
def orSplit (part : Option (List Char)) : Checked (List Char) :=
  match part with
  | some cs => .ok cs
  | none => .error .splitCharacter

/-- A number from 0 to 5, with a plus sign if one likes. -/
def isLevelNumber (cs : List Char) : Bool :=
  let digits := match cs with
    | '+' :: ds => ds
    | ds => ds
  Text.isNumeral digits && Text.numeralValue digits ≤ 5

/-- A level by name or number. No text at all is a level as well. -/
def isLevel (cs : List Char) : Bool :=
  cs.isEmpty || isLevelNumber cs ||
    ["off", "error", "warn", "info", "debug", "trace"].contains
      (String.ofList (cs.map Char.toLower))

/-- Where the reader stands inside a directive. Parts that are still being read begin `start` bytes
into it. -/
inductive State where
  | fresh
  /-- In a word that may turn out to be a level or a target. -/
  | word
  | span (start : Nat)
  | field (start : Nat)
  /-- Behind the field of a span. -/
  | afterField
  /-- Behind a span. -/
  | afterSpan
  | level (start : Nat)
deriving DecidableEq, Repr

def isWordStart (c : Char) : Bool := c == '-' || c == ':' || c == '_' || Text.isAlphanumeric c

/-- Reads the character that stands `i` bytes into the directive `cs`. A part is cut out when its
end is reached. -/
def State.step (cs : List Char) (i : Nat) (s : State) (c : Char) : Checked State :=
  match s with
  | .fresh =>
    if c = '[' then .ok (.span (i + 1))
    else if isWordStart c then .ok .word
    else refuse .badDirective
  | .word =>
    if c = '=' then (orSplit (Text.slice? 0 i cs)).map fun _ => .level (i + 1)
    else if c = '[' then (orSplit (Text.slice? 0 i cs)).map fun _ => .span (i + 1)
    else .ok .word
  | .span start =>
    if c = ']' then (orSplit (Text.slice? start i cs)).map fun _ => .afterSpan
    else if c = '{' then (orSplit (Text.slice? start i cs)).map fun _ => .field (i + 1)
    else .ok (.span start)
  | .field start =>
    if c = '}' then do
      let field ← orSplit (Text.slice? start i cs)
      if field.isEmpty then refuse .badDirective
      else match checkField field with
        | .ok () => .ok .afterField
        | .error e => refuse (.badField e)
    else .ok (.field start)
  | .afterField => if c = ']' then .ok .afterSpan else refuse .badDirective
  | .afterSpan => if c = '=' then .ok (.level (i + 1)) else refuse .badDirective
  | .level start => .ok (.level start)

def State.run (cs : List Char) (i : Nat) (s : State) : List Char → Checked State
  | [] => .ok s
  | c :: rest => do State.run cs (i + c.utf8Size) (← s.step cs i c) rest

def checkDirective (cs : List Char) : Checked Unit := do
  match ← State.run cs 0 .fresh (Text.trim cs) with
  | .word => return
  | .afterSpan => return
  | .level start =>
    let level ← orSplit (Text.dropBytes? start cs)
    if isLevel level then return else refuse .badLevel
  | _ => refuse .badDirective

/-- Checks a filter. Empty directives are passed over. -/
def check (s : String) : Checked Unit :=
  ((s.toList.splitOn ',').filter fun cs => !cs.isEmpty).forM checkDirective

/-- The check of the filter breaks off. -/
def splits (s : String) : Bool :=
  match check s with
  | .error .splitCharacter => true
  | _ => false

theorem splits_iff {s : String} : splits s = true ↔ check s = .error .splitCharacter := by
  unfold splits
  split
  next h => simp only [h]
  next h => simpa only [Bool.false_eq_true, false_iff] using h

end Filter
end Recurrence
