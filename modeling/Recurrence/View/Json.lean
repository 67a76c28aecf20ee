import Recurrence.Json.Record
import Recurrence.Json.Value
import Recurrence.Descriptor

/-! # Views as JSON

The member `frequency` tells the shape of a view, and the fields of that shape stand beside it.
Since the tag may come last, reading checks all members first and decodes them afterwards. -/
namespace Recurrence

open Json

def Weekday.toJson (d : Weekday) : Value := .string d.shortName

def TimeOfDay.toJson (t : TimeOfDay) : Value := .object
  [("hour", .number t.hour.toNat), ("minute", .number t.minute.toNat)]

def View.members : View → List (String × Value)
  | .everyMinutes interval => [("interval", .number interval.toNat)]
  | .everyHours interval startingMinute =>
    [("interval", .number interval.toNat), ("starting_minute", .number startingMinute.toNat)]
  | .daily time => [("time", time.toJson)]
  | .weekly time days => [("time", time.toJson), ("days", .array (days.map Weekday.toJson))]
  | .monthly time dayOfMonth => [("time", time.toJson), ("day_of_month", .number dayOfMonth.toNat)]
  | .custom expression => [("expression", .string expression)]

def View.toJson (v : View) : Value := .object (("frequency", .string v.frequency.name) :: v.members)

def TimeOfDay.record : Record (Option UInt32 × Option UInt32) TimeOfDay where
  title := "struct TimeOfDay"
  start := (none, none)
  finish p := do return ⟨← need "hour" p.1, ← need "minute" p.2⟩
  fields :=
    [.slot "hour" Prod.fst (fun p v => (some v, p.2)) Tree.word,
      .slot "minute" Prod.snd (fun p v => (p.1, some v)) Tree.word]

def TimeOfDay.ofJson (s : String) : Decoded TimeOfDay :=
  decodeText (TimeOfDay.record.read .illFormed) s

namespace View

/-- The contents of a plain variant inside a checked value: null, or an object without members. -/
def noContents : Tree → Decoded Unit
  | .object [] none => .ok ()
  | t => t.unit

/-- A day inside a checked value: its name, or an object with its name alone. -/
def dayOfTree (t : Tree) : Decoded Weekday := do
  let known := Weekday.all.map Weekday.shortName
  let name ← match t with
    | .string q => Tree.variantName known (.string q)
    | .object [(name, contents)] _ => do
      let name ← Tree.variantName known name
      noContents contents
      pure name
    | .object _ _ => mismatch (.invalidValue .map "map with a single key")
    | t => t.mistyped "string or map"
  return (Weekday.ofShortName? name).getD .mon

def daysOfTree : Tree → Decoded (List Weekday)
  | .array items _ => items.mapM dayOfTree
  | t => t.mistyped "a sequence"

/-- The fields of a view that have been read so far. -/
structure Parts where
  interval : Option UInt32 := none
  startingMinute : Option UInt32 := none
  time : Option TimeOfDay := none
  days : Option (List Weekday) := none
  dayOfMonth : Option UInt32 := none
  expression : Option String := none
deriving DecidableEq, Repr

namespace Parts

def intervalField : Record.Field Parts :=
  .slot "interval" interval (fun p v => { p with interval := some v }) Tree.word

def startingMinuteField : Record.Field Parts :=
  .slot "starting_minute" startingMinute (fun p v => { p with startingMinute := some v }) Tree.word

def timeField : Record.Field Parts :=
  .slot "time" time (fun p v => { p with time := some v }) (TimeOfDay.record.read .tooLong)

def daysField : Record.Field Parts :=
  .slot "days" days (fun p v => { p with days := some v }) daysOfTree

def dayOfMonthField : Record.Field Parts :=
  .slot "day_of_month" dayOfMonth (fun p v => { p with dayOfMonth := some v }) Tree.word

def expressionField : Record.Field Parts :=
  .slot "expression" expression (fun p v => { p with expression := some v }) Tree.text

end Parts

def record : Frequency → Record Parts View
  | .minute =>
    { title := "struct variant Recurrence::EveryMinutes"
      start := {}
      fields := [Parts.intervalField]
      finish := fun p => do return .everyMinutes (← need "interval" p.interval) }
  | .hourly =>
    { title := "struct variant Recurrence::EveryHours"
      start := {}
      fields := [Parts.intervalField, Parts.startingMinuteField]
      finish := fun p => do
        return .everyHours (← need "interval" p.interval)
          (← need "starting_minute" p.startingMinute) }
  | .daily =>
    { title := "struct variant Recurrence::Daily"
      start := {}
      fields := [Parts.timeField]
      finish := fun p => do return .daily (← need "time" p.time) }
  | .weekly =>
    { title := "struct variant Recurrence::Weekly"
      start := {}
      fields := [Parts.timeField, Parts.daysField]
      finish := fun p => do return .weekly (← need "time" p.time) (← need "days" p.days) }
  | .monthly =>
    { title := "struct variant Recurrence::Monthly"
      start := {}
      fields := [Parts.timeField, Parts.dayOfMonthField]
      finish := fun p => do
        return .monthly (← need "time" p.time) (← need "day_of_month" p.dayOfMonth) }
  | .custom =>
    { title := "struct variant Recurrence::Custom"
      start := {}
      fields := [Parts.expressionField]
      finish := fun p => do return .custom (← need "expression" p.expression) }

def nestingLimit : Nat := 126

def tagOfTree (t : Tree) : Decoded Frequency := do
  let name ← t.variantName (Frequency.all.map Frequency.name)
  return (Frequency.ofName? name).getD .daily

/-- Finds the tag among the members and checks the others, which are returned in their order. -/
def splitTag :
    Option Frequency → List (Tree × Tree) → Decoded (Option Frequency × List (Tree × Tree))
  | tag, [] => .ok (tag, [])
  | tag, (name, t) :: ms => do
    if (← ofFault name.memberName) = "frequency" then
      if tag.isSome then mismatch (.duplicateField "frequency")
      splitTag (some (← tagOfTree t)) ms
    else
      ofFault (t.check nestingLimit)
      let (tag, rest) ← splitTag tag ms
      return (tag, (name, t) :: rest)

/-- The view of a tree: an object with the tag anywhere, or an array with the tag in front. -/
def ofTree : Tree → Decoded View
  | .object members stop => do
    let (tag, rest) ← splitTag none members
    ofFault (noFault stop)
    match tag with
    | some tag => (record tag).ofMembers rest none
    | none => mismatch (.missingField "frequency")
  | .array [] stop => do
    ofFault (noFault stop)
    mismatch (.missingField "frequency")
  | .array (tag :: items) stop => do
    let tag ← tagOfTree tag
    ofFault (Tree.checkItems nestingLimit items)
    ofFault (noFault stop)
    (record tag).ofItems .tooLong items none
  | t => t.mistyped "internally tagged enum Recurrence"

def ofJson (s : String) : Decoded View := decodeText ofTree s

end View
end Recurrence
