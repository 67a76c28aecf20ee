import Recurrence.Descriptor

/-! # Cron expressions

An expression is five words. A field is read in one of four ways: as the star, as a step `*/N`, as a
numeral, or as a list of numerals separated by commas.

Every text has a descriptor. Five words of a structured shape give that shape; five other words are
kept as custom text; any other number of words falls back to the default schedule. The text itself
is always kept verbatim.

In the expression of a descriptor the five fields are separated by single spaces, numbers have no
leading zeros, and the days of a weekly schedule ascend by their cron numbers. A custom descriptor
is its own text. -/
namespace Recurrence

namespace Cron

/-- The five words of an expression, in their order. -/
structure Fields where
  minute : List Char
  hour : List Char
  dayOfMonth : List Char
  month : List Char
  dayOfWeek : List Char
deriving DecidableEq, Repr

def Fields.ofText? (s : String) : Option Fields :=
  match Text.words s.toList with
  | [minute, hour, dayOfMonth, month, dayOfWeek] =>
    some ⟨minute, hour, dayOfMonth, month, dayOfWeek⟩
  | _ => none

def isStar (field : List Char) : Bool := field == ['*']

/-- The numeral of a step field. -/
def step? : List Char → Option (List Char)
  | '*' :: '/' :: n => if Text.isNumeral n then some n else none
  | _ => none

/-- The interval of a step field; a numeral that is no word stands for `fallback`. -/
def interval? (fallback : UInt32) (field : List Char) : Option UInt32 :=
  (step? field).map fun n => (Text.word? n).getD fallback

/-- The numerals of a list field. -/
def numerals? (field : List Char) : Option (List (List Char)) :=
  let pieces := field.splitOn ','
  if pieces.all Text.isNumeral then some pieces else none

/-- The text does not have five words. -/
def isMalformed (s : String) : Bool := (Fields.ofText? s).isNone

/-- The selected days of a list of day numbers. Numbers that name no day select nothing. -/
def selection (numerals : List (List Char)) : DaySelection :=
  .ofDays <| numerals.filterMap fun n =>
    (Text.word? n).bind fun w => Weekday.ofCronNumber? w.toNat

/-- The schedule of the fields when they pin a time of day. -/
def Fields.timed? (f : Fields) (hour minute : UInt32) : Option Descriptor :=
  let day : Descriptor := { frequency := .daily, hour, minute }
  if isStar f.dayOfMonth then
    if isStar f.dayOfWeek then some day
    else (numerals? f.dayOfWeek).map fun ns =>
      { day with frequency := .weekly, selectedDays := selection ns }
  else if isStar f.dayOfWeek then
    (Text.word? f.dayOfMonth).map fun n => { day with frequency := .monthly, dayOfMonth := n }
  else none

/-- The schedule of the fields, if they have a structured shape. -/
def Fields.structured? (f : Fields) : Option Descriptor :=
  if !isStar f.month then none
  else match interval? 5 f.minute with
  | some n =>
    if isStar f.hour && isStar f.dayOfMonth && isStar f.dayOfWeek then
      some { frequency := .minute, minuteInterval := n }
    else none
  | none =>
    (Text.word? f.minute).bind fun minute =>
      match interval? 6 f.hour with
      | some n =>
        if isStar f.dayOfMonth && isStar f.dayOfWeek then
          some { frequency := .hourly, hourInterval := n, startingMinute := minute }
        else none
      | none => (Text.word? f.hour).bind fun hour => f.timed? hour minute

end Cron

def Descriptor.ofCron (s : String) : Descriptor :=
  match Cron.Fields.ofText? s with
  | none => { Descriptor.default with customCron := s }
  | some f => { f.structured?.getD { frequency := .custom } with customCron := s }

theorem Descriptor.customCron_ofCron (s : String) : (ofCron s).customCron = s := by
  unfold ofCron
  split <;> rfl

/-- The day-of-week field of a selection. -/
def DaySelection.toCron (s : DaySelection) : String :=
  ",".intercalate (s.cronNumbers.map Nat.repr)

def Descriptor.toCron (d : Descriptor) : String :=
  match d.frequency with
  | .minute => "*/" ++ Text.ofWord d.minuteInterval ++ " * * * *"
  | .hourly => Text.ofWord d.startingMinute ++ " */" ++ Text.ofWord d.hourInterval ++ " * * *"
  | .daily => Text.ofWord d.minute ++ " " ++ Text.ofWord d.hour ++ " * * *"
  | .weekly => Text.ofWord d.minute ++ " " ++ Text.ofWord d.hour ++ " * * " ++ d.selectedDays.toCron
  | .monthly =>
    Text.ofWord d.minute ++ " " ++ Text.ofWord d.hour ++ " " ++ Text.ofWord d.dayOfMonth ++ " * *"
  | .custom => d.customCron

theorem Descriptor.toCron_of_custom {d : Descriptor} (h : d.frequency = .custom) :
    d.toCron = d.customCron := by
  simp only [toCron, h]

end Recurrence
