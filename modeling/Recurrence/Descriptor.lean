import Recurrence.Weekday

/-! # Descriptors

The six shapes a schedule can have, and the editable record of a schedule. The record holds the
fields of every shape at once, so that a change of shape and back loses nothing; `view` keeps those
of the shape in force, and `sentence` tells them in one English line, with times on the 12-hour
clock. -/
namespace Recurrence

inductive Frequency where
  | minute
  | hourly
  | daily
  | weekly
  | monthly
  | custom
deriving DecidableEq, Repr

namespace Frequency

def all : List Frequency := [minute, hourly, daily, weekly, monthly, custom]

def name : Frequency → String
  | minute => "minute"
  | hourly => "hourly"
  | daily => "daily"
  | weekly => "weekly"
  | monthly => "monthly"
  | custom => "custom"

def ofName? (s : String) : Option Frequency := all.find? fun f => f.name == s

/-- The frequency a person typed: blanks around the name and ASCII case do not count. -/
def ofTyped? (s : String) : Option Frequency :=
  ofName? (String.ofList ((Text.trim s.toList).map Char.toLower))

theorem mem_all (f : Frequency) : f ∈ all := by cases f <;> decide

theorem ofName?_name (f : Frequency) : ofName? f.name = some f := by cases f <;> decide

end Frequency

/-- A wall-clock time on the 24-hour clock. -/
structure TimeOfDay where
  hour : UInt32
  minute : UInt32
deriving DecidableEq, Repr

/-- A schedule with the fields of its own shape only. -/
inductive View where
  | everyMinutes (interval : UInt32)
  | everyHours (interval startingMinute : UInt32)
  | daily (time : TimeOfDay)
  | weekly (time : TimeOfDay) (days : List Weekday)
  | monthly (time : TimeOfDay) (dayOfMonth : UInt32)
  | custom (expression : String)
deriving DecidableEq, Repr

def View.frequency : View → Frequency
  | .everyMinutes _ => .minute
  | .everyHours _ _ => .hourly
  | .daily _ => .daily
  | .weekly _ _ => .weekly
  | .monthly _ _ => .monthly
  | .custom _ => .custom

/-- The editable record of a schedule. Only `frequency` has no default of its own. -/
structure Descriptor where
  frequency : Frequency
  minuteInterval : UInt32 := 5
  hourInterval : UInt32 := 6
  startingMinute : UInt32 := 0
  hour : UInt32 := 0
  minute : UInt32 := 0
  selectedDays : DaySelection := .ofDays [.mon]
  dayOfMonth : UInt32 := 1
  customCron : String := ""
deriving DecidableEq, Repr

namespace Descriptor

/-- Daily at midnight. -/
def default : Descriptor where
  frequency := .daily

def time (d : Descriptor) : TimeOfDay := ⟨d.hour, d.minute⟩

/-- The fields of the shape in force. -/
def view (d : Descriptor) : View :=
  match d.frequency with
  | .minute => .everyMinutes d.minuteInterval
  | .hourly => .everyHours d.hourInterval d.startingMinute
  | .daily => .daily d.time
  | .weekly => .weekly d.time d.selectedDays.days
  | .monthly => .monthly d.time d.dayOfMonth
  | .custom => .custom d.customCron

theorem frequency_view (d : Descriptor) : d.view.frequency = d.frequency := by
  simp only [view]
  split <;> simp_all [View.frequency]

end Descriptor

/-- A number with its ordinal ending: `1st`, `12th`, `22nd`. -/
def ordinal (n : UInt32) : String :=
  let ending :=
    if 11 ≤ n % 100 && n % 100 ≤ 13 then "th"
    else if n % 10 = 1 then "st"
    else if n % 10 = 2 then "nd"
    else if n % 10 = 3 then "rd"
    else "th"
  Text.ofWord n ++ ending

/-- The 12-hour form of a time: `1:05 PM`. -/
def TimeOfDay.clock (t : TimeOfDay) : String :=
  let hour := if t.hour % 12 = 0 then 12 else t.hour % 12
  let half := if t.hour % 24 < 12 then "AM" else "PM"
  Text.ofWord hour ++ ":" ++ Text.twoDigits t.minute.toNat ++ " " ++ half

/-- A repetition every `n` units: `Every 1 minute`, `Every 5 minutes`. -/
def everyUnits (n : UInt32) (unit : String) : String :=
  "Every " ++ Text.ofWord n ++ " " ++ unit ++ if n = 1 then "" else "s"

/-- The schedule in one line. A week with all its days reads as a daily schedule. -/
def Descriptor.sentence (d : Descriptor) : String :=
  match d.frequency with
  | .minute => everyUnits d.minuteInterval "minute"
  | .hourly => everyUnits d.hourInterval "hour" ++ " at :" ++ Text.twoDigits d.startingMinute.toNat
  | .daily => "Daily at " ++ d.time.clock
  | .weekly =>
    if d.selectedDays.days = Weekday.all then "Daily at " ++ d.time.clock
    else "Every " ++ ", ".intercalate (d.selectedDays.daysOrMonday.map Weekday.shortName) ++
      " at " ++ d.time.clock
  | .monthly => "Monthly on the " ++ ordinal d.dayOfMonth ++ " at " ++ d.time.clock
  | .custom => "Custom schedule: " ++ d.customCron

theorem Descriptor.sentence_of_custom {d : Descriptor} (h : d.frequency = .custom) :
    d.sentence = "Custom schedule: " ++ d.customCron := by
  simp only [sentence, h]

end Recurrence
