import Recurrence.Text

/-! # Weekdays

Days in the order Monday to Sunday, and the cron numbers of them, which begin with Sunday as 0. Any
set of days is kept as one mark for each day. -/
namespace Recurrence

inductive Weekday where
  | mon
  | tue
  | wed
  | thu
  | fri
  | sat
  | sun
deriving DecidableEq, Repr

namespace Weekday

/-- Monday first. -/
def all : List Weekday := [mon, tue, wed, thu, fri, sat, sun]

def index : Weekday → Nat
  | mon => 0
  | tue => 1
  | wed => 2
  | thu => 3
  | fri => 4
  | sat => 5
  | sun => 6

def ofIndex? (n : Nat) : Option Weekday := all[n]?

/-- The number of the day in a cron expression, where Sunday is 0. -/
def cronNumber : Weekday → Nat
  | sun => 0
  | d => d.index + 1

/-- The day of a cron number; Sunday has a second number, 7. -/
def ofCronNumber? (n : Nat) : Option Weekday :=
  if n = 7 then some sun else all.find? fun d => d.cronNumber == n

def shortName : Weekday → String
  | mon => "Mon"
  | tue => "Tue"
  | wed => "Wed"
  | thu => "Thu"
  | fri => "Fri"
  | sat => "Sat"
  | sun => "Sun"

def ofShortName? (s : String) : Option Weekday := all.find? fun d => d.shortName == s

/-- The day a person typed: blanks around the short name and ASCII case do not count. -/
def ofTyped? (s : String) : Option Weekday :=
  let typed := (Text.trim s.toList).map Char.toLower
  all.find? fun d => d.shortName.toList.map Char.toLower == typed

theorem mem_all (d : Weekday) : d ∈ all := by cases d <;> decide

theorem ofIndex?_index (d : Weekday) : ofIndex? d.index = some d := by cases d <;> rfl

theorem ofCronNumber?_cronNumber (d : Weekday) : ofCronNumber? d.cronNumber = some d := by
  cases d <;> decide

theorem cronNumber_lt (d : Weekday) : d.cronNumber < 7 := by cases d <;> decide

theorem ofShortName?_shortName (d : Weekday) : ofShortName? d.shortName = some d := by
  cases d <;> decide

end Weekday

structure DaySelection where
  mon : Bool
  tue : Bool
  wed : Bool
  thu : Bool
  fri : Bool
  sat : Bool
  sun : Bool
deriving DecidableEq, Repr

namespace DaySelection

def ofPred (p : Weekday → Bool) : DaySelection :=
  ⟨p .mon, p .tue, p .wed, p .thu, p .fri, p .sat, p .sun⟩

def ofDays (ds : List Weekday) : DaySelection := ofPred fun d => ds.contains d

def contains (s : DaySelection) : Weekday → Bool
  | .mon => s.mon
  | .tue => s.tue
  | .wed => s.wed
  | .thu => s.thu
  | .fri => s.fri
  | .sat => s.sat
  | .sun => s.sun

def toggle (s : DaySelection) (d : Weekday) : DaySelection :=
  ofPred fun e => if e = d then !s.contains e else s.contains e

/-- The selected days, Monday first. -/
def days (s : DaySelection) : List Weekday := Weekday.all.filter s.contains

/-- One mark for each day, Monday first. -/
def marks (s : DaySelection) : List Bool := Weekday.all.map s.contains

/-- The selected days, or Monday when there is none: a weekly schedule always has a day. -/
def daysOrMonday (s : DaySelection) : List Weekday := if s.days = [] then [.mon] else s.days

/-- The cron numbers of `daysOrMonday`, ascending. -/
def cronNumbers (s : DaySelection) : List Nat :=
  (List.range 7).filter fun n => (s.daysOrMonday.map Weekday.cronNumber).contains n

theorem contains_ofPred (p : Weekday → Bool) (d : Weekday) : (ofPred p).contains d = p d := by
  cases d <;> rfl

theorem ofPred_contains (s : DaySelection) : ofPred s.contains = s := rfl

theorem contains_toggle (s : DaySelection) (d e : Weekday) :
    (s.toggle d).contains e = if e = d then !s.contains e else s.contains e :=
  contains_ofPred _ e

theorem mem_days {s : DaySelection} {d : Weekday} : d ∈ s.days ↔ s.contains d = true := by
  simp [days, Weekday.mem_all]

theorem ofDays_days (s : DaySelection) : ofDays s.days = s := by
  have h : (fun d => s.days.contains d) = s.contains := by
    funext d
    rw [Bool.eq_iff_iff, List.contains_iff_mem, mem_days]
  rw [ofDays, h, ofPred_contains]

end DaySelection
end Recurrence
