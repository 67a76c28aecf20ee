import Recurrence.Descriptor
import Recurrence.Json.Record
import Recurrence.Json.Value

/-! # Descriptors as JSON

A descriptor is written as an object of its nine fields. Of these only `frequency` has to be given
when one is read; the others have defaults. -/
namespace Recurrence

open Json

def DaySelection.toJson (s : DaySelection) : Value := .array (s.marks.map .bool)

def DaySelection.ofMarks (marks : List Bool) : DaySelection :=
  .ofPred fun d => marks.getD d.index false

def DaySelection.ofTree (t : Tree) : Decoded DaySelection :=
  DaySelection.ofMarks <$> t.arrayOf 7 Tree.truth

def Frequency.ofTree (t : Tree) : Decoded Frequency := do
  let name ← t.plainVariant (Frequency.all.map Frequency.name)
  return (Frequency.ofName? name).getD .daily

namespace Descriptor

def toJson (d : Descriptor) : Value := .object
  [("frequency", .string d.frequency.name), ("minuteInterval", .number d.minuteInterval.toNat),
    ("hourInterval", .number d.hourInterval.toNat),
    ("startingMinute", .number d.startingMinute.toNat), ("hour", .number d.hour.toNat),
    ("minute", .number d.minute.toNat), ("selectedDays", d.selectedDays.toJson),
    ("dayOfMonth", .number d.dayOfMonth.toNat), ("customCron", .string d.customCron)]

/-- The fields of a descriptor that have been read so far. -/
structure Parts where
  frequency : Option Frequency := none
  minuteInterval : Option UInt32 := none
  hourInterval : Option UInt32 := none
  startingMinute : Option UInt32 := none
  hour : Option UInt32 := none
  minute : Option UInt32 := none
  selectedDays : Option DaySelection := none
  dayOfMonth : Option UInt32 := none
  customCron : Option String := none
deriving DecidableEq, Repr

/-- The descriptor of the parts, with the defaults for those that were not given. -/
def Parts.descriptor (p : Parts) : Except String Descriptor := do
  let frequency ← need "frequency" p.frequency
  let d : Descriptor := { frequency }
  return {
    frequency
    minuteInterval := p.minuteInterval.getD d.minuteInterval
    hourInterval := p.hourInterval.getD d.hourInterval
    startingMinute := p.startingMinute.getD d.startingMinute
    hour := p.hour.getD d.hour
    minute := p.minute.getD d.minute
    selectedDays := p.selectedDays.getD d.selectedDays
    dayOfMonth := p.dayOfMonth.getD d.dayOfMonth
    customCron := p.customCron.getD d.customCron }

/-- The fields in the order in which an array holds them. -/
def record : Record Parts Descriptor where
  title := "struct RecurrenceDescriptor"
  start := {}
  finish := Parts.descriptor
  fields :=
    [.slot "frequency" Parts.frequency (fun p v => { p with frequency := some v }) Frequency.ofTree,
      .slot "minuteInterval" Parts.minuteInterval (fun p v => { p with minuteInterval := some v })
        Tree.word,
      .slot "hourInterval" Parts.hourInterval (fun p v => { p with hourInterval := some v })
        Tree.word,
      .slot "startingMinute" Parts.startingMinute (fun p v => { p with startingMinute := some v })
        Tree.word,
      .slot "hour" Parts.hour (fun p v => { p with hour := some v }) Tree.word,
      .slot "minute" Parts.minute (fun p v => { p with minute := some v }) Tree.word,
      .slot "selectedDays" Parts.selectedDays (fun p v => { p with selectedDays := some v })
        DaySelection.ofTree,
      .slot "dayOfMonth" Parts.dayOfMonth (fun p v => { p with dayOfMonth := some v }) Tree.word,
      .slot "customCron" Parts.customCron (fun p v => { p with customCron := some v }) Tree.text]

def ofJson (s : String) : Decoded Descriptor := decodeText (record.read .illFormed) s

end Descriptor
end Recurrence
