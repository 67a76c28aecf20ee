import Recurrence.Cron
import Recurrence.NumericField

/-! # Edits

One change of one part of a descriptor. Numbers come as the text that was typed and are clamped into
the range of their field. A switch to custom takes the expression in force as the custom text where
that text is blank; every other edit changes its own part only.

As text, an edit is written `field=value`. Blanks around the field are ignored and the value is
everything behind the first equals sign. Blanks and ASCII case do not count in days and frequencies.
-/
namespace Recurrence

inductive Edit where
  | frequency (f : Frequency)
  | number (field : NumericField) (text : String)
  | toggleDay (day : Weekday)
  | setDays (days : DaySelection)
  | custom (text : String)
deriving DecidableEq, Repr

namespace Edit

def fieldName : Edit → String
  | frequency _ => "frequency"
  | number field _ => field.name
  | toggleDay _ => "toggle"
  | setDays _ => "days"
  | custom _ => "custom"

/-- Whether a number was typed that its field does not take as it stands. -/
def isClamped : Edit → Bool
  | number field text => (field.range.clamp text).adjusted
  | _ => false

end Edit

/-- Puts the present expression in place of a custom text that says nothing. -/
def Descriptor.seedCustom (expression : String) (d : Descriptor) : Descriptor :=
  if Text.allBlank d.customCron.toList then { d with customCron := expression } else d

def Descriptor.edit (d : Descriptor) : Edit → Descriptor
  | .frequency .custom => { d.seedCustom d.toCron with frequency := .custom }
  | .frequency f => { d with frequency := f }
  | .number field text => field.set d (field.range.clamp text).value
  | .toggleDay day => { d with selectedDays := d.selectedDays.toggle day }
  | .setDays days => { d with selectedDays := days }
  | .custom text => { d with customCron := text }

def Descriptor.editAll (d : Descriptor) (es : List Edit) : Descriptor := es.foldl Descriptor.edit d

inductive EditError where
  | noEquals (text : String)
  | unknownField (name : String)
  | unknownFrequency (text : String)
  | unknownWeekday (text : String)
deriving DecidableEq, Repr

def EditError.message (e : EditError) : String :=
  "invalid edit: " ++ match e with
  | noEquals text => "expected field=value, got '" ++ text ++ "'"
  | unknownField name => "unknown field '" ++ name ++ "'"
  | unknownFrequency text => "unknown frequency: '" ++ text ++ "'"
  | unknownWeekday text => "unknown weekday: '" ++ text ++ "'"

def Frequency.ofText (s : String) : Except EditError Frequency :=
  match ofTyped? s with
  | some f => .ok f
  | none => .error (.unknownFrequency s)

def Weekday.ofText (s : String) : Except EditError Weekday :=
  match ofTyped? s with
  | some d => .ok d
  | none => .error (.unknownWeekday s)

/-- The days of a list separated by commas. Blank pieces are passed over. -/
def DaySelection.ofText (s : String) : Except EditError DaySelection :=
  let pieces := (s.toList.splitOn ',').filter fun p => !Text.allBlank p
  .ofDays <$> pieces.mapM fun p => Weekday.ofText (String.ofList p)

namespace Edit

def value : Edit → String
  | frequency f => f.name
  | number _ text => text
  | toggleDay day => day.shortName
  | setDays days => ",".intercalate (days.days.map Weekday.shortName)
  | custom text => text

def toText (e : Edit) : String := e.fieldName ++ "=" ++ e.value

def ofField (name value : String) : Except EditError Edit :=
  match NumericField.ofName? name with
  | some field => .ok (number field value)
  | none =>
    if name = "frequency" then frequency <$> Frequency.ofText value
    else if name = "toggle" then toggleDay <$> Weekday.ofText value
    else if name = "days" then setDays <$> DaySelection.ofText value
    else if name = "custom" then .ok (custom value)
    else .error (.unknownField name)

def ofText (s : String) : Except EditError Edit :=
  match s.toList.span (· ≠ '=') with
  | (name, '=' :: value) => ofField (String.ofList (Text.trim name)) (String.ofList value)
  | _ => .error (.noEquals s)

end Edit
end Recurrence
