import Recurrence.Descriptor

/-! # Numeric fields

The six numbers of a descriptor, each with its name and the range that editing keeps it in. Numbers
typed into a form are moved into the range of their field. Text that is no integer takes the lower
end, and so does an integer that 64 bits do not hold, even one far above the range. -/
namespace Recurrence

structure Clamped where
  value : UInt32
  adjusted : Bool
deriving DecidableEq, Repr

/-- The number of `lo ≤ x ≤ hi` nearest to `v`. -/
def Clamped.ofInt (lo hi : UInt32) (v : Int) : Clamped :=
  let nearest := max (lo.toNat : Int) (min v hi.toNat)
  ⟨UInt32.ofNat nearest.toNat, nearest != v⟩

theorem Clamped.toNat_value_ofInt {lo hi : UInt32} (h : lo ≤ hi) (v : Int) :
    ((ofInt lo hi v).value.toNat : Int) = max (lo.toNat : Int) (min v hi.toNat) := by
  have hle : lo.toNat ≤ hi.toNat := UInt32.le_iff_toNat_le.mp h
  have hlt : hi.toNat < UInt32.size := hi.toNat_lt
  have hfits : (max (lo.toNat : Int) (min v hi.toNat)).toNat < UInt32.size := by omega
  simp only [ofInt, UInt32.toNat_ofNat_of_lt' hfits]
  omega

/-- The integer that a person typed, with blanks around it allowed. -/
def typedInt? (text : String) : Option Int := Text.int64? (Text.trim text.toList)

/-- A range of numbers that holds at least one. -/
structure Range where
  lo : UInt32
  hi : UInt32
  lo_le_hi : lo ≤ hi := by decide
deriving DecidableEq, Repr

def Range.clamp (r : Range) (text : String) : Clamped :=
  match typedInt? text with
  | some v => .ofInt r.lo r.hi v
  | none => ⟨r.lo, true⟩

def Range.Contains (r : Range) (n : UInt32) : Prop := r.lo ≤ n ∧ n ≤ r.hi

theorem Range.contains_clamp (r : Range) (text : String) : r.Contains (r.clamp text).value := by
  have hle := r.lo_le_hi
  unfold clamp
  cases typedInt? text with
  | none => exact ⟨UInt32.le_refl _, hle⟩
  | some v =>
    have hv := Clamped.toNat_value_ofInt hle v
    simp only [Contains, UInt32.le_iff_toNat_le] at hle ⊢
    omega

/-- Clamps between any two ends. An integer has no place between ends that are out of order. -/
def clampBetween? (lo hi : UInt32) (text : String) : Option Clamped :=
  if h : lo ≤ hi then some (Range.clamp ⟨lo, hi, h⟩ text)
  else if (typedInt? text).isSome then none
  else some ⟨lo, true⟩

theorem clampBetween?_range (r : Range) (text : String) :
    clampBetween? r.lo r.hi text = some (r.clamp text) :=
  dif_pos r.lo_le_hi

inductive NumericField where
  | minuteInterval
  | hourInterval
  | startingMinute
  | hour
  | minute
  | dayOfMonth
deriving DecidableEq, Repr

namespace NumericField

def all : List NumericField :=
  [minuteInterval, hourInterval, startingMinute, hour, minute, dayOfMonth]

def name : NumericField → String
  | minuteInterval => "minute_interval"
  | hourInterval => "hour_interval"
  | startingMinute => "starting_minute"
  | hour => "hour"
  | minute => "minute"
  | dayOfMonth => "day_of_month"

/-- The numbers that make sense in the field. -/
def range : NumericField → Range
  | minuteInterval => { lo := 1, hi := 59 }
  | hourInterval => { lo := 1, hi := 23 }
  | startingMinute => { lo := 0, hi := 59 }
  | hour => { lo := 0, hi := 23 }
  | minute => { lo := 0, hi := 59 }
  | dayOfMonth => { lo := 1, hi := 31 }

def ofName? (s : String) : Option NumericField := all.find? fun f => f.name == s

def get (d : Descriptor) : NumericField → UInt32
  | minuteInterval => d.minuteInterval
  | hourInterval => d.hourInterval
  | startingMinute => d.startingMinute
  | hour => d.hour
  | minute => d.minute
  | dayOfMonth => d.dayOfMonth

def set (d : Descriptor) (n : UInt32) : NumericField → Descriptor
  | minuteInterval => { d with minuteInterval := n }
  | hourInterval => { d with hourInterval := n }
  | startingMinute => { d with startingMinute := n }
  | hour => { d with hour := n }
  | minute => { d with minute := n }
  | dayOfMonth => { d with dayOfMonth := n }

theorem ofName?_name (f : NumericField) : ofName? f.name = some f := by cases f <;> decide

theorem get_set (d : Descriptor) (n : UInt32) (f g : NumericField) :
    g.get (f.set d n) = if g = f then n else g.get d := by
  cases f <;> cases g <;> rfl

end NumericField
end Recurrence
