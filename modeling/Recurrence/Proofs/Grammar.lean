import Recurrence.Proofs.Shape
import Recurrence.Proofs.Written

/-!
# The grammar of structured fields

Five shapes over words, where a lexicon says which words may stand in which place. The shapes over
numerals exclude each other, and the classifier recognises exactly them: it reads the values of the
numerals into the fields of the shape and leaves all other fields at their defaults.
-/
namespace Recurrence

open Text

namespace Cron

/-- The words for each place of a structured expression. A step is given by its divisor, the days of
the week by the pieces between the commas. -/
structure Lexicon where
  minuteStep : List Char → Prop
  hourStep : List Char → Prop
  minute : List Char → Prop
  hour : List Char → Prop
  dayOfMonth : List Char → Prop
  days : List (List Char) → Prop

/-- Five fields with the shape of a frequency; the custom frequency has none. The month is always
the star. -/
inductive Fields.HasShape (L : Lexicon) : Fields → Frequency → Prop
  | minute {n : List Char} (hn : L.minuteStep n) :
      HasShape L ⟨'*' :: '/' :: n, ['*'], ['*'], ['*'], ['*']⟩ .minute
  | hourly {m n : List Char} (hm : L.minute m) (hn : L.hourStep n) :
      HasShape L ⟨m, '*' :: '/' :: n, ['*'], ['*'], ['*']⟩ .hourly
  | daily {m h : List Char} (hm : L.minute m) (hh : L.hour h) :
      HasShape L ⟨m, h, ['*'], ['*'], ['*']⟩ .daily
  | weekly {m h : List Char} {ns : List (List Char)} (hm : L.minute m) (hh : L.hour h)
      (hns : L.days ns) : HasShape L ⟨m, h, ['*'], ['*'], [','].intercalate ns⟩ .weekly
  | monthly {m h d : List Char} (hm : L.minute m) (hh : L.hour h) (hd : L.dayOfMonth d) :
      HasShape L ⟨m, h, d, ['*'], ['*']⟩ .monthly

/-- The words that a descriptor is written with stand in the lexicon. -/
structure Lexicon.Covers (L : Lexicon) (d : Descriptor) : Prop where
  minuteInterval : L.minuteStep (ofWord d.minuteInterval).toList
  hourInterval : L.hourStep (ofWord d.hourInterval).toList
  startingMinute : L.minute (ofWord d.startingMinute).toList
  hour : L.hour (ofWord d.hour).toList
  minute : L.minute (ofWord d.minute).toList
  selectedDays : L.days d.selectedDays.numerals
  dayOfMonth : L.dayOfMonth (ofWord d.dayOfMonth).toList

theorem Lexicon.Covers.hasShape {L : Lexicon} {d : Descriptor} {f : Fields} (hL : L.Covers d)
    (h : d.fields? = some f) : f.HasShape L d.frequency := by
  unfold Descriptor.fields? at h
  cases hd : d.frequency <;> simp only [hd, Option.some.injEq, reduceCtorEq] at h <;> subst h
  case minute => exact .minute hL.minuteInterval
  case hourly => exact .hourly hL.startingMinute hL.hourInterval
  case daily => exact .daily hL.minute hL.hour
  case weekly => exact .weekly hL.minute hL.hour hL.selectedDays
  case monthly => exact .monthly hL.minute hL.hour hL.dayOfMonth

/-- A numeral whose value a word can hold. -/
def Fits (n : List Char) : Prop := isNumeral n = true ∧ numeralValue n < UInt32.size

/-- What the classifier takes: a step or a day may be any numeral, other numerals have to fit. -/
def accepted : Lexicon where
  minuteStep n := isNumeral n = true
  hourStep n := isNumeral n = true
  minute := Fits
  hour := Fits
  dayOfMonth := Fits
  days ns := ns ≠ [] ∧ ∀ n ∈ ns, isNumeral n = true

theorem fits_iff {n : List Char} : Fits n ↔ ∃ w, word? n = some w := by
  constructor
  · rintro ⟨hn, hv⟩
    exact ⟨_, word?_of_numeralValue_lt hn hv⟩
  · rintro ⟨w, hw⟩
    obtain ⟨hn, hv⟩ := word?_eq_some_iff.mp hw
    exact ⟨hn, hv ▸ w.toNat_lt⟩

namespace Fields

variable {f : Fields} {p q : Frequency}

private theorem hasShape_accepted_iff :
    f.HasShape accepted p ↔ ∃ d, Shape f d ∧ d.frequency = p := by
  constructor
  · intro h
    cases h with
    | minute hn => exact ⟨_, .minute hn, rfl⟩
    | hourly hm hn =>
      obtain ⟨minute, hm⟩ := fits_iff.mp hm
      exact ⟨_, .hourly hm hn, rfl⟩
    | daily hm hh =>
      obtain ⟨minute, hm⟩ := fits_iff.mp hm
      obtain ⟨hour, hh⟩ := fits_iff.mp hh
      exact ⟨_, .daily hm hh, rfl⟩
    | weekly hm hh hns =>
      obtain ⟨minute, hm⟩ := fits_iff.mp hm
      obtain ⟨hour, hh⟩ := fits_iff.mp hh
      exact ⟨_, .weekly hm hh hns.1 hns.2, rfl⟩
    | monthly hm hh hd =>
      obtain ⟨minute, hm⟩ := fits_iff.mp hm
      obtain ⟨hour, hh⟩ := fits_iff.mp hh
      obtain ⟨day, hd⟩ := fits_iff.mp hd
      exact ⟨_, .monthly hm hh hd, rfl⟩
  · rintro ⟨d, h, rfl⟩
    cases h with
    | minute hn => exact .minute hn
    | hourly hm hn => exact .hourly (fits_iff.mpr ⟨_, hm⟩) hn
    | daily hm hh => exact .daily (fits_iff.mpr ⟨_, hm⟩) (fits_iff.mpr ⟨_, hh⟩)
    | weekly hm hh hne hns =>
      exact .weekly (fits_iff.mpr ⟨_, hm⟩) (fits_iff.mpr ⟨_, hh⟩) ⟨hne, hns⟩
    | monthly hm hh hd =>
      exact .monthly (fits_iff.mpr ⟨_, hm⟩) (fits_iff.mpr ⟨_, hh⟩) (fits_iff.mpr ⟨_, hd⟩)

private theorem map_frequency_structured? :
    f.structured?.map Descriptor.frequency = some p ↔ f.HasShape accepted p := by
  simp only [Option.map_eq_some_iff, structured?_eq_some_iff, hasShape_accepted_iff]

instance : Decidable (f.HasShape accepted p) := decidable_of_iff _ map_frequency_structured?

private theorem HasShape.unique (hp : f.HasShape accepted p) (hq : f.HasShape accepted q) :
    p = q := by
  rw [← map_frequency_structured?] at hp hq
  exact Option.some.inj (hp.symm.trans hq)

end Fields

end Cron

namespace Descriptor

open Cron

variable {s : String} {f : Fields}

end Descriptor
end Recurrence
