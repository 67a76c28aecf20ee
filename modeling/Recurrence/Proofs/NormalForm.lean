import Mathlib.Data.List.Sort
import Recurrence.Proofs.Grammar
import Recurrence.Proofs.RoundTrip

/-!
# Normal forms

Reading an expression and writing it again is a normalisation. Besides the custom texts, exactly the
canonical ones stay as they are; they are what structured descriptors are written as, and one pass
leads to them.
-/
namespace Recurrence

open Text

namespace Cron

/-- A numeral that fits a word and has no leading zeros. -/
def IsDecimal (n : List Char) : Prop := Fits n ∧ (n.head? = some '0' → n = ['0'])

private theorem isDecimal_iff {n : List Char} :
    IsDecimal n ↔ ∃ w : UInt32, (ofWord w).toList = n := by
  constructor
  · rintro ⟨⟨hn, hv⟩, hzero⟩
    refine ⟨UInt32.ofNat (numeralValue n), ?_⟩
    rw [ofWord, UInt32.toNat_ofNat_of_lt' hv]
    exact toList_repr_numeralValue hn hzero
  · rintro ⟨w, rfl⟩
    refine ⟨fits_iff.mpr ⟨w, word?_ofWord w⟩, ?_⟩
    intro h
    rw [ofWord, Nat.toList_repr] at h ⊢
    rw [eq_zero_of_head?_toDigits h]
    rfl

private theorem isDecimal_repr {v : Nat} (hv : v < UInt32.size) : IsDecimal v.repr.toList := by
  rw [isDecimal_iff]
  refine ⟨UInt32.ofNat v, ?_⟩
  rw [ofWord, UInt32.toNat_ofNat_of_lt' hv]

/-- The words of canonical expressions: decimals, and day numbers in strictly ascending order. -/
def canonical : Lexicon where
  minuteStep := IsDecimal
  hourStep := IsDecimal
  minute := IsDecimal
  hour := IsDecimal
  dayOfMonth := IsDecimal
  days ns :=
    ns ≠ [] ∧ (∀ n ∈ ns, IsDecimal n ∧ numeralValue n < 7) ∧
      (ns.map numeralValue).Pairwise (· < ·)

private theorem pairwise_cronNumbers (s : DaySelection) : s.cronNumbers.Pairwise (· < ·) :=
  List.pairwise_lt_range.filter _

private theorem exists_cronNumbers_eq {vs : List Nat} (hne : vs ≠ []) (hlt : ∀ v ∈ vs, v < 7)
    (hsorted : vs.Pairwise (· < ·)) : ∃ s : DaySelection, s.cronNumbers = vs := by
  let s := DaySelection.ofPred fun d => vs.contains d.cronNumber
  have hs (d : Weekday) : s.contains d = true ↔ d.cronNumber ∈ vs := by
    rw [DaySelection.contains_ofPred, List.contains_iff_mem]
  have hdays : s.days ≠ [] := by
    obtain ⟨v, hv⟩ := List.exists_mem_of_ne_nil _ hne
    obtain ⟨d, rfl⟩ := Weekday.exists_cronNumber_eq (hlt v hv)
    exact List.ne_nil_of_mem (DaySelection.mem_days.mpr ((hs d).mpr hv))
  refine ⟨s, (pairwise_cronNumbers s).eq_of_mem_iff hsorted ?_⟩
  intro v
  rw [DaySelection.mem_cronNumbers, DaySelection.orMonday_of_ne_nil hdays]
  constructor
  · rintro ⟨d, hd, rfl⟩
    exact (hs d).mp hd
  · intro hv
    obtain ⟨d, rfl⟩ := Weekday.exists_cronNumber_eq (hlt v hv)
    exact ⟨d, (hs d).mpr hv, rfl⟩

private theorem map_numeralValue_numerals (s : DaySelection) :
    s.numerals.map numeralValue = s.cronNumbers := by
  have hvalue : numeralValue ∘ (fun n : Nat => n.repr.toList) = id := funext numeralValue_repr
  rw [DaySelection.numerals, List.map_map, hvalue, List.map_id]

private theorem canonical_days_iff {ns : List (List Char)} :
    canonical.days ns ↔ ∃ s : DaySelection, s.numerals = ns := by
  constructor
  · rintro ⟨hne, hdays, hsorted⟩
    have hlt : ∀ v ∈ ns.map numeralValue, v < 7 := by
      rw [List.forall_mem_map]
      exact fun n hn => (hdays n hn).2
    obtain ⟨s, hs⟩ := exists_cronNumbers_eq (by simpa using hne) hlt hsorted
    have hid : ∀ n ∈ ns, (numeralValue n).repr.toList = n :=
      fun n hn => toList_repr_numeralValue (hdays n hn).1.1.1 (hdays n hn).1.2
    refine ⟨s, ?_⟩
    rw [DaySelection.numerals, hs, List.map_map]
    exact (List.map_congr_left hid).trans (List.map_id ns)
  · rintro ⟨s, rfl⟩
    refine ⟨s.numerals_ne_nil, ?_, ?_⟩
    · intro n hn
      obtain ⟨v, hv, rfl⟩ := List.mem_map.mp hn
      have hlt := DaySelection.lt_of_mem_cronNumbers hv
      have hsize : v < UInt32.size := Nat.lt_trans hlt (by decide)
      rw [numeralValue_repr]
      exact ⟨isDecimal_repr hsize, hlt⟩
    · rw [map_numeralValue_numerals]
      exact pairwise_cronNumbers s

private theorem canonical_covers (d : Descriptor) : canonical.Covers d where
  minuteInterval := isDecimal_iff.mpr ⟨_, rfl⟩
  hourInterval := isDecimal_iff.mpr ⟨_, rfl⟩
  startingMinute := isDecimal_iff.mpr ⟨_, rfl⟩
  hour := isDecimal_iff.mpr ⟨_, rfl⟩
  minute := isDecimal_iff.mpr ⟨_, rfl⟩
  selectedDays := canonical_days_iff.mpr ⟨_, rfl⟩
  dayOfMonth := isDecimal_iff.mpr ⟨_, rfl⟩

private theorem Fields.HasShape.exists_fields? {f : Fields} {p : Frequency}
    (h : f.HasShape canonical p) :
    ∃ d : Descriptor, d.fields? = some f := by
  cases h with
  | minute hn =>
    obtain ⟨n, rfl⟩ := isDecimal_iff.mp hn
    exact ⟨{ frequency := .minute, minuteInterval := n }, rfl⟩
  | hourly hm hn =>
    obtain ⟨m, rfl⟩ := isDecimal_iff.mp hm
    obtain ⟨n, rfl⟩ := isDecimal_iff.mp hn
    exact ⟨{ frequency := .hourly, startingMinute := m, hourInterval := n }, rfl⟩
  | daily hm hh =>
    obtain ⟨m, rfl⟩ := isDecimal_iff.mp hm
    obtain ⟨h, rfl⟩ := isDecimal_iff.mp hh
    exact ⟨{ frequency := .daily, minute := m, hour := h }, rfl⟩
  | weekly hm hh hns =>
    obtain ⟨m, rfl⟩ := isDecimal_iff.mp hm
    obtain ⟨h, rfl⟩ := isDecimal_iff.mp hh
    obtain ⟨s, rfl⟩ := canonical_days_iff.mp hns
    exact ⟨{ frequency := .weekly, minute := m, hour := h, selectedDays := s }, rfl⟩
  | monthly hm hh hd =>
    obtain ⟨m, rfl⟩ := isDecimal_iff.mp hm
    obtain ⟨h, rfl⟩ := isDecimal_iff.mp hh
    obtain ⟨d, rfl⟩ := isDecimal_iff.mp hd
    exact ⟨{ frequency := .monthly, minute := m, hour := h, dayOfMonth := d }, rfl⟩

/-- Fields of a structured shape over canonical words, with one space between them. -/
def IsCanonical (s : String) : Prop :=
  ∃ f p, Fields.HasShape canonical f p ∧ s.toList = [' '].intercalate f.words

end Cron

namespace Descriptor

open Cron

theorem isCanonical_iff {s : String} :
    IsCanonical s ↔ ∃ d : Descriptor, d.frequency ≠ .custom ∧ d.toCron = s := by
  constructor
  · rintro ⟨f, p, h, hs⟩
    obtain ⟨d, hd⟩ := h.exists_fields?
    refine ⟨d, ?_, ?_⟩
    · intro hcustom
      simp [fields?, hcustom] at hd
    · rw [← String.toList_inj, toList_toCron hd, hs]
  · rintro ⟨d, hd, rfl⟩
    obtain ⟨f, hf⟩ := exists_fields? hd
    exact ⟨f, d.frequency, (canonical_covers d).hasShape hf, toList_toCron hf⟩

private theorem toCron_ofCron_of_custom {s : String} (h : (ofCron s).frequency = .custom) :
    (ofCron s).toCron = s := by
  rw [toCron_of_custom h, customCron_ofCron]

/-- A text is read and written back as it is exactly if it is custom or canonical, and the canonical
texts are those that structured descriptors are written as. -/
theorem toCron_ofCron_eq_self_iff (s : String) :
    ((ofCron s).toCron = s ↔ (ofCron s).frequency = .custom ∨ IsCanonical s) ∧
      (IsCanonical s ↔ ∃ d : Descriptor, d.frequency ≠ .custom ∧ d.toCron = s) := by
  refine ⟨⟨?_, ?_⟩, isCanonical_iff⟩
  · intro h
    by_cases hc : (ofCron s).frequency = .custom
    · exact Or.inl hc
    · exact Or.inr (isCanonical_iff.mpr ⟨ofCron s, hc, h⟩)
  · rintro (hc | hs)
    · exact toCron_ofCron_of_custom hc
    · obtain ⟨d, hd, rfl⟩ := isCanonical_iff.mp hs
      exact toCron_ofCron_toCron hd

example : (ofCron "07 9 * *  7,5,5").toCron = "7 9 * * 0,5" := by decide

/-- Every text, custom ones included, loses at most an empty day selection. -/
theorem activePart_ofCron_toCron_ofCron (s : String) :
    (ofCron (ofCron s).toCron).activePart = (ofCron s).orMonday.activePart := by
  by_cases hc : (ofCron s).frequency = .custom
  · have hweekly : (ofCron s).frequency ≠ .weekly := by simp [hc]
    rw [toCron_ofCron_of_custom hc, activePart_orMonday fun h => absurd h hweekly]
  · exact activePart_ofCron_toCron hc

/-- Reading and writing, twice and three times over, gives what the first pass gave. Only the view
may still change in the second pass, where a weekly schedule without a day takes Monday. -/
theorem ofCron_toCron_ofCron_stable (s : String) :
    let d₁ : Descriptor := ofCron s
    let d₂ := ofCron d₁.toCron
    let d₃ := ofCron d₂.toCron
    d₂.toCron = d₁.toCron ∧ d₃.toCron = d₁.toCron ∧ d₃ = d₂ ∧
      d₂.frequency = d₁.frequency ∧ d₃.frequency = d₁.frequency ∧
      d₂.sentence = d₁.sentence ∧ d₃.sentence = d₁.sentence ∧
      if d₁.frequency = .weekly ∧ d₁.selectedDays.days = [] then
        d₁.view = .weekly d₁.time [] ∧ d₂.view = .weekly d₁.time [.mon]
      else d₂.view = d₁.view := by
  intro d₁ d₂ d₃
  have hpart : d₂.activePart = d₁.orMonday.activePart := activePart_ofCron_toCron_ofCron s
  have htext : d₂.toCron = d₁.toCron := (toCron_eq_of_activePart hpart).trans (toCron_orMonday d₁)
  have hagain : d₃ = d₂ := congrArg ofCron htext
  have hfrequency : d₂.frequency = d₁.orMonday.frequency := frequency_eq_of_activePart hpart
  have hsentence : d₂.sentence = d₁.sentence :=
    (sentence_eq_of_activePart hpart).trans (sentence_orMonday d₁)
  have hview : d₂.view = d₁.orMonday.view := view_eq_of_activePart hpart
  rw [hagain]
  refine ⟨htext, htext, rfl, hfrequency, hfrequency, hsentence, hsentence, ?_⟩
  rw [hview, view_orMonday]
  split
  next hempty =>
    refine ⟨?_, rfl⟩
    simp only [view, hempty.1, hempty.2]
  next => rfl

end Descriptor
end Recurrence
