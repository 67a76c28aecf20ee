import Recurrence.Proofs.Grammar
import Recurrence.Proofs.Moments
import Recurrence.Proofs.RoundTrip
import Recurrence.Proofs.Session

/-!
# Schedulable sessions

Edits keep every number of a descriptor in the range of its field, so a structured schedule is
always written with numbers that a clock and a calendar have, and there is a moment at which it
falls due.
-/
namespace Recurrence

open Text

namespace Cron

/-- A numeral with a value between two bounds, these included. -/
def Between (lo hi : Nat) (n : List Char) : Prop :=
  isNumeral n = true ∧ lo ≤ numeralValue n ∧ numeralValue n ≤ hi

/-- The words of expressions that fall due at some time. -/
def schedulable : Lexicon where
  minuteStep := Between 1 59
  hourStep := Between 1 23
  minute := Between 0 59
  hour := Between 0 23
  dayOfMonth := Between 1 31
  days ns := ns ≠ [] ∧ ∀ n ∈ ns, Between 0 6 n

private theorem between_ofWord {w : UInt32} {lo hi : Nat} (h : lo ≤ w.toNat ∧ w.toNat ≤ hi) :
    Between lo hi (ofWord w).toList := by
  rw [Between, numeralValue_ofWord]
  exact ⟨isNumeral_ofWord w, h⟩

private theorem schedulable_days_numerals (s : DaySelection) : schedulable.days s.numerals := by
  refine ⟨s.numerals_ne_nil, ?_⟩
  intro n hn
  obtain ⟨v, hv, rfl⟩ := List.mem_map.mp hn
  have hlt := DaySelection.lt_of_mem_cronNumbers hv
  rw [Between, numeralValue_repr]
  exact ⟨isNumeral_repr v, Nat.zero_le v, Nat.le_of_lt_succ hlt⟩

/-- The moment is one of a clock and of the longest months. -/
structure Moment.InCalendar (m : Moment) : Prop where
  minute : m.minute ≤ 59
  hour : m.hour ≤ 23
  dayOfMonth : 1 ≤ m.dayOfMonth ∧ m.dayOfMonth ≤ 31
  month : 1 ≤ m.month ∧ m.month ≤ 12

private theorem inCalendar_january {minute hour day : Nat} {dayOfWeek : Fin 7}
    (hm : minute ≤ 59) (hh : hour ≤ 23) (hd : 1 ≤ day ∧ day ≤ 31) :
    Moment.InCalendar ⟨minute, hour, day, 1, dayOfWeek⟩ :=
  ⟨hm, hh, hd, by simp⟩

private theorem Fields.HasShape.exists_admits {f : Fields} {p : Frequency}
    (h : f.HasShape schedulable p) :
    ∃ m : Moment, m.InCalendar ∧ f.Admits m := by
  have hnum {lo hi : Nat} {n : List Char} (hn : Between lo hi n) :
      FieldAdmits id n (numeralValue n) := (fieldAdmits_numeral hn.1).mpr rfl
  have hstep {lo hi : Nat} {n : List Char} (hn : Between lo hi n) :
      FieldAdmits id ('*' :: '/' :: n) 0 := .step hn.1 (Nat.dvd_zero _)
  cases h with
  | minute hn =>
    refine ⟨⟨0, 0, 1, 1, 0⟩, ?_, hstep hn, .star _, .star _, .star _, .star _⟩
    exact inCalendar_january (by decide) (by decide) (by decide)
  | @hourly m _ hm hn =>
    refine ⟨⟨numeralValue m, 0, 1, 1, 0⟩, ?_, hnum hm, hstep hn, .star _, .star _, .star _⟩
    exact inCalendar_january hm.2.2 (by decide) (by decide)
  | @daily m h hm hh =>
    refine ⟨⟨numeralValue m, numeralValue h, 1, 1, 0⟩, ?_, hnum hm, hnum hh, .star _, .star _,
      .star _⟩
    exact inCalendar_january hm.2.2 hh.2.2 (by decide)
  | @weekly m h ns hm hh hns =>
    obtain ⟨n, hn⟩ := List.exists_mem_of_ne_nil _ hns.1
    have hlt : numeralValue n < 7 := Nat.lt_succ_of_le (hns.2 n hn).2.2
    have hday : FieldAdmits dayNumber ([','].intercalate ns) (numeralValue n) := by
      rw [fieldAdmits_list hns.1 fun k hk => (hns.2 k hk).1]
      exact ⟨n, hn, dayNumber_of_lt hlt⟩
    refine ⟨⟨numeralValue m, numeralValue h, 1, 1, ⟨numeralValue n, hlt⟩⟩, ?_, hnum hm, hnum hh,
      .star _, .star _, hday⟩
    exact inCalendar_january hm.2.2 hh.2.2 (by decide)
  | @monthly m h d hm hh hd =>
    refine ⟨⟨numeralValue m, numeralValue h, numeralValue d, 1, 0⟩, ?_, hnum hm, hnum hh, hnum hd,
      .star _, .star _⟩
    exact inCalendar_january hm.2.2 hh.2.2 hd.2

end Cron

namespace Descriptor

open Cron Edit

/-- All six numbers are in the ranges of their fields, also those that the shape does not read. -/
structure InRange (d : Descriptor) : Prop where
  minuteInterval : 1 ≤ d.minuteInterval.toNat ∧ d.minuteInterval.toNat ≤ 59
  hourInterval : 1 ≤ d.hourInterval.toNat ∧ d.hourInterval.toNat ≤ 23
  startingMinute : d.startingMinute.toNat ≤ 59
  hour : d.hour.toNat ≤ 23
  minute : d.minute.toNat ≤ 59
  dayOfMonth : 1 ≤ d.dayOfMonth.toNat ∧ d.dayOfMonth.toNat ≤ 31

private theorem inRange_iff {d : Descriptor} :
    d.InRange ↔ ∀ field : NumericField, field.range.Contains (field.get d) := by
  simp only [Range.Contains, UInt32.le_iff_toNat_le]
  constructor
  · intro h field
    cases field with
    | minuteInterval => exact h.minuteInterval
    | hourInterval => exact h.hourInterval
    | startingMinute => exact ⟨Nat.zero_le _, h.startingMinute⟩
    | hour => exact ⟨Nat.zero_le _, h.hour⟩
    | minute => exact ⟨Nat.zero_le _, h.minute⟩
    | dayOfMonth => exact h.dayOfMonth
  · intro h
    exact ⟨h .minuteInterval, h .hourInterval, (h .startingMinute).2, (h .hour).2, (h .minute).2,
      h .dayOfMonth⟩

private theorem InRange.covers {d : Descriptor} (h : d.InRange) : schedulable.Covers d where
  minuteInterval := between_ofWord h.minuteInterval
  hourInterval := between_ofWord h.hourInterval
  startingMinute := between_ofWord ⟨Nat.zero_le _, h.startingMinute⟩
  hour := between_ofWord ⟨Nat.zero_le _, h.hour⟩
  minute := between_ofWord ⟨Nat.zero_le _, h.minute⟩
  selectedDays := schedulable_days_numerals d.selectedDays
  dayOfMonth := between_ofWord h.dayOfMonth

private theorem contains_of_clamped? {e : Edit} {field : NumericField} {n : UInt32}
    (h : e.clamped? field = some n) : field.range.Contains n := by
  cases e with
  | number f text =>
    obtain ⟨rfl, he⟩ := Option.ite_none_right_eq_some.mp h
    obtain rfl := Option.some.inj he
    exact f.range.contains_clamp text
  | _ => contradiction

private theorem InRange.edit {d : Descriptor} (h : d.InRange) (e : Edit) : (d.edit e).InRange := by
  rw [inRange_iff] at h ⊢
  intro field
  rw [get_edit]
  cases hc : e.clamped? field with
  | none => exact h field
  | some n => exact contains_of_clamped? hc

private theorem InRange.editAll {d : Descriptor} (h : d.InRange) (es : List Edit) :
    (d.editAll es).InRange := by
  induction es generalizing d with
  | nil => exact h
  | cons e es ih => exact ih (h.edit e)

private theorem inRange_of_defaults (f : Frequency) (s : String) :
    ({ frequency := f, customCron := s } : Descriptor).InRange := by
  constructor <;> simp

private theorem inRange_ofCron {s : String}
    (h : isMalformed s = true ∨ (ofCron s).frequency = .custom) : (ofCron s).InRange := by
  cases hf : Fields.ofText? s with
  | none =>
    simp only [ofCron, hf]
    exact inRange_of_defaults .daily s
  | some f =>
    have hcustom : (ofCron s).frequency = .custom := by
      rcases h with h | h
      · simp [isMalformed, hf] at h
      · exact h
    rcases ofCron_cases hf with ⟨d, hd, he⟩ | he
    · rw [he] at hcustom
      cases hd <;> contradiction
    · rw [he]
      exact inRange_of_defaults .custom s

end Descriptor

namespace Editor

open Cron Descriptor

/-- A session that starts with numbers in range, as every malformed and every custom text does, is
always in range. As long as its schedule is structured, the expression has five fields with numbers
that a clock and a calendar have, is due at some moment, and is read with the same frequency. -/
theorem inRange_run_load (s : String) :
    (isMalformed s = true ∨ (ofCron s).frequency = .custom → (ofCron s).InRange) ∧
      ((ofCron s).InRange → ∀ es : List Edit,
        let ed := (load s).run es
        ed.descriptor.InRange ∧
          (ed.descriptor.frequency ≠ .custom →
            (∃ f : Fields, Text.words ed.expression.toList = f.words ∧
              f.HasShape schedulable ed.descriptor.frequency) ∧
            (∃ m ∈ moments ed.expression, m.InCalendar) ∧
            (ofCron ed.expression).frequency = ed.descriptor.frequency)) := by
  refine ⟨inRange_ofCron, ?_⟩
  intro h es ed
  have hrange : ed.descriptor.InRange := by
    rw [descriptor_run]
    exact h.editAll es
  refine ⟨hrange, ?_⟩
  intro hstructured
  obtain ⟨f, hf⟩ := exists_fields? hstructured
  have htext := ofText?_toCron hf
  have hshape := hrange.covers.hasShape hf
  obtain ⟨m, hm, hadmits⟩ := hshape.exists_admits
  refine ⟨⟨f, Fields.ofText?_eq_some_iff.mp htext, hshape⟩, ⟨m, ⟨f, htext, hadmits⟩, hm⟩, ?_⟩
  have hfrequency : (ofCron ed.expression).frequency = ed.descriptor.orMonday.frequency :=
    frequency_eq_of_activePart (activePart_ofCron_toCron hstructured)
  exact hfrequency

theorem inRange_run_load_noDay :
    let s := " 59 023 * *  7,9"
    let ed := (load s).run [.number .hour "99", .toggleDay .sun, .number .minuteInterval " -5 "]
    (ofCron s).InRange ∧ ed.descriptor.frequency ≠ .custom ∧ ed.expression = "59 23 * * 1" ∧
      ed.descriptor.InRange ∧ (∃ m ∈ moments ed.expression, m.InCalendar) ∧
      (ofCron ed.expression).frequency = .weekly := by
  intro s ed
  have h : (ofCron s).InRange := by constructor <;> decide
  have hstructured : ed.descriptor.frequency ≠ .custom := by decide
  obtain ⟨hrange, hrest⟩ := (inRange_run_load s).2 h
    [.number .hour "99", .toggleDay .sun, .number .minuteInterval " -5 "]
  obtain ⟨-, hmoment, hread⟩ := hrest hstructured
  exact ⟨h, hstructured, by decide, hrange, hmoment, hread.trans (by decide)⟩

end Editor
end Recurrence
