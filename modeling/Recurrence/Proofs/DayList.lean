import Recurrence.Cron
import Recurrence.Proofs.Lexeme

/-!
# Day lists

The day-of-week field of a weekly schedule is a list of numerals. Read back, it selects the days it
was written from, or Monday where it was written from none.
-/
namespace Recurrence

open Text

/-- Sunday has two cron numbers; 7 stands for 0. -/
def Cron.dayNumber (n : Nat) : Nat := if n = 7 then 0 else n

private theorem Weekday.ofCronNumber?_eq_some_iff {n : Nat} {d : Weekday} :
    ofCronNumber? n = some d ↔ Cron.dayNumber n = d.cronNumber := by
  unfold ofCronNumber? Cron.dayNumber
  by_cases h7 : n = 7
  · subst h7
    cases d <;> decide
  · simp only [if_neg h7]
    constructor
    · intro h
      have hd := List.find?_some h
      exact (beq_iff_eq.mp hd).symm
    · rintro rfl
      have hd := ofCronNumber?_cronNumber d
      rwa [ofCronNumber?, if_neg h7] at hd

theorem Weekday.exists_cronNumber_eq {n : Nat} (h : n < 7) : ∃ d : Weekday, d.cronNumber = n := by
  have hall : ∀ k : Fin 7, ∃ d ∈ all, d.cronNumber = k.val := by decide
  obtain ⟨d, -, hd⟩ := hall ⟨n, h⟩
  exact ⟨d, hd⟩

namespace DaySelection

theorem ext_contains {s t : DaySelection} (h : ∀ d, s.contains d = t.contains d) : s = t := by
  rw [← ofPred_contains s, ← ofPred_contains t, funext h]

theorem eq_of_days_eq {s t : DaySelection} (h : s.days = t.days) : s = t := by
  rw [← s.ofDays_days, h, t.ofDays_days]

theorem contains_ofDays {ds : List Weekday} {d : Weekday} :
    (ofDays ds).contains d = true ↔ d ∈ ds := by
  rw [ofDays, contains_ofPred, List.contains_iff_mem]

/-- The selection itself, or Monday if it is empty. -/
def orMonday (s : DaySelection) : DaySelection := if s.days = [] then .ofDays [.mon] else s

theorem orMonday_of_ne_nil {s : DaySelection} (h : s.days ≠ []) : s.orMonday = s := if_neg h

theorem orMonday_of_eq_nil {s : DaySelection} (h : s.days = []) : s.orMonday = .ofDays [.mon] :=
  if_pos h

theorem days_orMonday (s : DaySelection) : s.orMonday.days = s.daysOrMonday := by
  unfold orMonday daysOrMonday
  split
  · rfl
  · rfl

private theorem mem_daysOrMonday {s : DaySelection} {d : Weekday} :
    d ∈ s.daysOrMonday ↔ s.orMonday.contains d = true := by
  rw [← days_orMonday, mem_days]

theorem daysOrMonday_ne_nil (s : DaySelection) : s.daysOrMonday ≠ [] := by
  unfold daysOrMonday
  split
  · simp
  · assumption

theorem mem_cronNumbers {s : DaySelection} {n : Nat} :
    n ∈ s.cronNumbers ↔ ∃ d, s.orMonday.contains d = true ∧ d.cronNumber = n := by
  simp only [cronNumbers, List.mem_filter, List.mem_range, List.contains_iff_mem, List.mem_map,
    mem_daysOrMonday]
  constructor
  · rintro ⟨-, h⟩
    exact h
  · rintro ⟨d, hd, rfl⟩
    exact ⟨d.cronNumber_lt, d, hd, rfl⟩

theorem lt_of_mem_cronNumbers {s : DaySelection} {n : Nat} (h : n ∈ s.cronNumbers) : n < 7 := by
  obtain ⟨d, -, rfl⟩ := mem_cronNumbers.mp h
  exact d.cronNumber_lt

theorem daysOrMonday_orMonday (s : DaySelection) : s.orMonday.daysOrMonday = s.daysOrMonday := by
  rw [daysOrMonday, days_orMonday, if_neg s.daysOrMonday_ne_nil]

private theorem cronNumbers_ne_nil (s : DaySelection) : s.cronNumbers ≠ [] := by
  obtain ⟨d, hd⟩ := List.exists_mem_of_ne_nil _ s.daysOrMonday_ne_nil
  exact List.ne_nil_of_mem (mem_cronNumbers.mpr ⟨d, mem_daysOrMonday.mp hd, rfl⟩)

/-- The numerals of the day-of-week field. -/
def numerals (s : DaySelection) : List (List Char) := s.cronNumbers.map fun n => n.repr.toList

theorem numerals_ne_nil (s : DaySelection) : s.numerals ≠ [] := by
  simpa [numerals] using s.cronNumbers_ne_nil

theorem isNumeral_of_mem_numerals {s : DaySelection} {n : List Char} (h : n ∈ s.numerals) :
    isNumeral n = true := by
  obtain ⟨k, -, rfl⟩ := List.mem_map.mp h
  exact isNumeral_repr k

theorem toList_toCron (s : DaySelection) : s.toCron.toList = [','].intercalate s.numerals := by
  rw [toCron, String.toList_intercalate, List.map_map]
  rfl

end DaySelection

namespace Cron

/-- A numeral too great for a word names no day, so only values matter. -/
theorem contains_selection {ns : List (List Char)} {d : Weekday}
    (hns : ∀ n ∈ ns, isNumeral n = true) :
    (selection ns).contains d = true ↔ ∃ n ∈ ns, dayNumber (numeralValue n) = d.cronNumber := by
  rw [selection, DaySelection.contains_ofDays, List.mem_filterMap]
  constructor
  · rintro ⟨n, hn, hd⟩
    obtain ⟨w, hw, hwd⟩ := Option.bind_eq_some_iff.mp hd
    have hv := (word?_eq_some_iff.mp hw).2
    exact ⟨n, hn, by rw [hv]; exact Weekday.ofCronNumber?_eq_some_iff.mp hwd⟩
  · rintro ⟨n, hn, hd⟩
    have hlt : dayNumber (numeralValue n) < 7 := hd ▸ d.cronNumber_lt
    have hsize : numeralValue n < UInt32.size := by
      unfold dayNumber at hlt
      split at hlt <;> simp only [UInt32.size] <;> omega
    refine ⟨n, hn, ?_⟩
    rw [word?_of_numeralValue_lt (hns n hn) hsize, Option.bind_some,
      UInt32.toNat_ofNat_of_lt' hsize]
    exact Weekday.ofCronNumber?_eq_some_iff.mpr hd

theorem dayNumber_of_lt {n : Nat} (h : n < 7) : dayNumber n = n :=
  if_neg (by omega)

private theorem cronNumber_injective {d e : Weekday} (h : d.cronNumber = e.cronNumber) : d = e := by
  have hd := Weekday.ofCronNumber?_cronNumber d
  rw [h, Weekday.ofCronNumber?_cronNumber] at hd
  exact (Option.some.inj hd).symm

theorem exists_mem_numerals_iff {s : DaySelection} {v : Nat} :
    (∃ n ∈ s.numerals, dayNumber (numeralValue n) = v) ↔
      ∃ d, s.orMonday.contains d = true ∧ d.cronNumber = v := by
  constructor
  · rintro ⟨n, hn, hv⟩
    obtain ⟨k, hk, rfl⟩ := List.mem_map.mp hn
    obtain ⟨d, hd, rfl⟩ := DaySelection.mem_cronNumbers.mp hk
    rw [numeralValue_repr, dayNumber_of_lt d.cronNumber_lt] at hv
    exact ⟨d, hd, hv⟩
  · rintro ⟨d, hd, rfl⟩
    refine ⟨_, List.mem_map_of_mem (DaySelection.mem_cronNumbers.mpr ⟨d, hd, rfl⟩), ?_⟩
    rw [numeralValue_repr, dayNumber_of_lt d.cronNumber_lt]

theorem selection_numerals (s : DaySelection) : selection s.numerals = s.orMonday := by
  apply DaySelection.ext_contains
  intro d
  rw [Bool.eq_iff_iff, contains_selection fun n => DaySelection.isNumeral_of_mem_numerals,
    exists_mem_numerals_iff]
  constructor
  · rintro ⟨e, he, hde⟩
    obtain rfl := cronNumber_injective hde
    exact he
  · intro hd
    exact ⟨d, hd, rfl⟩

end Cron
end Recurrence
