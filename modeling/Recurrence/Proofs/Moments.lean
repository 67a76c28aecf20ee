import Mathlib.Data.Set.Basic
import Recurrence.Proofs.Shape
import Recurrence.Proofs.Written

/-!
# The moments of a cron expression

What an expression means, stated without the classifier: the set of moments that its five fields
admit. Reading an expression and writing it again keeps this set.
-/
namespace Recurrence.Cron

open Text

/-- A moment in the five units of cron. -/
structure Moment where
  minute : Nat
  hour : Nat
  dayOfMonth : Nat
  month : Nat
  dayOfWeek : Fin 7
deriving DecidableEq, Repr

/-- The values that a field admits, if a listed numeral stands for the `meaning` of its value. A
numeral alone is a list of one. -/
inductive FieldAdmits (meaning : Nat → Nat) : List Char → Nat → Prop
  | star (v : Nat) : FieldAdmits meaning ['*'] v
  | step {n : List Char} {v : Nat} (hn : isNumeral n = true) (hv : numeralValue n ∣ v) :
      FieldAdmits meaning ('*' :: '/' :: n) v
  | list {ns : List (List Char)} {n : List Char} (hns : ∀ n ∈ ns, isNumeral n = true)
      (hn : n ∈ ns) : FieldAdmits meaning ([','].intercalate ns) (meaning (numeralValue n))

/-- All five units are admitted. Only days of the week have a second number. -/
def Fields.Admits (f : Fields) (m : Moment) : Prop :=
  FieldAdmits id f.minute m.minute ∧ FieldAdmits id f.hour m.hour ∧
    FieldAdmits id f.dayOfMonth m.dayOfMonth ∧ FieldAdmits id f.month m.month ∧
    FieldAdmits dayNumber f.dayOfWeek m.dayOfWeek

/-- The moments that an expression admits; none if it does not have five fields. -/
def moments (s : String) : Set Moment := {m | ∃ f, Fields.ofText? s = some f ∧ f.Admits m}

section
variable {meaning : Nat → Nat} {field : List Char} {v : Nat}

private theorem fieldAdmits_iff :
    FieldAdmits meaning field v ↔
      (isStar field || (step? field).any (fun n => decide (numeralValue n ∣ v)) ||
        (numerals? field).any fun ns => ns.any fun n => meaning (numeralValue n) == v) = true := by
  simp only [Bool.or_eq_true, Option.any_eq_true, List.any_eq_true, decide_eq_true_eq, beq_iff_eq,
    isStar_iff, step?_eq_some_iff, numerals?_eq_some_iff]
  constructor
  · intro h
    cases h with
    | star => exact Or.inl (Or.inl rfl)
    | step hn hv => exact Or.inl (Or.inr ⟨_, ⟨rfl, hn⟩, hv⟩)
    | list hns hn => exact Or.inr ⟨_, ⟨rfl, List.ne_nil_of_mem hn, hns⟩, _, hn, rfl⟩
  · rintro ((rfl | ⟨n, ⟨rfl, hn⟩, hv⟩) | ⟨ns, ⟨rfl, -, hns⟩, n, hn, rfl⟩)
    · exact .star v
    · exact .step hn hv
    · exact .list hns hn

instance : Decidable (FieldAdmits meaning field v) := decidable_of_iff _ fieldAdmits_iff.symm

example : FieldAdmits dayNumber ['5', ',', '0', '7'] 0 ∧ ¬ FieldAdmits id ['*', '/', '5'] 7 := by
  decide

theorem fieldAdmits_list {ns : List (List Char)} (hne : ns ≠ [])
    (hns : ∀ n ∈ ns, isNumeral n = true) :
    FieldAdmits meaning ([','].intercalate ns) v ↔ ∃ n ∈ ns, meaning (numeralValue n) = v := by
  have hl := numerals?_eq_some_iff.mpr ⟨rfl, hne, hns⟩
  rw [fieldAdmits_iff, hl, isStar_of_numerals? hl, step?_of_numerals? hl]
  simp

theorem fieldAdmits_numeral {n : List Char} (hn : isNumeral n = true) :
    FieldAdmits meaning n v ↔ meaning (numeralValue n) = v := by
  have hl := @fieldAdmits_list meaning v [n] (List.cons_ne_nil n [])
    fun k hk => List.mem_singleton.mp hk ▸ hn
  rw [List.intercalate_singleton] at hl
  rw [hl]
  simp

private theorem fieldAdmits_step {n : List Char} (hn : isNumeral n = true) :
    FieldAdmits meaning ('*' :: '/' :: n) v ↔ numeralValue n ∣ v := by
  rw [fieldAdmits_iff, numerals?_cons_star, step?_eq_some_iff.mpr ⟨rfl, hn⟩]
  simp [isStar]

/-- A word is written in the decimal form, which may drop zeros of the numeral it was read from. -/
private theorem fieldAdmits_ofWord {n : List Char} {w : UInt32} (h : word? n = some w) :
    FieldAdmits meaning (ofWord w).toList v ↔ FieldAdmits meaning n v := by
  obtain ⟨hn, hv⟩ := word?_eq_some_iff.mp h
  rw [fieldAdmits_numeral (isNumeral_ofWord w), fieldAdmits_numeral hn, numeralValue_ofWord, hv]

private theorem fieldAdmits_step_ofWord {n : List Char} {w : UInt32} (h : word? n = some w) :
    FieldAdmits meaning ('*' :: '/' :: (ofWord w).toList) v ↔
      FieldAdmits meaning ('*' :: '/' :: n) v := by
  obtain ⟨hn, hv⟩ := word?_eq_some_iff.mp h
  rw [fieldAdmits_step (isNumeral_ofWord w), fieldAdmits_step hn, numeralValue_ofWord, hv]

end

/-- A selection that is read from a list and written again admits the days of the list, provided the
list names a day at all. -/
private theorem fieldAdmits_selection {ns : List (List Char)} {v : Nat} (hne : ns ≠ [])
    (hns : ∀ n ∈ ns, isNumeral n = true) (hday : ∃ n ∈ ns, numeralValue n ≤ 7) (hv : v < 7) :
    FieldAdmits dayNumber ([','].intercalate (selection ns).numerals) v ↔
      FieldAdmits dayNumber ([','].intercalate ns) v := by
  have hdays : (selection ns).days ≠ [] := by
    obtain ⟨n, hn, h7⟩ := hday
    have hlt : dayNumber (numeralValue n) < 7 := by
      unfold dayNumber
      split <;> omega
    obtain ⟨d, hd⟩ := Weekday.exists_cronNumber_eq hlt
    have hsel := (contains_selection hns).mpr ⟨n, hn, hd.symm⟩
    exact List.ne_nil_of_mem (DaySelection.mem_days.mpr hsel)
  rw [fieldAdmits_list (DaySelection.numerals_ne_nil _)
    fun _ => DaySelection.isNumeral_of_mem_numerals, fieldAdmits_list hne hns,
    exists_mem_numerals_iff, DaySelection.orMonday_of_ne_nil hdays]
  constructor
  · rintro ⟨d, hd, rfl⟩
    exact (contains_selection hns).mp hd
  · intro h
    obtain ⟨d, rfl⟩ := Weekday.exists_cronNumber_eq hv
    exact ⟨d, (contains_selection hns).mpr h, rfl⟩

private theorem word?_of_lt {n : List Char} (hn : isNumeral n = true)
    (hv : numeralValue n < UInt32.size) (fallback : UInt32) :
    word? n = some ((word? n).getD fallback) := by
  rw [word?_of_numeralValue_lt hn hv, Option.getD_some]

/-- One shape at a time: what is written admits the same moments as what was read. -/
private theorem Shape.admits_written {f g : Fields} {d : Descriptor} (h : Shape f d)
    (hg : d.fields? = some g)
    (hstep : (d.frequency = .minute → ∀ n, f.minute = '*' :: '/' :: n →
        numeralValue n < UInt32.size) ∧
      (d.frequency = .hourly → ∀ n, f.hour = '*' :: '/' :: n → numeralValue n < UInt32.size))
    (hday : d.frequency = .weekly → ∃ n ∈ f.dayOfWeek.splitOn ',', numeralValue n ≤ 7)
    (m : Moment) : g.Admits m ↔ f.Admits m := by
  cases h with
  | minute hn =>
    obtain rfl := Option.some.inj hg
    have hw := word?_of_lt hn (hstep.1 rfl _ rfl) 5
    simp only [Fields.Admits, fieldAdmits_step_ofWord hw]
  | hourly hm hn =>
    obtain rfl := Option.some.inj hg
    have hw := word?_of_lt hn (hstep.2 rfl _ rfl) 6
    simp only [Fields.Admits, fieldAdmits_ofWord hm, fieldAdmits_step_ofWord hw]
  | daily hm hh =>
    obtain rfl := Option.some.inj hg
    simp only [Fields.Admits, fieldAdmits_ofWord hm, fieldAdmits_ofWord hh]
  | weekly hm hh hne hns =>
    obtain rfl := Option.some.inj hg
    have hd := hday rfl
    rw [splitOn_intercalate_comma hne hns] at hd
    simp only [Fields.Admits, fieldAdmits_ofWord hm, fieldAdmits_ofWord hh,
      fieldAdmits_selection hne hns hd m.dayOfWeek.isLt]
  | monthly hm hh hd =>
    obtain rfl := Option.some.inj hg
    simp only [Fields.Admits, fieldAdmits_ofWord hm, fieldAdmits_ofWord hh, fieldAdmits_ofWord hd]

end Recurrence.Cron

namespace Recurrence.Descriptor

open Cron Text

/-- Reading five fields and writing them again gives the text itself or other five fields for the
same moments, provided the step that is read fits a word and a weekly list names a day. -/
theorem moments_toCron_ofCron (s : String) (f : Fields) (hf : Fields.ofText? s = some f)
    (hminute : (ofCron s).frequency = .minute →
      ∀ n, f.minute = '*' :: '/' :: n → numeralValue n < UInt32.size)
    (hhour : (ofCron s).frequency = .hourly →
      ∀ n, f.hour = '*' :: '/' :: n → numeralValue n < UInt32.size)
    (hday : (ofCron s).frequency = .weekly →
      ∃ n ∈ f.dayOfWeek.splitOn ',', numeralValue n ≤ 7) :
    ((ofCron s).frequency = .custom ∧ (ofCron s).toCron = s) ∨
      (isMalformed (ofCron s).toCron = false ∧
        moments (ofCron s).toCron = moments s) := by
  rcases ofCron_cases hf with ⟨d, hd, he⟩ | he
  · right
    rw [he] at hminute hhour hday ⊢
    have hc : ({ d with customCron := s } : Descriptor).frequency ≠ .custom := by
      cases hd <;> simp
    obtain ⟨g, hg⟩ := exists_fields? hc
    have hword := ofText?_toCron hg
    refine ⟨by rw [isMalformed, hword]; rfl, ?_⟩
    ext m
    simp only [moments, Set.mem_ofPred_eq, hword, hf, Option.some.injEq, exists_eq_left']
    exact hd.admits_written hg ⟨hminute, hhour⟩ hday m
  · left
    rw [he]
    exact ⟨rfl, rfl⟩

theorem moments_toCron_ofCron_weekly :
    let s := " 07\t009 *  * 7,5,5,42,99999999999 "
    let f : Fields := ⟨"07".toList, "009".toList, ['*'], ['*'], "7,5,5,42,99999999999".toList⟩
    Fields.ofText? s = some f ∧ (ofCron s).frequency = .weekly ∧
      (∃ n ∈ f.dayOfWeek.splitOn ',', numeralValue n ≤ 7) ∧
      (ofCron s).toCron = "7 9 * * 0,5" ∧ moments (ofCron s).toCron = moments s := by
  intro s f
  have hf : Fields.ofText? s = some f := by decide
  have hweekly : (ofCron s).frequency = .weekly := by decide
  have hday : ∃ n ∈ f.dayOfWeek.splitOn ',', numeralValue n ≤ 7 := by decide
  refine ⟨hf, hweekly, hday, by decide, ?_⟩
  rcases moments_toCron_ofCron s f hf (by rw [hweekly]; nofun) (by rw [hweekly]; nofun)
    fun _ => hday with ⟨hcustom, -⟩ | ⟨-, hden⟩
  · rw [hweekly] at hcustom
    contradiction
  · exact hden

end Recurrence.Descriptor
