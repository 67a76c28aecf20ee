import Recurrence.Cron
import Recurrence.Proofs.Lexeme

/-!
# Structured shapes

The shapes of five fields as a grammar, and the classifier as its decision procedure: it finds the
schedule of a shape exactly if the fields have one.
-/
namespace Recurrence.Cron

open Text

/-- What five fields of a structured shape say. The month is always the star. -/
inductive Shape : Fields → Descriptor → Prop
  | minute {n : List Char} (hn : isNumeral n = true) :
      Shape ⟨'*' :: '/' :: n, ['*'], ['*'], ['*'], ['*']⟩
        { frequency := .minute, minuteInterval := (word? n).getD 5 }
  | hourly {m n : List Char} {minute : UInt32} (hm : word? m = some minute)
      (hn : isNumeral n = true) :
      Shape ⟨m, '*' :: '/' :: n, ['*'], ['*'], ['*']⟩
        { frequency := .hourly, hourInterval := (word? n).getD 6, startingMinute := minute }
  | daily {m h : List Char} {minute hour : UInt32} (hm : word? m = some minute)
      (hh : word? h = some hour) :
      Shape ⟨m, h, ['*'], ['*'], ['*']⟩ { frequency := .daily, hour, minute }
  | weekly {m h : List Char} {ns : List (List Char)} {minute hour : UInt32}
      (hm : word? m = some minute) (hh : word? h = some hour) (hne : ns ≠ [])
      (hns : ∀ n ∈ ns, isNumeral n = true) :
      Shape ⟨m, h, ['*'], ['*'], [','].intercalate ns⟩
        { frequency := .weekly, hour, minute, selectedDays := selection ns }
  | monthly {m h d : List Char} {minute hour day : UInt32} (hm : word? m = some minute)
      (hh : word? h = some hour) (hd : word? d = some day) :
      Shape ⟨m, h, d, ['*'], ['*']⟩ { frequency := .monthly, hour, minute, dayOfMonth := day }

theorem isStar_iff {field : List Char} : isStar field = true ↔ field = ['*'] := by
  simp [isStar]

theorem step?_eq_some_iff {field n : List Char} :
    step? field = some n ↔ field = '*' :: '/' :: n ∧ isNumeral n = true := by
  constructor
  · intro h
    unfold step? at h
    split at h
    · obtain ⟨hn, he⟩ := Option.ite_none_right_eq_some.mp h
      obtain rfl := Option.some.inj he
      exact ⟨rfl, hn⟩
    · contradiction
  · rintro ⟨rfl, hn⟩
    exact if_pos hn

theorem numerals?_eq_some_iff {field : List Char} {ns : List (List Char)} :
    numerals? field = some ns ↔
      field = [','].intercalate ns ∧ ns ≠ [] ∧ ∀ n ∈ ns, isNumeral n = true := by
  simp only [numerals?, Option.ite_none_right_eq_some, Option.some.injEq, List.all_eq_true]
  constructor
  · rintro ⟨hall, rfl⟩
    exact ⟨(List.intercalate_splitOn ',').symm, List.splitOn_ne_nil _ _, hall⟩
  · rintro ⟨rfl, hne, hall⟩
    rw [splitOn_intercalate_comma hne hall]
    exact ⟨hall, rfl⟩

theorem numerals?_cons_star (cs : List Char) : numerals? ('*' :: cs) = none := by
  apply Option.eq_none_iff_forall_ne_some.mpr
  intro ns h
  obtain ⟨he, -, hns⟩ := numerals?_eq_some_iff.mp h
  have hc : '*' ∈ [','].intercalate ns := he ▸ List.mem_cons_self
  have hcases := isDigit_or_eq_comma hns hc
  exact absurd hcases (by decide)

/-- A list of numerals is no step, so the rules cannot compete for a field. -/
theorem step?_of_numerals? {field : List Char} {ns : List (List Char)}
    (h : numerals? field = some ns) : step? field = none := by
  apply Option.eq_none_iff_forall_ne_some.mpr
  intro k hk
  obtain ⟨rfl, -⟩ := step?_eq_some_iff.mp hk
  rw [numerals?_cons_star] at h
  contradiction

theorem isStar_of_numerals? {field : List Char} {ns : List (List Char)}
    (h : numerals? field = some ns) : isStar field = false := by
  rw [Bool.eq_false_iff]
  intro hc
  obtain rfl := isStar_iff.mp hc
  rw [numerals?_cons_star] at h
  contradiction

private theorem numerals?_of_isNumeral {n : List Char} (h : isNumeral n = true) :
    numerals? n = some [n] := by
  rw [numerals?_eq_some_iff, List.intercalate_singleton]
  exact ⟨rfl, List.cons_ne_nil n [], fun k hk => List.mem_singleton.mp hk ▸ h⟩

private theorem interval?_of_word? {field : List Char} {n fallback : UInt32}
    (h : word? field = some n) : interval? fallback field = none := by
  rw [interval?, step?_of_numerals? (numerals?_of_isNumeral (isNumeral_of_word? h))]
  rfl

private theorem interval?_eq_some_iff {field : List Char} {k fallback : UInt32} :
    interval? fallback field = some k ↔
      ∃ n, field = '*' :: '/' :: n ∧ isNumeral n = true ∧ (word? n).getD fallback = k := by
  rw [interval?, Option.map_eq_some_iff]
  simp only [step?_eq_some_iff, and_assoc]

private theorem interval?_step {n : List Char} (fallback : UInt32) (hn : isNumeral n = true) :
    interval? fallback ('*' :: '/' :: n) = some ((word? n).getD fallback) :=
  interval?_eq_some_iff.mpr ⟨n, rfl, hn, rfl⟩

private theorem isStar_of_word? {field : List Char} {n : UInt32} (h : word? field = some n) :
    isStar field = false :=
  isStar_of_numerals? (numerals?_of_isNumeral (isNumeral_of_word? h))

private theorem Shape.structured? {f : Fields} {d : Descriptor} (h : Shape f d) :
    f.structured? = some d := by
  cases h with
  | minute hn => simp [Fields.structured?, interval?_step _ hn, isStar]
  | hourly hm hn =>
    simp [Fields.structured?, interval?_of_word? hm, interval?_step _ hn, hm, isStar]
  | daily hm hh =>
    simp [Fields.structured?, Fields.timed?, interval?_of_word? hm, interval?_of_word? hh, hm, hh,
      isStar]
  | weekly hm hh hne hns =>
    have hl := numerals?_eq_some_iff.mpr ⟨rfl, hne, hns⟩
    simp [Fields.structured?, Fields.timed?, interval?_of_word? hm, interval?_of_word? hh, hm, hh,
      isStar_of_numerals? hl, hl, isStar_iff.mpr]
  | monthly hm hh hd =>
    simp [Fields.structured?, Fields.timed?, interval?_of_word? hm, interval?_of_word? hh, hm, hh,
      isStar_of_word? hd, hd, isStar_iff.mpr]

private theorem shape_of_timed? {m h dom dow : List Char} {minute hour : UInt32} {d : Descriptor}
    (hm : word? m = some minute) (hh : word? h = some hour)
    (ht : Fields.timed? ⟨m, h, dom, ['*'], dow⟩ hour minute = some d) :
    Shape ⟨m, h, dom, ['*'], dow⟩ d := by
  unfold Fields.timed? at ht
  simp only [isStar_iff] at ht
  split at ht
  case isTrue hdom =>
    subst hdom
    split at ht
    case isTrue hdow =>
      subst hdow
      obtain rfl := Option.some.inj ht
      exact .daily hm hh
    case isFalse =>
      obtain ⟨ns, hl, rfl⟩ := Option.map_eq_some_iff.mp ht
      obtain ⟨rfl, hne, hns⟩ := numerals?_eq_some_iff.mp hl
      exact .weekly hm hh hne hns
  case isFalse =>
    obtain ⟨rfl, hd⟩ := Option.ite_none_right_eq_some.mp ht
    obtain ⟨day, hday, rfl⟩ := Option.map_eq_some_iff.mp hd
    exact .monthly hm hh hday

private theorem shape_of_structured? {f : Fields} {d : Descriptor} (h : f.structured? = some d) :
    Shape f d := by
  obtain ⟨m, hr, dom, month, dow⟩ := f
  unfold Fields.structured? at h
  simp only [Bool.not_eq_true', Bool.and_eq_true, isStar_iff] at h
  split at h
  · contradiction
  next hmonth =>
  rw [Bool.not_eq_false, isStar_iff] at hmonth
  subst hmonth
  split at h
  next k hk =>
    obtain ⟨⟨⟨rfl, rfl⟩, rfl⟩, he⟩ := Option.ite_none_right_eq_some.mp h
    obtain rfl := Option.some.inj he
    obtain ⟨n, rfl, hn, rfl⟩ := interval?_eq_some_iff.mp hk
    exact .minute hn
  next =>
    obtain ⟨minute, hm, h⟩ := Option.bind_eq_some_iff.mp h
    split at h
    next k hk =>
      obtain ⟨⟨rfl, rfl⟩, he⟩ := Option.ite_none_right_eq_some.mp h
      obtain rfl := Option.some.inj he
      obtain ⟨n, rfl, hn, rfl⟩ := interval?_eq_some_iff.mp hk
      exact .hourly hm hn
    next =>
      obtain ⟨hour, hh, ht⟩ := Option.bind_eq_some_iff.mp h
      exact shape_of_timed? hm hh ht

/-- The classifier decides the grammar. -/
theorem structured?_eq_some_iff {f : Fields} {d : Descriptor} :
    f.structured? = some d ↔ Shape f d :=
  ⟨shape_of_structured?, Shape.structured?⟩

end Recurrence.Cron

namespace Recurrence.Descriptor

open Cron

theorem ofCron_of_shape {s : String} {f : Fields} {d : Descriptor}
    (hf : Fields.ofText? s = some f) (h : Shape f d) : ofCron s = { d with customCron := s } := by
  simp only [ofCron, hf, structured?_eq_some_iff.mpr h, Option.getD_some]

theorem ofCron_cases {s : String} {f : Fields} (hf : Fields.ofText? s = some f) :
    (∃ d, Shape f d ∧ ofCron s = { d with customCron := s }) ∨
      ofCron s = { frequency := .custom, customCron := s } := by
  cases h : f.structured? with
  | none =>
    right
    simp only [ofCron, hf, h, Option.getD_none]
  | some d =>
    have hd := structured?_eq_some_iff.mp h
    exact Or.inl ⟨d, hd, ofCron_of_shape hf hd⟩

end Recurrence.Descriptor
