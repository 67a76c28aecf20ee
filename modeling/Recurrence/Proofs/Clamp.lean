import Mathlib.Data.List.DropRight
import Recurrence.Proofs.Lexeme
import Recurrence.NumericField

/-!
# Clamped texts

The integers that a form takes: a sign or none and a run of digits of any length, with blanks around
it or none. Clamping leaves a text as it is exactly if it spells an integer of the range. Other
integers are moved into the range, as long as 64 bits hold them, and a text that spells no integer
takes the lower end.

So far clamping keeps the order of typed integers. An integer above 64 bits takes the lower end of
the range, as if it were no integer, and there a smaller one may come out larger.
-/
namespace Recurrence

namespace Text

/-- An integer as a person writes it: ASCII digits behind a sign or none, with leading zeros or
without. -/
inductive SignedDecimal : List Char → Int → Prop
  | unsigned {cs : List Char} (h : isNumeral cs = true) : SignedDecimal cs (numeralValue cs)
  | plus {cs : List Char} (h : isNumeral cs = true) : SignedDecimal ('+' :: cs) (numeralValue cs)
  | minus {cs : List Char} (h : isNumeral cs = true) : SignedDecimal ('-' :: cs) (-numeralValue cs)

variable {cs : List Char} {v : Int}

private theorem signedValue?_of_isNumeral (h : isNumeral cs = true) :
    signedValue? cs = some (numeralValue cs : Int) := by
  unfold signedValue?
  split
  next => simp [isNumeral] at h
  next => simp [isNumeral] at h
  next => rw [if_pos h]

private theorem signedValue?_eq_some_iff : signedValue? cs = some v ↔ SignedDecimal cs v := by
  constructor
  · intro h
    unfold signedValue? at h
    split at h <;> obtain ⟨hn, he⟩ := Option.ite_none_right_eq_some.mp h <;>
      obtain rfl := Option.some.inj he
    · exact .minus hn
    · exact .plus hn
    · exact .unsigned hn
  · intro h
    cases h with
    | unsigned h => exact signedValue?_of_isNumeral h
    | plus h => simp only [signedValue?, h, if_true]
    | minus h => simp only [signedValue?, h, if_true]

private theorem SignedDecimal.unique {w : Int} (hv : SignedDecimal cs v) (hw : SignedDecimal cs w) :
    v = w := by
  rw [← signedValue?_eq_some_iff] at hv hw
  exact Option.some.inj (hv.symm.trans hw)

private theorem int64?_eq_some_iff :
    int64? cs = some v ↔ SignedDecimal cs v ∧ -(int64Bound : Int) ≤ v ∧ v < int64Bound := by
  rw [int64?, Option.filter_eq_some_iff, signedValue?_eq_some_iff]
  simp

/-- The text is the integer `v` as a person writes it, with blanks around it or none. -/
def Spells (text : List Char) (v : Int) : Prop :=
  ∃ front decimal back, text = front ++ decimal ++ back ∧ allBlank front = true ∧
    allBlank back = true ∧ SignedDecimal decimal v

private theorem exists_append_trim (cs : List Char) :
    ∃ front back, cs = front ++ trim cs ++ back ∧ allBlank front = true ∧ allBlank back = true := by
  have htrim : trim cs = (cs.dropWhile isBlank).rdropWhile isBlank := rfl
  refine ⟨cs.takeWhile isBlank, (cs.dropWhile isBlank).rtakeWhile isBlank, ?_, ?_, ?_⟩
  · rw [htrim, List.append_assoc, List.rdropWhile_append_rtakeWhile,
      List.takeWhile_append_dropWhile]
  · exact List.all_eq_true.mpr fun c hc => List.mem_takeWhile_imp hc
  · exact List.all_eq_true.mpr fun c hc => List.mem_rtakeWhile_imp hc

private theorem IsWord.reverse {w : List Char} (h : IsWord w) : IsWord w.reverse :=
  ⟨List.reverse_ne_nil_iff.mpr h.1, fun c hc => h.2 c (List.mem_reverse.mp hc)⟩

private theorem IsWord.dropWhile_append {front w : List Char} (hw : IsWord w)
    (hfront : allBlank front = true) (rest : List Char) :
    (front ++ (w ++ rest)).dropWhile isBlank = w ++ rest := by
  rw [List.dropWhile_append_of_pos (List.all_eq_true.mp hfront)]
  obtain ⟨c, cs, rfl⟩ := List.exists_cons_of_ne_nil hw.1
  have hc : isBlank c = false := hw.2 c List.mem_cons_self
  simp [hc]

private theorem IsWord.trim_append {front w back : List Char} (hw : IsWord w)
    (hfront : allBlank front = true) (hback : allBlank back = true) :
    trim (front ++ w ++ back) = w := by
  have hblank : allBlank back.reverse = true := by
    rw [allBlank, List.all_reverse]
    exact hback
  have hend := hw.reverse.dropWhile_append hblank []
  rw [List.append_nil] at hend
  rw [trim, List.append_assoc, hw.dropWhile_append hfront, List.reverse_append, hend,
    List.reverse_reverse]

private theorem SignedDecimal.isWord {cs : List Char} {v : Int} (h : SignedDecimal cs v) :
    IsWord cs := by
  have hsign {c : Char} {ds : List Char} (hc : isBlank c = false) (hds : isNumeral ds = true) :
      IsWord (c :: ds) := by
    refine ⟨List.cons_ne_nil c ds, ?_⟩
    rw [List.forall_mem_cons]
    exact ⟨hc, (isWord_of_isNumeral hds).2⟩
  cases h with
  | unsigned h => exact isWord_of_isNumeral h
  | plus h => exact hsign (by decide) h
  | minus h => exact hsign (by decide) h

private theorem spells_iff {text : List Char} {v : Int} :
    Spells text v ↔ SignedDecimal (trim text) v := by
  constructor
  · rintro ⟨front, decimal, back, rfl, hfront, hback, hv⟩
    rw [hv.isWord.trim_append hfront hback]
    exact hv
  · intro hv
    obtain ⟨front, back, htext, hfront, hback⟩ := exists_append_trim text
    exact ⟨front, trim text, back, htext, hfront, hback, hv⟩

end Text

section
variable {text : String} {v : Int}

private theorem typedInt?_eq_some_iff :
    typedInt? text = some v ↔
      Text.SignedDecimal (Text.trim text.toList) v ∧
        -(Text.int64Bound : Int) ≤ v ∧ v < Text.int64Bound := Text.int64?_eq_some_iff

private theorem typedInt?_eq_none_iff :
    typedInt? text = none ↔
      ∀ v, Text.SignedDecimal (Text.trim text.toList) v →
        ¬ (-(Text.int64Bound : Int) ≤ v ∧ v < Text.int64Bound) := by
  rw [Option.eq_none_iff_forall_ne_some]
  simp only [ne_eq, typedInt?_eq_some_iff, not_and]

end

/-- The text spells an integer of the range, blanks around it aside. -/
def Range.Takes (r : Range) (text : String) : Prop :=
  ∃ v : Int, Text.SignedDecimal (Text.trim text.toList) v ∧ (r.lo.toNat : Int) ≤ v ∧ v ≤ r.hi.toNat

private theorem Clamped.adjusted_ofInt_iff {lo hi : UInt32} (h : lo ≤ hi) (v : Int) :
    (ofInt lo hi v).adjusted = false ↔ (lo.toNat : Int) ≤ v ∧ v ≤ hi.toNat := by
  have hle : lo.toNat ≤ hi.toNat := UInt32.le_iff_toNat_le.mp h
  simp only [ofInt, bne_eq_false_iff_eq]
  omega

theorem Range.adjusted_clamp_iff (r : Range) (text : String) :
    (r.clamp text).adjusted = false ↔ r.Takes text := by
  unfold clamp Takes
  cases h : typedInt? text with
  | none =>
    have hhi := r.hi.toNat_lt
    simp only [Bool.true_eq_false, false_iff]
    rintro ⟨v, hv, hmin, hmax⟩
    -- A decimal beyond 64 bits lies outside of every range of words.
    refine typedInt?_eq_none_iff.mp h v hv ?_
    simp only [Text.int64Bound]
    omega
  | some v =>
    obtain ⟨hv, -⟩ := typedInt?_eq_some_iff.mp h
    simp only [Clamped.adjusted_ofInt_iff r.lo_le_hi]
    constructor
    · intro hrange
      exact ⟨v, hv, hrange⟩
    · rintro ⟨w, hw, hrange⟩
      obtain rfl := hv.unique hw
      exact hrange

/-- A typed integer goes to the nearest number of the range, but to the lower end if it is too large
for 64 bits. -/
theorem Range.toNat_value_clamp (r : Range) {text : String} {v : Int}
    (h : Text.SignedDecimal (Text.trim text.toList) v) :
    ((r.clamp text).value.toNat : Int) =
      if v < Text.int64Bound then max (r.lo.toNat : Int) (min v r.hi.toNat) else r.lo.toNat := by
  unfold clamp
  cases htyped : typedInt? text with
  | none =>
    have hbeyond := typedInt?_eq_none_iff.mp htyped v h
    -- Below 64 bits the lower end is the nearest number after all.
    have hle : r.lo.toNat ≤ r.hi.toNat := UInt32.le_iff_toNat_le.mp r.lo_le_hi
    simp only
    split <;> omega
  | some w =>
    obtain ⟨hw, -, hlt⟩ := typedInt?_eq_some_iff.mp htyped
    obtain rfl := hw.unique h
    rw [if_pos hlt]
    exact Clamped.toNat_value_ofInt r.lo_le_hi w

open Text

namespace Range

variable (r : Range) {s t : String} {a b : Int}

/-- Of two typed integers the larger one is clamped to a number no smaller, unless it alone is too
large for 64 bits while the smaller one is clamped to a number above the lower end. -/
theorem clamp_le_clamp_iff (hs : SignedDecimal (trim s.toList) a)
    (ht : SignedDecimal (trim t.toList) b) (hab : a ≤ b) :
    (r.clamp s).value ≤ (r.clamp t).value ↔
      b < int64Bound ∨ int64Bound ≤ a ∨ a ≤ r.lo.toNat ∨ r.lo = r.hi := by
  have hle : r.lo.toNat ≤ r.hi.toNat := UInt32.le_iff_toNat_le.mp r.lo_le_hi
  have hends : r.lo = r.hi ↔ r.lo.toNat = r.hi.toNat := UInt32.toNat_inj.symm
  have hsmaller := r.toNat_value_clamp hs
  have hlarger := r.toNat_value_clamp ht
  rw [UInt32.le_iff_toNat_le, hends]
  by_cases hb : b < int64Bound
  · have ha : a < int64Bound := Int.lt_of_le_of_lt hab hb
    rw [if_pos ha] at hsmaller
    rw [if_pos hb] at hlarger
    omega
  · rw [if_neg hb] at hlarger
    split at hsmaller <;> omega

theorem clamp_le_clamp_iff_underflow :
    let r := NumericField.dayOfMonth.range
    SignedDecimal (trim " -9223372036854775809 ".toList) (-9223372036854775809) ∧
      SignedDecimal (trim "+0031".toList) 31 ∧ (-9223372036854775809 : Int) ≤ 31 ∧
      (r.clamp " -9223372036854775809 ").value ≤ (r.clamp "+0031").value := by
  intro r
  have hs : SignedDecimal (trim " -9223372036854775809 ".toList) (-9223372036854775809) :=
    signedValue?_eq_some_iff.mp (by decide)
  have ht : SignedDecimal (trim "+0031".toList) 31 := signedValue?_eq_some_iff.mp (by decide)
  have hab : (-9223372036854775809 : Int) ≤ 31 := by decide
  exact ⟨hs, ht, hab, (r.clamp_le_clamp_iff hs ht hab).mpr (Or.inl (by decide))⟩

/-- The last hour is typed, and then the first number that 64 bits do not hold. -/
theorem clamp_above_int64_lt :
    let r := NumericField.hour.range
    SignedDecimal (trim "23".toList) 23 ∧
      SignedDecimal (trim "9223372036854775808".toList) 9223372036854775808 ∧
      (23 : Int) ≤ 9223372036854775808 ∧
      (r.clamp "9223372036854775808").value < (r.clamp "23").value := by
  intro r
  exact ⟨signedValue?_eq_some_iff.mp (by decide), signedValue?_eq_some_iff.mp (by decide),
    by decide, by decide⟩

end Range

namespace Range

variable {r : Range} {text : String}

private theorem adjusted_clamp_eq_false_iff :
    (r.clamp text).adjusted = false ↔
      ∃ v, Spells text.toList v ∧ (r.lo.toNat : Int) ≤ v ∧ v ≤ r.hi.toNat := by
  simp only [spells_iff]
  exact r.adjusted_clamp_iff text

private theorem toNat_value_clamp_of_lt {v : Int} (hv : Spells text.toList v)
    (hlt : v < int64Bound) :
    ((r.clamp text).value.toNat : Int) = max (r.lo.toNat : Int) (min v r.hi.toNat) := by
  rw [r.toNat_value_clamp (spells_iff.mp hv), if_pos hlt]

private theorem spells_value_clamp (h : (r.clamp text).adjusted = false) :
    Spells text.toList (r.clamp text).value.toNat := by
  obtain ⟨v, hv, hmin, hmax⟩ := adjusted_clamp_eq_false_iff.mp h
  have hhi := r.hi.toNat_lt
  have hlt : v < int64Bound := by
    simp only [int64Bound]
    omega
  have hvalue : ((r.clamp text).value.toNat : Int) = v := by
    rw [toNat_value_clamp_of_lt hv hlt]
    omega
  rwa [hvalue]

private theorem value_clamp_of_not_spells (h : ∀ v, ¬ Spells text.toList v) :
    (r.clamp text).value = r.lo := by
  have htyped : typedInt? text = none :=
    typedInt?_eq_none_iff.mpr fun v hv => absurd (spells_iff.mpr hv) (h v)
  simp only [clamp, htyped]

end Range

/-- Clamping between two ends in order gives every text a number between them. The text stays as it
is exactly if it spells an integer between the ends, and the number is that integer. Every integer
below the 64-bit bound goes to the nearest number, and a text that is no integer to the lower
end. -/
theorem exists_clamped_of_le {lo hi : UInt32} (h : lo ≤ hi) (text : String) :
    ∃ c, clampBetween? lo hi text = some c ∧ lo ≤ c.value ∧ c.value ≤ hi ∧
      (c.adjusted = false ↔
        ∃ v, Spells text.toList v ∧ (lo.toNat : Int) ≤ v ∧ v ≤ hi.toNat) ∧
      (c.adjusted = false → Spells text.toList c.value.toNat) ∧
      (∀ v, Spells text.toList v → v < int64Bound →
        (c.value.toNat : Int) = max (lo.toNat : Int) (min v hi.toNat)) ∧
      ((∀ v, ¬ Spells text.toList v) → c.value = lo) := by
  let r : Range := ⟨lo, hi, h⟩
  obtain ⟨hlo, hhi⟩ : r.Contains (r.clamp text).value := r.contains_clamp text
  exact ⟨r.clamp text, clampBetween?_range r text, hlo, hhi, Range.adjusted_clamp_eq_false_iff,
    Range.spells_value_clamp, fun v hv hlt => Range.toNat_value_clamp_of_lt hv hlt,
    Range.value_clamp_of_not_spells⟩

/-- The largest word, with a sign, zeros and a wide blank in front of it. -/
theorem exists_clamped_of_le_largest :
    let text := "\u3000+0004294967295\t"
    (7 : UInt32) ≤ 4294967295 ∧ Spells text.toList 4294967295 ∧
      ∃ c, clampBetween? 7 4294967295 text = some c ∧ c.value = 4294967295 ∧
        c.adjusted = false := by
  intro text
  have h : (7 : UInt32) ≤ 4294967295 := by decide
  have hv : Spells text.toList 4294967295 :=
    ⟨['\u3000'], "+0004294967295".toList, ['\t'], by decide, by decide, by decide,
      signedValue?_eq_some_iff.mp (by decide)⟩
  obtain ⟨c, hc, -, -, hkept, -, hnearest, -⟩ := exists_clamped_of_le h text
  have hvalue : (c.value.toNat : Int) = 4294967295 := hnearest 4294967295 hv (by decide)
  have hword : c.value = 4294967295 := by
    rw [← UInt32.toNat_inj]
    exact Int.ofNat_inj.mp hvalue
  exact ⟨h, hv, c, hc, hword, hkept.mpr ⟨_, hv, by decide, by decide⟩⟩

end Recurrence
