import Recurrence.Cron

/-!
# Words and numerals

A text of words with single spaces between them splits into exactly these words. The decimal form of
a number is a numeral, hence a word, and spells the number; of the numerals that spell it, it is the
one without leading zeros.
-/
namespace Recurrence.Text

/-- At least one character and none of them blank. -/
def IsWord (w : List Char) : Prop := w ≠ [] ∧ ∀ c ∈ w, isBlank c = false

instance (w : List Char) : Decidable (IsWord w) :=
  decidable_of_iff (w ≠ [] ∧ (w.all fun c => !isBlank c) = true) (by simp [IsWord])

private theorem words_append_blank (w cs : List Char) {c : Char} (hc : isBlank c = true) :
    words (w ++ c :: cs) = words w ++ words cs := by
  unfold words
  rw [List.splitOnP_append_cons w cs hc, List.filter_append]

theorem words_of_allBlank {cs : List Char} (h : allBlank cs = true) : words cs = [] := by
  induction cs with
  | nil => rfl
  | cons c cs ih =>
    simp only [allBlank, List.all_cons, Bool.and_eq_true] at h
    have hcs := words_append_blank [] cs h.1
    rw [List.nil_append] at hcs
    rw [hcs, ih h.2]
    rfl

private theorem IsWord.words_eq {w : List Char} (h : IsWord w) : words w = [w] := by
  unfold words
  rw [List.splitOnP_eq_singleton h.2]
  simp [h.1]

theorem IsWord.words_append {w : List Char} (h : IsWord w) (cs : List Char) :
    words (w ++ ' ' :: cs) = w :: words cs := by
  rw [words_append_blank w cs (by decide), h.words_eq]
  rfl

theorem intercalate_append {sep : List Char} {vs ws : List (List Char)} (hv : vs ≠ [])
    (hw : ws ≠ []) :
    sep.intercalate (vs ++ ws) = sep.intercalate vs ++ sep ++ sep.intercalate ws := by
  induction vs with
  | nil => contradiction
  | cons v vs ih =>
    cases vs with
    | nil =>
      obtain ⟨w, ws, rfl⟩ := List.exists_cons_of_ne_nil hw
      rw [List.singleton_append, List.intercalate_cons_cons, List.intercalate_singleton]
    | cons u us =>
      have hus := ih (List.cons_ne_nil u us)
      rw [List.cons_append] at hus
      simp only [List.cons_append, List.intercalate_cons_cons, hus, List.append_assoc]

theorem mem_or_exists_mem_of_mem_intercalate {sep : List Char} {ws : List (List Char)} {c : Char}
    (h : c ∈ sep.intercalate ws) : c ∈ sep ∨ ∃ w ∈ ws, c ∈ w := by
  induction ws with
  | nil => simp at h
  | cons w ws ih =>
    cases ws with
    | nil =>
      rw [List.intercalate_singleton] at h
      exact Or.inr ⟨w, List.mem_cons_self, h⟩
    | cons v vs =>
      rw [List.intercalate_cons_cons, List.mem_append, List.mem_append] at h
      rcases h with (h | h) | h
      · exact Or.inr ⟨w, List.mem_cons_self, h⟩
      · exact Or.inl h
      · refine (ih h).imp_right ?_
        rintro ⟨u, hu, hc⟩
        exact ⟨u, List.mem_cons_of_mem w hu, hc⟩

theorem words_intercalate {ws : List (List Char)} (h : ∀ w ∈ ws, IsWord w) :
    words ([' '].intercalate ws) = ws := by
  induction ws with
  | nil => rfl
  | cons w ws ih =>
    have hw : IsWord w := h w List.mem_cons_self
    cases ws with
    | nil => simpa only [List.intercalate_singleton] using hw.words_eq
    | cons v vs =>
      have hvs := ih fun u hu => h u (List.mem_cons_of_mem w hu)
      rw [List.intercalate_cons_cons, List.append_assoc, List.singleton_append, hw.words_append, hvs]

theorem isNumeral_iff {cs : List Char} :
    isNumeral cs = true ↔ cs ≠ [] ∧ ∀ c ∈ cs, c.isDigit = true := by
  simp [isNumeral]

private theorem isBlank_of_isDigit {c : Char} (h : c.isDigit = true) : isBlank c = false := by
  have hc : 48 ≤ c.toNat ∧ c.toNat ≤ 57 := Char.isDigit_iff_toNat.mp h
  simp [isBlank]
  omega

theorem isWord_of_isNumeral {cs : List Char} (h : isNumeral cs = true) : IsWord cs := by
  obtain ⟨hne, hd⟩ := isNumeral_iff.mp h
  exact ⟨hne, fun c hc => isBlank_of_isDigit (hd c hc)⟩

theorem isDigit_or_eq_comma {ns : List (List Char)} (hns : ∀ n ∈ ns, isNumeral n = true) {c : Char}
    (hc : c ∈ [','].intercalate ns) : c.isDigit = true ∨ c = ',' := by
  rcases mem_or_exists_mem_of_mem_intercalate hc with hc | ⟨n, hn, hc⟩
  · exact Or.inr (List.mem_singleton.mp hc)
  · exact Or.inl ((isNumeral_iff.mp (hns n hn)).2 c hc)

theorem isWord_intercalate_comma {ns : List (List Char)} (hne : ns ≠ [])
    (hns : ∀ n ∈ ns, isNumeral n = true) : IsWord ([','].intercalate ns) := by
  refine ⟨?_, ?_⟩
  · cases ns with
    | nil => contradiction
    | cons n ns =>
      have hn := (isNumeral_iff.mp (hns n List.mem_cons_self)).1
      cases ns with
      | nil => rwa [List.intercalate_singleton]
      | cons m ms => simp [List.intercalate_cons_cons]
  · intro c hc
    rcases isDigit_or_eq_comma hns hc with hd | rfl
    · exact isBlank_of_isDigit hd
    · decide

theorem notMem_of_isNumeral {cs : List Char} {c : Char} (h : isNumeral cs = true)
    (hc : c.isDigit = false) : c ∉ cs := by
  intro hm
  have hd := (isNumeral_iff.mp h).2 c hm
  rw [hc] at hd
  contradiction

theorem takeWhile_append_of_head? {p : Char → Bool} {w rest : List Char}
    (hw : ∀ c ∈ w, p c = true) (hrest : ∀ c ∈ rest.head?, p c = false) :
    (w ++ rest).takeWhile p = w ∧ (w ++ rest).dropWhile p = rest := by
  rw [List.takeWhile_append_of_pos hw, List.dropWhile_append_of_pos hw]
  cases rest with
  | nil => simp
  | cons c rest =>
    have hc : p c = false := hrest c rfl
    simp [hc]

theorem takeWhile_isDigit_append {n rest : List Char} (hn : isNumeral n = true)
    (hrest : ∀ c ∈ rest.head?, c.isDigit = false) :
    (n ++ rest).takeWhile Char.isDigit = n ∧ (n ++ rest).dropWhile Char.isDigit = rest :=
  takeWhile_append_of_head? (isNumeral_iff.mp hn).2 hrest

theorem splitOn_intercalate_comma {ns : List (List Char)} (hne : ns ≠ [])
    (hns : ∀ n ∈ ns, isNumeral n = true) : ([','].intercalate ns).splitOn ',' = ns :=
  List.splitOn_intercalate ',' (fun n hn => notMem_of_isNumeral (hns n hn) (by decide)) hne

theorem isNumeral_repr (n : Nat) : isNumeral n.repr.toList = true := by
  rw [isNumeral_iff, Nat.toList_repr]
  exact ⟨Nat.toDigits_ne_nil, fun c hc => Nat.isDigit_of_mem_toDigits (by decide) (by decide) hc⟩

theorem numeralValue_toDigits (n : Nat) : numeralValue (Nat.toDigits 10 n) = n :=
  Nat.ofDigitChars_ten_toDigits

theorem numeralValue_repr (n : Nat) : numeralValue n.repr.toList = n := by
  rw [Nat.toList_repr, numeralValue_toDigits]

private theorem exists_digitChar {c : Char} (h : c.isDigit = true) :
    ∃ k < 10, c = Nat.digitChar k := by
  have hc : 48 ≤ c.toNat ∧ c.toNat ≤ 57 := Char.isDigit_iff_toNat.mp h
  have hk : c.toNat - 48 < 10 := by omega
  refine ⟨c.toNat - 48, hk, ?_⟩
  apply Char.toNat_inj.mp
  rw [Nat.toNat_digitChar_of_lt_ten hk]
  omega

private theorem toDigits_append {cs : List Char} (hcs : ∀ c ∈ cs, c.isDigit = true) {v : Nat}
    (hv : 0 < v) : Nat.toDigits 10 v ++ cs = Nat.toDigits 10 (Nat.ofDigitChars 10 cs v) := by
  induction cs generalizing v with
  | nil => simp
  | cons c cs ih =>
    obtain ⟨k, hk, rfl⟩ := exists_digitChar (hcs c List.mem_cons_self)
    have hpos : 0 < 10 * v + k := by omega
    have hrest := ih (fun c hc => hcs c (List.mem_cons_of_mem _ hc)) hpos
    rw [Nat.ofDigitChars_cons_digitChar_of_lt_ten hk, ← hrest,
      ← Nat.toDigits_append_toDigits (by decide) hv hk, Nat.toDigits_of_lt_base hk,
      List.append_assoc]
    rfl

theorem toList_repr_numeralValue {n : List Char} (hn : isNumeral n = true)
    (hzero : n.head? = some '0' → n = ['0']) : (numeralValue n).repr.toList = n := by
  obtain ⟨hne, hdigits⟩ := isNumeral_iff.mp hn
  cases n with
  | nil => contradiction
  | cons c cs =>
    obtain ⟨k, hk, rfl⟩ := exists_digitChar (hdigits c List.mem_cons_self)
    rw [Nat.toList_repr, numeralValue, Nat.ofDigitChars_cons_digitChar_of_lt_ten hk]
    cases k with
    | zero =>
      obtain ⟨-, rfl⟩ := List.cons.inj (hzero rfl)
      rfl
    | succ k =>
      rw [Nat.mul_zero, Nat.zero_add,
        ← toDigits_append (fun c hc => hdigits c (List.mem_cons_of_mem _ hc)) k.succ_pos,
        Nat.toDigits_of_lt_base hk]
      rfl

theorem eq_zero_of_head?_toDigits {v : Nat}
    (h : (Nat.toDigits 10 v).head? = some '0') : v = 0 := by
  induction v using Nat.base_induction 10 (by decide) with
  | single v hv => simpa [Nat.toDigits_of_lt_base hv] using h
  | digit v k hk hv ih =>
    rw [← Nat.toDigits_append_toDigits (by decide) hv hk] at h
    cases hdigits : Nat.toDigits 10 v with
    | nil => exact absurd hdigits Nat.toDigits_ne_nil
    | cons c cs =>
      rw [hdigits] at h ih
      have hzero := ih h
      omega

theorem word?_eq_some_iff {cs : List Char} {n : UInt32} :
    word? cs = some n ↔ isNumeral cs = true ∧ numeralValue cs = n.toNat := by
  unfold word?
  constructor
  · intro h
    split at h
    case isTrue hc =>
      simp only [Bool.and_eq_true, decide_eq_true_eq] at hc
      obtain rfl := Option.some.inj h
      exact ⟨hc.1, (UInt32.toNat_ofNat_of_lt' hc.2).symm⟩
    case isFalse => contradiction
  · rintro ⟨hn, hv⟩
    simp [hn, hv, n.toNat_lt]

theorem word?_of_numeralValue_lt {cs : List Char} (hn : isNumeral cs = true)
    (hv : numeralValue cs < UInt32.size) : word? cs = some (UInt32.ofNat (numeralValue cs)) :=
  word?_eq_some_iff.mpr ⟨hn, (UInt32.toNat_ofNat_of_lt' hv).symm⟩

theorem isNumeral_of_word? {cs : List Char} {n : UInt32} (h : word? cs = some n) :
    isNumeral cs = true := (word?_eq_some_iff.mp h).1

theorem isNumeral_ofWord (n : UInt32) : isNumeral (ofWord n).toList = true :=
  isNumeral_repr n.toNat

theorem numeralValue_ofWord (n : UInt32) : numeralValue (ofWord n).toList = n.toNat :=
  numeralValue_repr n.toNat

end Recurrence.Text
