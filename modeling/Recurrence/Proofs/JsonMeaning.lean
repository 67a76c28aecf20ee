import Recurrence.Json.Decode
import Recurrence.Proofs.Attempt
import Recurrence.Proofs.JsonText

/-!
# What JSON values mean

A value says a text, a word or the name of a variant if it has the right form, and the decoders
accept exactly the values that do. What nobody asks for is passed over, whatever its form.
-/
namespace Recurrence.Json

/-- The characters of a string. An escaped surrogate stands in a pair, which is one character. -/
inductive SaysChars : List Piece → List Char → Prop where
  | nil : SaysChars [] []
  | char {c : Char} {ps : List Piece} {cs : List Char} (h : SaysChars ps cs) :
      SaysChars (.char c :: ps) (c :: cs)
  | unit {n : Nat} {ps : List Piece} {cs : List Char} (hlead : isLeadSurrogate n = false)
      (htrail : isTrailSurrogate n = false) (h : SaysChars ps cs) :
      SaysChars (.unit n :: ps) (Char.ofNat n :: cs)
  | pair {m n : Nat} {c : Char} {ps : List Piece} {cs : List Char}
      (hlead : isLeadSurrogate m = true) (htrail : isTrailSurrogate n = true)
      (hc : c.toNat = 0x10000 + (m - 0xD800) * 0x400 + (n - 0xDC00)) (h : SaysChars ps cs) :
      SaysChars (.unit m :: .unit n :: ps) (c :: cs)

namespace Tree

/-- A string that says `s`. -/
def IsString (t : Tree) (s : String) : Prop := ∃ ps, t = .string ⟨ps, none⟩ ∧ SaysChars ps s.toList

/-- An integer without sign, point and exponent. -/
def IsWord (t : Tree) (n : UInt32) : Prop :=
  ∃ ds, t = .number ⟨false, ds, [], none⟩ ∧ Text.numeralValue ds = n.toNat

/-- A name, or an object with the name alone and null behind it. -/
def IsVariant (t : Tree) (name : String) : Prop :=
  t.IsString name ∨ ∃ key, t = .object [(key, .null)] none ∧ key.IsString name

end Tree

@[simp] theorem ofFault_ok {α : Type} (a : α) : ofFault (.ok a) = .ok a := rfl

private theorem ofFault_eq_ok_iff {α : Type} {r : Except Fault α} {a : α} :
    ofFault r = .ok a ↔ r = .ok a := by
  cases r <;> simp [ofFault, Except.mapError]

private theorem noFault_eq_ok_iff {stop : Option Fault} {u : Unit} :
    noFault stop = .ok u ↔ stop = none := by
  cases stop <;> simp [noFault]

private theorem pairedChar_eq_iff {m n : Nat} {c : Char} (hlead : isLeadSurrogate m = true)
    (htrail : isTrailSurrogate n = true) :
    pairedChar m n = c ↔ c.toNat = 0x10000 + (m - 0xD800) * 0x400 + (n - 0xDC00) := by
  simp only [isLeadSurrogate, isTrailSurrogate, Bool.and_eq_true, decide_eq_true_eq] at hlead htrail
  have hvalid : (0x10000 + (m - 0xD800) * 0x400 + (n - 0xDC00)).isValidChar :=
    Or.inr ⟨by omega, by omega⟩
  have hcode : (pairedChar m n).toNat = 0x10000 + (m - 0xD800) * 0x400 + (n - 0xDC00) := by
    rw [pairedChar, Char.ofNat, dif_pos hvalid]
    rfl
  rw [← Char.toNat_inj, hcode, eq_comm]

private theorem piecesText_eq_ok_iff {stop : Option Fault} {ps : List Piece} {cs : List Char} :
    piecesText stop ps = .ok cs ↔ stop = none ∧ SaysChars ps cs := by
  constructor
  · intro h
    fun_induction piecesText stop ps generalizing cs with
    | case1 =>
      cases stop with
      | none =>
        obtain rfl := Except.ok.inj h
        exact ⟨rfl, .nil⟩
      | some f => contradiction
    | case2 c ps ih =>
      obtain ⟨cs, hcs, rfl⟩ := map_eq_ok_iff.mp h
      obtain ⟨hstop, hsays⟩ := ih hcs
      exact ⟨hstop, .char hsays⟩
    | case3 n hlead m ps htrail ih =>
      obtain ⟨cs, hcs, rfl⟩ := map_eq_ok_iff.mp h
      obtain ⟨hstop, hsays⟩ := ih hcs
      exact ⟨hstop, .pair hlead htrail ((pairedChar_eq_iff hlead htrail).mp rfl) hsays⟩
    | case8 n ps hlead htrail ih =>
      obtain ⟨cs, hcs, rfl⟩ := map_eq_ok_iff.mp h
      obtain ⟨hstop, hsays⟩ := ih hcs
      exact ⟨hstop, .unit (Bool.eq_false_iff.mpr hlead) (Bool.eq_false_iff.mpr htrail) hsays⟩
    | case4 | case5 | case6 | case7 => contradiction
  · rintro ⟨rfl, h⟩
    induction h with
    | nil => rfl
    | char _ ih => simp [piecesText, ih]
    | unit hlead htrail _ ih =>
      rw [piecesText.eq_def]
      simp [hlead, htrail, ih]
    | pair hlead htrail hc _ ih =>
      simp [piecesText, hlead, htrail, ih, (pairedChar_eq_iff hlead htrail).mpr hc]

namespace Tree

private theorem text_quoted_eq_ok_iff {q : Quoted} {s : String} :
    q.text = .ok s ↔ (Tree.string q).IsString s := by
  obtain ⟨ps, stop⟩ := q
  simp only [Quoted.text, map_eq_ok_iff, piecesText_eq_ok_iff, IsString, Tree.string.injEq,
    Quoted.mk.injEq]
  constructor
  · rintro ⟨cs, ⟨rfl, hsays⟩, rfl⟩
    exact ⟨ps, ⟨rfl, rfl⟩, by rwa [String.toList_ofList]⟩
  · rintro ⟨_, ⟨rfl, rfl⟩, hsays⟩
    exact ⟨s.toList, ⟨rfl, hsays⟩, s.ofList_toList⟩

theorem memberName_eq_ok_iff {t : Tree} {s : String} : t.memberName = .ok s ↔ t.IsString s := by
  cases t with
  | string q => exact text_quoted_eq_ok_iff
  | _ => simp [memberName, IsString]

private theorem mistyped_ne_ok {α : Type} (t : Tree) (expected : String) (a : α) :
    t.mistyped expected ≠ .ok a := by
  intro h
  obtain ⟨_, -, h⟩ := bind_eq_ok_iff.mp h
  contradiction

theorem text_eq_ok_iff {t : Tree} {s : String} : t.text = .ok s ↔ t.IsString s := by
  cases t with
  | string q => rw [text, ofFault_eq_ok_iff, text_quoted_eq_ok_iff]
  | _ => simp [text, IsString, mistyped_ne_ok]

private theorem scalar_eq_integer_iff {n : Numeral} {v : Int} :
    n.scalar = .ok (.integer v) ↔ n.integer? = some v := by
  unfold Numeral.scalar
  cases n.integer? with
  | some v' => simp
  | none => cases n.toFloat <;> simp [Except.map]

private theorem integer?_eq_natCast_iff {n : Numeral} {k : Nat} :
    n.integer? = some (k : Int) ↔
      ∃ ds, n = ⟨false, ds, [], none⟩ ∧ Text.numeralValue ds = k ∧ k < UInt64.size := by
  obtain ⟨negative, whole, fraction, exponent⟩ := n
  constructor
  · intro h
    simp only [Numeral.integer?] at h
    split at h
    · contradiction
    next hplain =>
      simp only [ne_eq, Bool.or_eq_true, decide_eq_true_eq, Option.isSome_iff_ne_none, not_or,
        not_not] at hplain
      obtain ⟨rfl, rfl⟩ := hplain
      split at h
      · -- What has a sign is below zero.
        obtain ⟨hpos, h⟩ := Option.ite_none_right_eq_some.mp h
        have hneg := Option.some.inj h
        simp only [Bool.and_eq_true, decide_eq_true_eq] at hpos
        omega
      next hsign =>
        obtain ⟨hfits, h⟩ := Option.ite_none_right_eq_some.mp h
        have hvalue : Text.numeralValue whole = k := Int.ofNat.inj (Option.some.inj h)
        rw [Bool.not_eq_true] at hsign
        exact ⟨whole, by rw [hsign], hvalue, hvalue ▸ hfits⟩
  · rintro ⟨ds, hn, rfl, hfits⟩
    obtain ⟨rfl, rfl, rfl, rfl⟩ := Numeral.mk.inj hn
    simp [Numeral.integer?, hfits]

theorem scalar_of_numeralValue {ds : List Char} {w : UInt32}
    (h : Text.numeralValue ds = w.toNat) :
    (Numeral.mk false ds [] none).scalar = .ok (.integer w.toNat) := by
  have hfits : w.toNat < UInt64.size := Nat.lt_trans w.toNat_lt (by decide)
  exact scalar_eq_integer_iff.mpr (integer?_eq_natCast_iff.mpr ⟨ds, rfl, h, hfits⟩)

theorem word_eq_ok_iff {t : Tree} {w : UInt32} : t.word = .ok w ↔ t.IsWord w := by
  have hlt : w.toNat < UInt32.size := w.toNat_lt
  constructor
  · intro h
    cases t with
    | number n =>
      obtain ⟨v, hv, h⟩ := bind_eq_ok_iff.mp h
      rw [ofFault_eq_ok_iff] at hv
      cases v with
      | integer v =>
        dsimp only at h
        split at h
        next hrange =>
          simp only [Bool.and_eq_true, decide_eq_true_eq] at hrange
          have hw := Except.ok.inj h
          obtain ⟨k, rfl⟩ := Int.eq_ofNat_of_zero_le hrange.1
          obtain ⟨ds, rfl, hds, -⟩ := integer?_eq_natCast_iff.mp (scalar_eq_integer_iff.mp hv)
          refine ⟨ds, rfl, ?_⟩
          rw [hds, ← hw, Int.toNat_natCast, UInt32.toNat_ofNat_of_lt']
          omega
        · contradiction
      | _ => contradiction
    | _ => exact absurd h (mistyped_ne_ok _ _ _)
  · rintro ⟨ds, rfl, hds⟩
    have hrange : (0 ≤ (w.toNat : Int) && (w.toNat : Int) < (UInt32.size : Int)) = true := by
      simp only [Bool.and_eq_true, decide_eq_true_eq]
      omega
    refine bind_eq_ok_iff.mpr ⟨_, ofFault_eq_ok_iff.mpr (scalar_of_numeralValue hds), ?_⟩
    simp only [hrange, if_true, Int.toNat_natCast, UInt32.ofNat_toNat]

private theorem truth_eq_ok_iff {t : Tree} {b : Bool} : t.truth = .ok b ↔ t = .bool b := by
  cases t with
  | bool a => simp [truth]
  | _ => simp [truth, mistyped_ne_ok]

private theorem readExactly_eq_ok_iff {α : Type} {read : Tree → Decoded α} {expected : String}
    {stop : Option Fault} {n done : Nat} {ts : List Tree} {as : List α} :
    readExactly read expected stop n done ts = .ok as ↔
      stop = none ∧ ts.length = n ∧ ts.mapM read = .ok as := by
  induction ts generalizing n done as with
  | nil =>
    cases n with
    | zero =>
      cases stop <;>
        simp [readExactly, ofFault, noFault, Except.mapError, Except.map, pure, Except.pure]
    | succ n =>
      simp only [readExactly, bind_eq_ok_iff]
      simp [mismatch]
  | cons t ts ih =>
    cases n with
    | zero => simp [readExactly]
    | succ n =>
      simp only [readExactly, bind_eq_ok_iff, ih, List.mapM_cons, List.length_cons,
        Nat.add_right_cancel_iff]
      constructor
      · rintro ⟨b, hb, bs, ⟨rfl, hlength, hbs⟩, h⟩
        exact ⟨rfl, hlength, b, hb, bs, hbs, h⟩
      · rintro ⟨rfl, hlength, b, hb, bs, hbs, h⟩
        exact ⟨b, hb, bs, ⟨rfl, hlength, hbs⟩, h⟩

theorem arrayOf_truth_eq_ok_iff {n : Nat} {t : Tree} {bs : List Bool} :
    t.arrayOf n truth = .ok bs ↔ t = .array (bs.map .bool) none ∧ bs.length = n := by
  have hread (ts : List Tree) : ts.mapM truth = .ok bs ↔ ts = bs.map .bool := by
    simp only [mapM_eq_ok_iff, truth_eq_ok_iff]
    rw [← List.forall₂_eq_eq_eq, List.forall₂_map_right_iff]
  cases t with
  | array ts stop =>
    simp only [arrayOf, readExactly_eq_ok_iff, hread, Tree.array.injEq]
    constructor
    · rintro ⟨rfl, rfl, rfl⟩
      simp
    · rintro ⟨⟨rfl, rfl⟩, rfl⟩
      simp
  | _ => simp [arrayOf, mistyped_ne_ok]

private theorem knownVariant_eq_ok_iff {known : List String} {name name' : String} :
    knownVariant known name = .ok name' ↔ name = name' ∧ name' ∈ known := by
  unfold knownVariant
  split
  next h =>
    rw [List.contains_iff_mem] at h
    simp only [Except.ok.injEq]
    exact ⟨fun hname => ⟨hname, hname ▸ h⟩, And.left⟩
  next h =>
    rw [List.contains_iff_mem] at h
    simp only [mismatch, reduceCtorEq, false_iff]
    rintro ⟨rfl, hname⟩
    exact h hname

theorem variantName_eq_ok_iff {known : List String} {t : Tree} {name : String} :
    t.variantName known = .ok name ↔ t.IsString name ∧ name ∈ known := by
  cases t with
  | string q =>
    simp only [variantName, bind_eq_ok_iff, ofFault_eq_ok_iff, text_quoted_eq_ok_iff,
      knownVariant_eq_ok_iff]
    constructor
    · rintro ⟨_, hname, rfl, hknown⟩
      exact ⟨hname, hknown⟩
    · rintro ⟨hname, hknown⟩
      exact ⟨name, hname, rfl, hknown⟩
  | _ => simp [variantName, IsString, mistyped_ne_ok]

private theorem unit_eq_ok_iff {t : Tree} {u : Unit} : t.unit = .ok u ↔ t = .null := by
  cases t with
  | null => simp [unit]
  | _ => simp [unit, mistyped_ne_ok]

theorem plainVariant_eq_ok_iff {known : List String} {t : Tree} {name : String} :
    t.plainVariant known = .ok name ↔ t.IsVariant name ∧ name ∈ known := by
  match t with
  | .string q => simp [plainVariant, variantName_eq_ok_iff, IsVariant]
  | .object [] stop => simp [plainVariant, IsVariant, IsString]
  | .object ((key, t) :: (_ :: _)) stop =>
    simp [plainVariant, bind_eq_ok_iff, IsVariant, IsString, throw, throwThe, MonadExceptOf.throw]
  | .object [(key, t)] stop =>
    simp only [plainVariant, bind_eq_ok_iff, ofFault_eq_ok_iff, memberName_eq_ok_iff,
      knownVariant_eq_ok_iff, unit_eq_ok_iff, List.isEmpty_nil, Bool.not_true, Bool.false_eq_true,
      if_false, noFault_eq_ok_iff]
    constructor
    · rintro ⟨_, hname, name, ⟨rfl, hknown⟩, _, rfl, _, rfl, h⟩
      obtain rfl := Except.ok.inj h
      exact ⟨.inr ⟨key, rfl, hname⟩, hknown⟩
    · rintro ⟨h | ⟨key', hobject, hname⟩, hknown⟩
      · obtain ⟨ps, h, -⟩ := h
        contradiction
      · obtain ⟨⟨rfl, rfl⟩, rfl⟩ : (key = key' ∧ t = .null) ∧ stop = none := by simpa using hobject
        exact ⟨name, hname, name, ⟨rfl, hknown⟩, (), rfl, (), rfl, rfl⟩
  | .null | .bool _ | .number _ | .cutNumber | .cutWord | .array _ _ | .fault _ =>
    simp [plainVariant, IsVariant, IsString]

end Tree

theorem isString_quoted (s : String) : (Tree.string (quoted s)).IsString s :=
  Tree.text_quoted_eq_ok_iff.mp (text_quoted s)

theorem text_tree_string (s : String) : (Value.string s).tree.text = .ok s :=
  Tree.text_eq_ok_iff.mpr (isString_quoted s)

theorem word_tree_number (n : UInt32) : (Value.number n.toNat).tree.word = .ok n :=
  Tree.word_eq_ok_iff.mpr ⟨_, rfl, Text.numeralValue_toDigits n.toNat⟩

def Phrase.Skips : Phrase → Prop
  | value t => t.skip = .ok ()
  | element t => t.skip = .ok ()
  | elements ts => Tree.skipItems ts = .ok ()
  | member name t => Tree.skipMember (name, t) = .ok ()
  | members ms => Tree.skipMembers ms = .ok ()

theorem Phrase.SpelledAs.skips {p : Phrase} {cs : List Char} (h : p.SpelledAs cs) : p.Skips := by
  induction h with
  | nullWord | trueWord | falseWord | number | string | emptyArray | emptyObject => rfl
  | array h ih =>
    rw [Skips, Tree.skip]
    exact bind_eq_ok_iff.mpr ⟨(), ih, rfl⟩
  | object h ih =>
    rw [Skips, Tree.skip]
    exact bind_eq_ok_iff.mpr ⟨(), ih, rfl⟩
  | padded hbefore h hafter ih => exact ih
  | oneElement h ih =>
    rw [Skips, Tree.skipItems]
    exact bind_eq_ok_iff.mpr ⟨(), ih, rfl⟩
  | moreElements h hts ih ihts =>
    rw [Skips, Tree.skipItems]
    exact bind_eq_ok_iff.mpr ⟨(), ih, ihts⟩
  | named hbefore hname hafter h ih =>
    rw [Skips, Tree.skipMember]
    exact bind_eq_ok_iff.mpr ⟨(), rfl, ih⟩
  | oneMember h ih =>
    rw [Skips, Tree.skipMembers]
    exact bind_eq_ok_iff.mpr ⟨(), ih, rfl⟩
  | moreMembers h hms ih ihms =>
    rw [Skips, Tree.skipMembers]
    exact bind_eq_ok_iff.mpr ⟨(), ih, ihms⟩

end Recurrence.Json
