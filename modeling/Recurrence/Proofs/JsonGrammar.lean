import Mathlib.Data.List.DropRight
import Recurrence.Json.Reader
import Recurrence.Proofs.Lexeme

/-!
# The grammar of JSON texts

What a text of the format looks like, rule by rule, and the tree that it stands for. The reader gets
that tree from every such text, whatever the white space, the escapes and the depth of nesting. Its
fuel is spent at most twice for each character.
-/
namespace Recurrence.Json

open Text

/-- White space only. -/
def IsGap (cs : List Char) : Prop := ∀ c ∈ cs, isSpace c = true

/-- The characters between the quotes of a string, and the pieces that they spell. -/
inductive SpelledPieces : List Piece → List Char → Prop where
  | nil : SpelledPieces [] []
  | plain {c : Char} {ps : List Piece} {cs : List Char} (hquote : c ≠ '"') (hescape : c ≠ '\\')
      (hcontrol : 0x20 ≤ c.toNat) (h : SpelledPieces ps cs) :
      SpelledPieces (.char c :: ps) (c :: cs)
  | short {c e : Char} {ps : List Piece} {cs : List Char} (he : shortEscape? c = some e)
      (h : SpelledPieces ps cs) : SpelledPieces (.char e :: ps) ('\\' :: c :: cs)
  | unit {a b c d : Char} {n : Nat} {ps : List Piece} {cs : List Char}
      (hn : hexUnit? a b c d = some n) (h : SpelledPieces ps cs) :
      SpelledPieces (.unit n :: ps) ('\\' :: 'u' :: a :: b :: c :: d :: cs)

/-- A point with digits behind it, or nothing. -/
inductive SpelledFraction : List Char → List Char → Prop where
  | none : SpelledFraction [] []
  | digits {ds : List Char} (h : isNumeral ds = true) : SpelledFraction ds ('.' :: ds)

/-- The letter e with a sign if one likes and digits behind it, or nothing. -/
inductive SpelledExponent : Option (Bool × List Char) → List Char → Prop where
  | none : SpelledExponent .none []
  | plain {e : Char} {ds : List Char} (he : e = 'e' ∨ e = 'E') (h : isNumeral ds = true) :
      SpelledExponent (some (false, ds)) (e :: ds)
  | plus {e : Char} {ds : List Char} (he : e = 'e' ∨ e = 'E') (h : isNumeral ds = true) :
      SpelledExponent (some (false, ds)) (e :: '+' :: ds)
  | minus {e : Char} {ds : List Char} (he : e = 'e' ∨ e = 'E') (h : isNumeral ds = true) :
      SpelledExponent (some (true, ds)) (e :: '-' :: ds)

/-- A number. Its whole part begins with zero only if it is zero. -/
inductive SpelledNumeral : Numeral → List Char → Prop where
  | mk (negative : Bool) {whole fraction point tail : List Char}
      {exponent : Option (Bool × List Char)} (hwhole : isNumeral whole = true)
      (hzero : whole.head? = some '0' → whole = ['0']) (hpoint : SpelledFraction fraction point)
      (htail : SpelledExponent exponent tail) :
      SpelledNumeral ⟨negative, whole, fraction, exponent⟩
        ((if negative then ['-'] else []) ++ whole ++ point ++ tail)

/-- What the rules of the grammar derive. An element is a value with white space around it. -/
inductive Phrase where
  | value (t : Tree)
  | element (t : Tree)
  | elements (ts : List Tree)
  | member (name t : Tree)
  | members (ms : List (Tree × Tree))

/-- The texts of a phrase. -/
inductive Phrase.SpelledAs : Phrase → List Char → Prop where
  | nullWord : (value .null).SpelledAs ['n', 'u', 'l', 'l']
  | trueWord : (value (.bool true)).SpelledAs ['t', 'r', 'u', 'e']
  | falseWord : (value (.bool false)).SpelledAs ['f', 'a', 'l', 's', 'e']
  | number {n : Numeral} {cs : List Char} (h : SpelledNumeral n cs) :
      (value (.number n)).SpelledAs cs
  | string {ps : List Piece} {cs : List Char} (h : SpelledPieces ps cs) :
      (value (.string ⟨ps, none⟩)).SpelledAs ('"' :: cs ++ ['"'])
  | emptyArray {ws : List Char} (hws : IsGap ws) :
      (value (.array [] none)).SpelledAs ('[' :: ws ++ [']'])
  | array {ts : List Tree} {cs : List Char} (h : (elements ts).SpelledAs cs) :
      (value (.array ts none)).SpelledAs ('[' :: cs ++ [']'])
  | emptyObject {ws : List Char} (hws : IsGap ws) :
      (value (.object [] none)).SpelledAs ('{' :: ws ++ ['}'])
  | object {ms : List (Tree × Tree)} {cs : List Char} (h : (members ms).SpelledAs cs) :
      (value (.object ms none)).SpelledAs ('{' :: cs ++ ['}'])
  | padded {t : Tree} {before cs after : List Char} (hbefore : IsGap before)
      (h : (value t).SpelledAs cs) (hafter : IsGap after) :
      (element t).SpelledAs (before ++ cs ++ after)
  | oneElement {t : Tree} {cs : List Char} (h : (element t).SpelledAs cs) :
      (elements [t]).SpelledAs cs
  | moreElements {t : Tree} {ts : List Tree} {cs ds : List Char} (h : (element t).SpelledAs cs)
      (hts : (elements ts).SpelledAs ds) : (elements (t :: ts)).SpelledAs (cs ++ ',' :: ds)
  | named {ps : List Piece} {t : Tree} {before cs after ds : List Char} (hbefore : IsGap before)
      (hname : SpelledPieces ps cs) (hafter : IsGap after) (h : (element t).SpelledAs ds) :
      (member (.string ⟨ps, none⟩) t).SpelledAs (before ++ '"' :: cs ++ '"' :: after ++ ':' :: ds)
  | oneMember {name t : Tree} {cs : List Char} (h : (member name t).SpelledAs cs) :
      (members [(name, t)]).SpelledAs cs
  | moreMembers {name t : Tree} {ms : List (Tree × Tree)} {cs ds : List Char}
      (h : (member name t).SpelledAs cs) (hms : (members ms).SpelledAs ds) :
      (members ((name, t) :: ms)).SpelledAs (cs ++ ',' :: ds)

/-- The text is JSON and stands for the tree. -/
def IsText (s : String) (t : Tree) : Prop := (Phrase.element t).SpelledAs s.toList

private theorem skipSpace_append {ws : List Char} (h : IsGap ws) (cs : List Char) :
    skipSpace (ws ++ cs) = skipSpace cs := List.dropWhile_append_of_pos h

@[simp] private theorem skipSpace_cons {c : Char} (h : isSpace c = false) (cs : List Char) :
    skipSpace (c :: cs) = c :: cs := by
  simp [skipSpace, h]

private theorem readValue_skipSpace (fuel : Nat) (cs : List Char) :
    readValue fuel (skipSpace cs) = readValue fuel cs := by
  have hspace : skipSpace (skipSpace cs) = skipSpace cs := List.dropWhile_idempotent _ cs
  cases fuel with
  | zero => rfl
  | succ fuel => rw [readValue, readValue, hspace]

private theorem readItems_skipSpace (fuel : Nat) (cs : List Char) :
    readItems fuel (skipSpace cs) = readItems fuel cs := by
  cases fuel with
  | zero => rfl
  | succ fuel => rw [readItems, readItems, readValue_skipSpace]

private theorem readMembers_skipSpace (fuel : Nat) (cs : List Char) :
    readMembers fuel (skipSpace cs) = readMembers fuel cs := by
  cases fuel with
  | zero => rfl
  | succ fuel => rw [readMembers, readMembers, readValue_skipSpace]

private theorem readValue_gap {ws : List Char} (h : IsGap ws) (fuel : Nat) (cs : List Char) :
    readValue fuel (ws ++ cs) = readValue fuel cs := by
  cases fuel with
  | zero => rfl
  | succ fuel => rw [readValue, readValue, skipSpace_append h]

private theorem SpelledPieces.readQuoted {ps : List Piece} {cs : List Char}
    (h : SpelledPieces ps cs)
    (rest : List Char) : readQuoted (cs ++ '"' :: rest) = (⟨ps, none⟩, rest) := by
  induction h with
  | nil => rfl
  | plain hquote hescape hcontrol _ ih =>
    simp [Json.readQuoted, hescape, Nat.not_lt.mpr hcontrol, ih, consPiece]
  | @short c e _ _ he _ ih =>
    have hc : c ≠ 'u' := by
      rintro rfl
      contradiction
    simp [Json.readQuoted, hc, he, ih, consPiece]
  | unit hn _ ih => simp [Json.readQuoted, hn, ih, consPiece]

private theorem SpelledPieces.readValue {ps : List Piece} {cs : List Char} (h : SpelledPieces ps cs)
    (fuel : Nat) (rest : List Char) :
    readValue (fuel + 1) ('"' :: (cs ++ '"' :: rest)) = (.string ⟨ps, none⟩, rest) := by
  have hread := h.readQuoted rest
  rw [Json.readValue, skipSpace_cons rfl]
  simp only [hread]

/-- A text that does not carry on a number in front of it. -/
def Ends (cs : List Char) : Prop :=
  ∀ c ∈ cs.head?, c.isDigit = false ∧ c ≠ '.' ∧ c ≠ 'e' ∧ c ≠ 'E'

private theorem ends_cons {c : Char} (hc : c.isDigit = false ∧ c ≠ '.' ∧ c ≠ 'e' ∧ c ≠ 'E')
    (cs : List Char) : Ends (c :: cs) := by
  rintro _ ⟨⟩
  exact hc

private theorem Ends.gap {ws rest : List Char} (hws : IsGap ws) (h : Ends rest) :
    Ends (ws ++ rest) := by
  cases ws with
  | nil => exact h
  | cons c ws =>
    have hspace := hws c List.mem_cons_self
    simp only [isSpace, Bool.or_eq_true, beq_iff_eq] at hspace
    rcases hspace with ((rfl | rfl) | rfl) | rfl <;> exact ends_cons (by decide) _

private theorem readDigits_append {ds : List Char} (hds : isNumeral ds = true) {rest : List Char}
    (h : ∀ c ∈ rest.head?, c.isDigit = false) : readDigits (ds ++ rest) = .ok (ds, rest) := by
  obtain ⟨htake, hdrop⟩ := takeWhile_isDigit_append hds h
  unfold readDigits
  rw [htake, hdrop]
  cases ds with
  | nil => exact absurd rfl (isNumeral_iff.mp hds).1
  | cons d ds => rfl

private theorem ne_of_isDigit {c d : Char} (hc : c.isDigit = true) (hd : d.isDigit = false) :
    c ≠ d := by
  rintro rfl
  exact absurd (hc.symm.trans hd) (by decide)

private theorem exists_cons_of_isNumeral {ds : List Char} (h : isNumeral ds = true) :
    ∃ c cs, ds = c :: cs ∧ c.isDigit = true := by
  obtain ⟨hne, hdigits⟩ := isNumeral_iff.mp h
  obtain ⟨c, cs, rfl⟩ := List.exists_cons_of_ne_nil hne
  exact ⟨c, cs, rfl, hdigits c List.mem_cons_self⟩

private theorem SpelledFraction.readFraction {ds cs rest : List Char} (h : SpelledFraction ds cs)
    (hrest : ∀ c ∈ rest.head?, c.isDigit = false ∧ c ≠ '.') :
    readFraction (cs ++ rest) = .ok (ds, rest) := by
  cases h with
  | none =>
    cases rest with
    | nil => rfl
    | cons c cs => simp [Json.readFraction, (hrest c rfl).2]
  | digits hds => exact readDigits_append hds fun c hc => (hrest c hc).1

private theorem SpelledExponent.readExponent {e : Option (Bool × List Char)} {cs rest : List Char}
    (h : SpelledExponent e cs) (hrest : Ends rest) :
    readExponent (cs ++ rest) = .ok (e, rest) := by
  cases h with
  | none =>
    cases rest with
    | nil => rfl
    | cons c cs => simp [Json.readExponent, (hrest c rfl).2]
  | @plain e ds he hds =>
    have hread := readDigits_append hds fun c hc => (hrest c hc).1
    obtain ⟨d, ds, rfl, hd⟩ := exists_cons_of_isNumeral hds
    have hminus : d ≠ '-' := ne_of_isDigit hd rfl
    have hplus : d ≠ '+' := ne_of_isDigit hd rfl
    rw [List.cons_append] at hread ⊢
    simp [Json.readExponent, he, hminus, hplus, hread]
  | @plus e ds he hds =>
    have hread := readDigits_append hds fun c hc => (hrest c hc).1
    simp [Json.readExponent, he, hread]
  | minus he hds =>
    have hread := readDigits_append hds fun c hc => (hrest c hc).1
    simp [Json.readExponent, he, hread]

private theorem SpelledExponent.head {e : Option (Bool × List Char)} {cs rest : List Char}
    (h : SpelledExponent e cs) (hrest : Ends rest) :
    ∀ c ∈ (cs ++ rest).head?, c.isDigit = false ∧ c ≠ '.' := by
  have hletter {e : Char} (he : e = 'e' ∨ e = 'E') : e.isDigit = false ∧ e ≠ '.' := by
    rcases he with rfl | rfl <;> decide
  rintro c hc
  cases h with
  | none => exact ⟨(hrest c hc).1, (hrest c hc).2.1⟩
  | plain he | plus he | minus he =>
    obtain rfl := Option.some.inj hc
    exact hletter he

private theorem SpelledFraction.head {ds cs rest : List Char} (h : SpelledFraction ds cs)
    (hrest : ∀ c ∈ rest.head?, c.isDigit = false) :
    ∀ c ∈ (cs ++ rest).head?, c.isDigit = false := by
  rintro c hc
  cases h with
  | none => exact hrest c hc
  | digits =>
    obtain rfl := Option.some.inj hc
    rfl

private theorem readUnsigned_spelled (negative : Bool) {whole fraction point tail rest : List Char}
    {exponent : Option (Bool × List Char)} (hwhole : isNumeral whole = true)
    (hzero : whole.head? = some '0' → whole = ['0']) (hpoint : SpelledFraction fraction point)
    (htail : SpelledExponent exponent tail) (hrest : Ends rest) :
    readUnsigned negative (whole ++ (point ++ (tail ++ rest))) =
      .ok (⟨negative, whole, fraction, exponent⟩, rest) := by
  have htailHead := htail.head hrest
  have hpointHead := hpoint.head fun c hc => (htailHead c hc).1
  have hlength : ¬(whole.head? = some '0' ∧ whole.length ≠ 1) := by
    rintro ⟨hhead, hlength⟩
    exact hlength (by rw [hzero hhead]; rfl)
  unfold readUnsigned
  rw [readDigits_append hwhole hpointHead]
  simp only [bind, Except.bind, Bool.and_eq_true, decide_eq_true_eq, hlength, if_false,
    hpoint.readFraction htailHead, htail.readExponent hrest]
  rfl

private theorem SpelledNumeral.readNumber {n : Numeral} {cs rest : List Char}
    (h : SpelledNumeral n cs)
    (hrest : Ends rest) : readNumber (cs ++ rest) = (.number n, rest) := by
  obtain ⟨negative, hwhole, hzero, hpoint, htail⟩ := h
  have hread := readUnsigned_spelled negative hwhole hzero hpoint htail hrest
  cases negative with
  | true => simp [Json.readNumber, hread]
  | false =>
    obtain ⟨d, ds, rfl, hd⟩ := exists_cons_of_isNumeral hwhole
    have hminus : d ≠ '-' := ne_of_isDigit hd rfl
    simp only [List.cons_append] at hread
    simp [Json.readNumber, hminus, hread]

private theorem SpelledNumeral.exists_cons {n : Numeral} {cs : List Char}
    (h : SpelledNumeral n cs) :
    ∃ c ds, cs = c :: ds ∧ (c = '-' ∨ c.isDigit = true) := by
  obtain ⟨negative, hwhole, -, -, -⟩ := h
  cases negative with
  | true => exact ⟨_, _, rfl, .inl rfl⟩
  | false =>
    obtain ⟨d, ds, rfl, hd⟩ := exists_cons_of_isNumeral hwhole
    exact ⟨_, _, rfl, .inr hd⟩

private theorem ne_of_beginsNumber {c d : Char} (hc : c = '-' ∨ c.isDigit = true)
    (hd : d.isDigit = false) (hminus : d ≠ '-') : c ≠ d := by
  rcases hc with rfl | hc
  · exact hminus.symm
  · exact ne_of_isDigit hc hd

private theorem isSpace_of_beginsNumber {c : Char} (hc : c = '-' ∨ c.isDigit = true) :
    isSpace c = false := by
  simp [isSpace, ne_of_beginsNumber hc]

private theorem readValue_number {c : Char} (hc : c = '-' ∨ c.isDigit = true) (fuel : Nat)
    (cs : List Char) : readValue (fuel + 1) (c :: cs) = readNumber (c :: cs) := by
  rw [readValue, skipSpace_cons (isSpace_of_beginsNumber hc)]
  split
  case h_1 => contradiction
  case h_8 heq =>
    obtain ⟨rfl, rfl⟩ := List.cons.inj heq
    simp [hc]
  -- In the other cases the text begins with a letter, a quote or a bracket.
  all_goals
    rename_i heq
    exact absurd (List.cons.inj heq).1 (ne_of_beginsNumber hc rfl (by decide))

/-- A value begins neither with space nor with a closing bracket. -/
private theorem Phrase.SpelledAs.exists_cons {t : Tree} {cs : List Char}
    (h : (value t).SpelledAs cs) :
    ∃ c ds, cs = c :: ds ∧ isSpace c = false ∧ c ≠ ']' := by
  cases h with
  | number h =>
    obtain ⟨c, ds, rfl, hc⟩ := h.exists_cons
    exact ⟨c, ds, rfl, isSpace_of_beginsNumber hc, ne_of_beginsNumber hc rfl (by decide)⟩
  | _ => exact ⟨_, _, rfl, by decide, by decide⟩

private theorem Phrase.SpelledAs.skipSpace_element {t : Tree} {cs : List Char}
    (h : (element t).SpelledAs cs) (rest : List Char) :
    ∃ c ds, skipSpace (cs ++ rest) = c :: ds ∧ c ≠ ']' := by
  cases h with
  | padded hbefore h hafter =>
    obtain ⟨c, ds, rfl, hspace, hc⟩ := h.exists_cons
    rw [List.append_assoc, List.append_assoc, skipSpace_append hbefore, List.cons_append,
      skipSpace_cons hspace]
    exact ⟨c, _, rfl, hc⟩

private theorem Phrase.SpelledAs.skipSpace_elements {ts : List Tree} {cs : List Char}
    (h : (elements ts).SpelledAs cs) (rest : List Char) :
    ∃ c ds, skipSpace (cs ++ rest) = c :: ds ∧ c ≠ ']' := by
  cases h with
  | oneElement h => exact h.skipSpace_element rest
  | moreElements h hts =>
    rw [List.append_assoc]
    exact h.skipSpace_element _

private theorem Phrase.SpelledAs.skipSpace_member {name t : Tree} {cs : List Char}
    (h : (member name t).SpelledAs cs) (rest : List Char) :
    ∃ ds, skipSpace (cs ++ rest) = '"' :: ds := by
  cases h with
  | named hbefore hname hafter h =>
    simp only [List.append_assoc, List.cons_append, skipSpace_append hbefore]
    exact ⟨_, skipSpace_cons rfl _⟩

private theorem Phrase.SpelledAs.skipSpace_members {ms : List (Tree × Tree)} {cs : List Char}
    (h : (members ms).SpelledAs cs) (rest : List Char) :
    ∃ ds, skipSpace (cs ++ rest) = '"' :: ds := by
  cases h with
  | oneMember h => exact h.skipSpace_member rest
  | moreMembers h hms =>
    rw [List.append_assoc]
    exact h.skipSpace_member _

private theorem readValue_bracket {fuel : Nat} {cs ds : List Char} {c : Char} {items : List Tree}
    {stop : Option Fault} {rest : List Char} (hcs : skipSpace cs = c :: ds) (hc : c ≠ ']')
    (h : readItems fuel cs = (items, stop, rest)) :
    readValue (fuel + 1) ('[' :: cs) = (.array items stop, rest) := by
  rw [← readItems_skipSpace, hcs] at h
  rw [readValue, skipSpace_cons (c := '[') rfl]
  simp [hcs, hc, h]

private theorem readValue_brace {fuel : Nat} {cs ds : List Char} {c : Char}
    {members : List (Tree × Tree)} {stop : Option Fault} {rest : List Char}
    (hcs : skipSpace cs = c :: ds) (hc : c ≠ '}')
    (h : readMembers fuel cs = (members, stop, rest)) :
    readValue (fuel + 1) ('{' :: cs) = (.object members stop, rest) := by
  rw [← readMembers_skipSpace, hcs] at h
  rw [readValue, skipSpace_cons (c := '{') rfl]
  simp [hcs, hc, h]

/-- With enough fuel the reader gets the phrase from its text and leaves what follows; behind an
element it may also leave white space. -/
def Phrase.ReadsAs (cs : List Char) : Phrase → Prop
  | value t => ∀ fuel rest, 2 * cs.length ≤ fuel + 1 → Ends rest →
      readValue (fuel + 1) (cs ++ rest) = (t, rest)
  | element t => ∀ fuel rest, 2 * cs.length ≤ fuel + 1 → Ends rest →
      ∃ left, readValue (fuel + 1) (cs ++ rest) = (t, left) ∧ skipSpace left = skipSpace rest
  | elements ts => ∀ fuel rest, 2 * cs.length ≤ fuel + 1 →
      readItems (fuel + 2) (cs ++ ']' :: rest) = (ts, none, rest)
  | member name t => ∀ fuel rest, 2 * cs.length ≤ fuel + 1 → Ends rest →
      ∃ behind ds left, readValue (fuel + 1) (cs ++ rest) = (name, behind) ∧
        skipSpace behind = ':' :: ds ∧ readValue (fuel + 1) ds = (t, left) ∧
        skipSpace left = skipSpace rest
  | members ms => ∀ fuel rest, 2 * cs.length ≤ fuel + 1 →
      readMembers (fuel + 2) (cs ++ '}' :: rest) = (ms, none, rest)

private theorem Phrase.SpelledAs.readsAs {p : Phrase} {cs : List Char} (h : p.SpelledAs cs) :
    p.ReadsAs cs := by
  induction h with
  | nullWord =>
    intro fuel rest _ _
    rfl
  | trueWord =>
    intro fuel rest _ _
    rfl
  | falseWord =>
    intro fuel rest _ _
    rfl
  | number h =>
    intro fuel rest _ hrest
    obtain ⟨c, ds, rfl, hc⟩ := h.exists_cons
    exact (readValue_number hc fuel (ds ++ rest)).trans (h.readNumber hrest)
  | string h =>
    intro fuel rest _ _
    simpa using h.readValue fuel rest
  | emptyArray hws =>
    intro fuel rest _ _
    rw [List.append_assoc, List.cons_append, readValue, skipSpace_cons rfl]
    simp only [List.singleton_append, skipSpace_append hws, skipSpace_cons (c := ']') rfl]
  | array h ih =>
    intro fuel rest hfuel _
    simp only [List.length_append, List.length_cons] at hfuel
    obtain ⟨fuel, rfl⟩ : ∃ f, fuel = f + 2 := ⟨fuel - 2, by omega⟩
    obtain ⟨c, ds, hcs, hc⟩ := h.skipSpace_elements (']' :: rest)
    simpa using readValue_bracket hcs hc (ih fuel rest (by omega))
  | emptyObject hws =>
    intro fuel rest _ _
    rw [List.append_assoc, List.cons_append, readValue, skipSpace_cons rfl]
    simp only [List.singleton_append, skipSpace_append hws, skipSpace_cons (c := '}') rfl]
  | object h ih =>
    intro fuel rest hfuel _
    simp only [List.length_append, List.length_cons] at hfuel
    obtain ⟨fuel, rfl⟩ : ∃ f, fuel = f + 2 := ⟨fuel - 2, by omega⟩
    obtain ⟨ds, hcs⟩ := h.skipSpace_members ('}' :: rest)
    simpa using readValue_brace hcs (by decide) (ih fuel rest (by omega))
  | padded hbefore h hafter ih =>
    intro fuel rest hfuel hrest
    simp only [List.length_append] at hfuel
    refine ⟨_, ?_, skipSpace_append hafter rest⟩
    rw [List.append_assoc, List.append_assoc, readValue_gap hbefore]
    exact ih fuel _ (by omega) (hrest.gap hafter)
  | oneElement h ih =>
    intro fuel rest hfuel
    obtain ⟨left, hread, hleft⟩ := ih fuel (']' :: rest) hfuel (ends_cons (by decide) rest)
    rw [readItems, hread]
    simp only [hleft, skipSpace_cons (c := ']') rfl]
  | @moreElements t ts cs ds h hts ih ihts =>
    intro fuel rest hfuel
    simp only [List.length_append, List.length_cons] at hfuel
    -- The comma pays for the call that reads the rest.
    obtain ⟨fuel, rfl⟩ : ∃ f, fuel = f + 1 := ⟨fuel - 1, by omega⟩
    obtain ⟨left, hread, hleft⟩ := ih (fuel + 1) (',' :: (ds ++ ']' :: rest)) (by omega)
      (ends_cons (by decide) _)
    have hitems := ihts fuel rest (by omega)
    rw [List.append_assoc, List.cons_append, readItems, hread]
    simp only [hleft, skipSpace_cons (c := ',') rfl, hitems]
  | @named ps t before cs after ds hbefore hname hafter h ih =>
    intro fuel rest hfuel hrest
    simp only [List.length_append, List.length_cons] at hfuel
    obtain ⟨left, hread, hleft⟩ := ih fuel rest (by omega) hrest
    refine ⟨after ++ ':' :: (ds ++ rest), ds ++ rest, left, ?_, ?_, hread, hleft⟩
    · simpa [readValue_gap hbefore] using hname.readValue fuel _
    · rw [skipSpace_append hafter, skipSpace_cons rfl]
  | oneMember h ih =>
    intro fuel rest hfuel
    obtain ⟨behind, ds, left, hname, hbehind, hread, hleft⟩ :=
      ih fuel ('}' :: rest) hfuel (ends_cons (by decide) rest)
    rw [readMembers, hname]
    simp only [hbehind, hread, hleft, skipSpace_cons (c := '}') rfl]
  | @moreMembers name t ms cs ds h hms ih ihms =>
    intro fuel rest hfuel
    simp only [List.length_append, List.length_cons] at hfuel
    obtain ⟨fuel, rfl⟩ : ∃ f, fuel = f + 1 := ⟨fuel - 1, by omega⟩
    obtain ⟨behind, es, left, hname, hbehind, hread, hleft⟩ :=
      ih (fuel + 1) (',' :: (ds ++ '}' :: rest)) (by omega) (ends_cons (by decide) _)
    have hmembers := ihms fuel rest (by omega)
    rw [List.append_assoc, List.cons_append, readMembers, hname]
    simp only [hbehind, hread, hleft, skipSpace_cons (c := ',') rfl, hmembers]

theorem IsText.ofText_eq {s : String} {t : Tree} (h : IsText s t) :
    Document.ofText s = ⟨t, true⟩ := by
  obtain ⟨left, hread, hleft⟩ :=
    h.readsAs (2 * s.toList.length + 1) [] (by omega) (fun c hc => by contradiction)
  rw [List.append_nil] at hread
  have hend : skipSpace left = [] := hleft
  simp only [Document.ofText, hread, hend]
  rfl

end Recurrence.Json
