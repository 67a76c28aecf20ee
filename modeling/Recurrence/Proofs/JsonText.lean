import Recurrence.Json.Decode
import Recurrence.Json.Value
import Recurrence.Proofs.JsonGrammar

/-!
# Written values are read back

What is written of a value is a JSON text and reads as one tree, in either layout and at any depth.
-/
namespace Recurrence.Json

open Text

/-- How a character of a written string is read: as a unit where it has no short escape. -/
def piece (c : Char) : Piece :=
  if c.toNat < 0x20 ∧ c ≠ '\n' ∧ c ≠ '\t' ∧ c ≠ '\r' ∧ c.toNat ≠ 8 ∧ c.toNat ≠ 12 then .unit c.toNat
  else .char c

/-- A written string, as it is read. -/
def quoted (s : String) : Quoted := ⟨s.toList.map piece, none⟩

mutual

/-- The tree that the text of a value reads as. -/
def Value.tree : Value → Tree
  | .bool b => .bool b
  | .number n => .number ⟨false, Nat.toDigits 10 n, [], none⟩
  | .string s => .string (quoted s)
  | .array vs => .array (itemTrees vs) none
  | .object ms => .object (memberTrees ms) none

def itemTrees : List Value → List Tree
  | [] => []
  | v :: vs => v.tree :: itemTrees vs

def memberTree : String × Value → Tree × Tree
  | (name, v) => (.string (quoted name), v.tree)

def memberTrees : List (String × Value) → List (Tree × Tree)
  | [] => []
  | m :: ms => memberTree m :: memberTrees ms

end

theorem tree_array (vs : List Value) : (Value.array vs).tree = .array (vs.map Value.tree) none := by
  have hitems : itemTrees vs = vs.map Value.tree := by
    induction vs with
    | nil => rfl
    | cons v vs ih => rw [itemTrees, List.map_cons, ih]
  rw [Value.tree, hitems]

theorem tree_object (ms : List (String × Value)) :
    (Value.object ms).tree = .object (ms.map fun m => (.string (quoted m.1), m.2.tree)) none := by
  have hmembers : memberTrees ms = ms.map fun m => (.string (quoted m.1), m.2.tree) := by
    induction ms with
    | nil => rfl
    | cons m ms ih => rw [memberTrees, memberTree, List.map_cons, ih]
  rw [Value.tree, hmembers]

private theorem hexUnit?_control {n : Nat} (h : n < 0x20) :
    hexUnit? '0' '0' (Nat.digitChar (n / 16)) (Nat.digitChar (n % 16)) = some n := by
  have hall : ∀ k : Fin 0x20, hexUnit? '0' '0' (Nat.digitChar (k / 16)) (Nat.digitChar (k % 16)) =
      some k.val := by decide
  exact hall ⟨n, h⟩

private theorem spelledPieces_escape (c : Char) {ps : List Piece} {cs : List Char}
    (h : SpelledPieces ps cs) : SpelledPieces (piece c :: ps) (escape c ++ cs) := by
  unfold escape piece
  by_cases hq : c = '"'
  · subst hq
    exact .short rfl h
  by_cases hb : c = '\\'
  · subst hb
    exact .short rfl h
  by_cases hn : c = '\n'
  · subst hn
    exact .short rfl h
  by_cases ht : c = '\t'
  · subst ht
    exact .short rfl h
  by_cases hr : c = '\r'
  · subst hr
    exact .short rfl h
  by_cases h8 : c.toNat = 8
  · obtain rfl : c = '\x08' := Char.toNat_inj.mp h8
    exact .short rfl h
  by_cases h12 : c.toNat = 12
  · obtain rfl : c = '\x0c' := Char.toNat_inj.mp h12
    exact .short rfl h
  by_cases hc : c.toNat < 0x20
  · simpa [*] using SpelledPieces.unit (hexUnit?_control hc) h
  · simpa [*] using SpelledPieces.plain hq hb (Nat.le_of_not_lt hc) h

theorem spelledPieces_quoted (s : String) :
    SpelledPieces (quoted s).pieces (s.toList.flatMap escape) := by
  unfold quoted
  induction s.toList with
  | nil => exact .nil
  | cons c cs ih => exact spelledPieces_escape c ih

private theorem piecesText_piece (c : Char) (ps : List Piece) :
    piecesText none (piece c :: ps) = (c :: ·) <$> piecesText none ps := by
  unfold piece
  split
  case isTrue h =>
    have hlead : isLeadSurrogate c.toNat = false := by
      simp only [isLeadSurrogate, Bool.and_eq_false_iff, decide_eq_false_iff_not]
      omega
    have htrail : isTrailSurrogate c.toNat = false := by
      simp only [isTrailSurrogate, Bool.and_eq_false_iff, decide_eq_false_iff_not]
      omega
    rw [piecesText.eq_def]
    simp [hlead, htrail]
  case isFalse => rfl

theorem text_quoted (s : String) : (quoted s).text = .ok s := by
  have htext : piecesText none (s.toList.map piece) = .ok s.toList := by
    induction s.toList with
    | nil => rfl
    | cons c cs ih =>
      rw [List.map_cons, piecesText_piece, ih]
      rfl
  unfold Quoted.text quoted
  rw [htext]
  exact congrArg Except.ok s.ofList_toList

theorem isGap_nil : IsGap [] := List.forall_mem_nil _

theorem named_spelledAs (name : String) {t : Tree} {cs : List Char}
    (h : (Phrase.value t).SpelledAs cs) :
    (Phrase.member (.string (quoted name)) t).SpelledAs (quote name ++ ':' :: cs) := by
  have hmember : (Phrase.member (.string (quoted name)) t).SpelledAs _ :=
    .named isGap_nil (spelledPieces_quoted name) isGap_nil (.padded isGap_nil h isGap_nil)
  simpa [quote] using hmember

private theorem spelledNumeral_toDigits (n : Nat) :
    SpelledNumeral ⟨false, Nat.toDigits 10 n, [], none⟩ (Nat.toDigits 10 n) := by
  have hnumeral : isNumeral (Nat.toDigits 10 n) = true := Nat.toList_repr ▸ isNumeral_repr n
  have hzero (h : (Nat.toDigits 10 n).head? = some '0') : Nat.toDigits 10 n = ['0'] := by
    rw [eq_zero_of_head?_toDigits h]
    rfl
  simpa using SpelledNumeral.mk false hnumeral hzero .none .none

private theorem isGap_lineBreak (l : Layout) (d : Nat) : IsGap (l.lineBreak d) := by
  cases l with
  | compact => exact isGap_nil
  | indented =>
    intro c hc
    simp only [Layout.lineBreak, List.mem_cons, List.mem_replicate] at hc
    rcases hc with rfl | ⟨-, rfl⟩ <;> rfl

private theorem exists_gap_colon (l : Layout) : ∃ ws, IsGap ws ∧ l.colon = ':' :: ws := by
  cases l with
  | compact => exact ⟨[], isGap_nil, rfl⟩
  | indented => exact ⟨[' '], by simp [IsGap, isSpace], rfl⟩

/-- Whatever the layout and the depth, the value is spelled by what is written of it. -/
def Value.IsSpelled (v : Value) : Prop :=
  ∀ (l : Layout) (d : Nat), (Phrase.value v.tree).SpelledAs (v.chars l d)

private theorem elements_spelledAs {l : Layout} {d : Nat} {v : Value} {vs : List Value}
    {before after : List Char} (h : ∀ u ∈ v :: vs, u.IsSpelled) (hbefore : IsGap before)
    (hafter : IsGap after) :
    (Phrase.elements ((v :: vs).map Value.tree)).SpelledAs
      (before ++ (v.chars l d ++ (itemChars l d vs ++ after))) := by
  have hv := h v List.mem_cons_self l d
  induction vs generalizing v before with
  | nil => simpa [itemChars] using Phrase.SpelledAs.oneElement (.padded hbefore hv hafter)
  | cons u us ih =>
    have hus := h u (List.mem_cons_of_mem v List.mem_cons_self) l d
    have hrest := ih (fun w hw => h w (List.mem_cons_of_mem v hw)) (isGap_lineBreak l d) hus
    simpa [itemChars] using Phrase.SpelledAs.moreElements (.padded hbefore hv isGap_nil) hrest

private theorem member_spelledAs {l : Layout} {d : Nat} {m : String × Value}
    {before after : List Char}
    (h : m.2.IsSpelled) (hbefore : IsGap before) (hafter : IsGap after) :
    (Phrase.member (.string (quoted m.1)) m.2.tree).SpelledAs
      (before ++ (memberChars l d m ++ after)) := by
  obtain ⟨name, v⟩ := m
  obtain ⟨ws, hws, hcolon⟩ := exists_gap_colon l
  have hmember : (Phrase.member (.string (quoted name)) v.tree).SpelledAs _ :=
    .named hbefore (spelledPieces_quoted name) isGap_nil (.padded hws (h l d) hafter)
  simpa [memberChars, quote, hcolon] using hmember

private theorem members_spelledAs {l : Layout} {d : Nat} {m : String × Value}
    {ms : List (String × Value)}
    {before after : List Char} (h : ∀ p ∈ m :: ms, p.2.IsSpelled) (hbefore : IsGap before)
    (hafter : IsGap after) :
    (Phrase.members ((m :: ms).map fun p => (.string (quoted p.1), p.2.tree))).SpelledAs
      (before ++ (memberChars l d m ++ (memberListChars l d ms ++ after))) := by
  have hm := h m List.mem_cons_self
  induction ms generalizing m before with
  | nil => exact .oneMember (member_spelledAs hm hbefore hafter)
  | cons p ps ih =>
    have hp := h p (List.mem_cons_of_mem m List.mem_cons_self)
    have hrest := ih (fun q hq => h q (List.mem_cons_of_mem m hq)) (isGap_lineBreak l d) hp
    have hmember := member_spelledAs (l := l) (d := d) hm hbefore isGap_nil
    simpa [memberListChars] using Phrase.SpelledAs.moreMembers hmember hrest

private theorem isSpelled_array {vs : List Value} (h : ∀ v ∈ vs, v.IsSpelled) :
    (Value.array vs).IsSpelled := by
  intro l d
  rw [tree_array]
  cases vs with
  | nil => exact .emptyArray isGap_nil
  | cons v vs =>
    have helements := elements_spelledAs (l := l) (d := d + 1) h (isGap_lineBreak l (d + 1))
      (isGap_lineBreak l d)
    simpa [Value.chars] using Phrase.SpelledAs.array helements

private theorem isSpelled_object {ms : List (String × Value)} (h : ∀ m ∈ ms, m.2.IsSpelled) :
    (Value.object ms).IsSpelled := by
  intro l d
  rw [tree_object]
  cases ms with
  | nil => exact .emptyObject isGap_nil
  | cons m ms =>
    have hmembers := members_spelledAs (l := l) (d := d + 1) h (isGap_lineBreak l (d + 1))
      (isGap_lineBreak l d)
    simpa [Value.chars] using Phrase.SpelledAs.object hmembers

mutual

private theorem Value.isSpelled : (v : Value) → v.IsSpelled
  | .bool .true => fun _ _ => .trueWord
  | .bool .false => fun _ _ => .falseWord
  | .number n => fun _ _ => .number (spelledNumeral_toDigits n)
  | .string s => fun _ _ => .string (spelledPieces_quoted s)
  | .array vs => isSpelled_array (isSpelled_items vs)
  | .object ms => isSpelled_object (isSpelled_members ms)

theorem isSpelled_items : (vs : List Value) → ∀ v ∈ vs, v.IsSpelled
  | [] => by simp
  | v :: vs => List.forall_mem_cons.mpr ⟨v.isSpelled, isSpelled_items vs⟩

theorem isSpelled_members : (ms : List (String × Value)) → ∀ m ∈ ms, m.2.IsSpelled
  | [] => by simp
  | (_, v) :: ms => List.forall_mem_cons.mpr ⟨v.isSpelled, isSpelled_members ms⟩

end

/-- What is written of a value is a JSON text. White space may follow. -/
theorem isText_render (v : Value) (l : Layout) {ws : String} (hws : ws.toList.all isSpace = true) :
    IsText (v.render l ++ ws) v.tree := by
  rw [List.all_eq_true] at hws
  simpa [IsText, Value.render] using Phrase.SpelledAs.padded isGap_nil (v.isSpelled l 0) hws

theorem Document.ofText_render (v : Value) (l : Layout) {ws : String}
    (hws : ws.toList.all isSpace = true) :
    Document.ofText (v.render l ++ ws) = ⟨v.tree, true⟩ := (isText_render v l hws).ofText_eq

theorem IsText.decodeText_eq {α : Type} {s : String} {t : Tree} (h : IsText s t)
    (read : Tree → Decoded α) : decodeText read s = read t := by
  simp only [decodeText, h.ofText_eq]
  cases read t <;> rfl

theorem decodeText_render {α : Type} (read : Tree → Decoded α) (v : Value) (l : Layout)
    {ws : String} (hws : ws.toList.all isSpace = true) :
    decodeText read (v.render l ++ ws) = read v.tree := (isText_render v l hws).decodeText_eq read

end Recurrence.Json
