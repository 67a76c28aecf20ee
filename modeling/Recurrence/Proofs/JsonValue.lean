import Recurrence.Proofs.JsonText

/-!
# The value of a JSON text

A text says a value if it reads as a tree of strings, truth values, natural numbers, arrays and
objects. Writing a value and asking what the text says gives the value back, in either layout; the
compact text has no control character in it.
-/
namespace Recurrence.Json

/-- The number of a numeral without sign, point and exponent. -/
def Numeral.natural? (n : Numeral) : Option Nat :=
  if n.negative || !n.fraction.isEmpty || n.exponent.isSome then none
  else some (Text.numeralValue n.whole)

mutual

/-- The value that a tree stands for. There is none where the tree has a fault, null or a number
that is not natural. -/
def Tree.value? : Tree → Option Value
  | .bool b => some (.bool b)
  | .number n => n.natural?.map .number
  | .string q => q.text.toOption.map .string
  | .array items none => (itemValues? items).map .array
  | .object members none => (memberValues? members).map .object
  | _ => none

def itemValues? : List Tree → Option (List Value)
  | [] => some []
  | t :: ts => do return (← t.value?) :: (← itemValues? ts)

def memberValue? : Tree × Tree → Option (String × Value)
  | (name, t) => do return (← name.memberName.toOption, ← t.value?)

def memberValues? : List (Tree × Tree) → Option (List (String × Value))
  | [] => some []
  | m :: ms => do return (← memberValue? m) :: (← memberValues? ms)

end

/-- What a text says as a whole, with white space around the value allowed. -/
def Value.ofText? (s : String) : Option Value :=
  let document := Document.ofText s
  if document.endsThere then document.root.value? else none

private theorem natural?_toDigits (n : Nat) :
    (Numeral.mk false (Nat.toDigits 10 n) [] none).natural? = some n := by
  simp [Numeral.natural?, Text.numeralValue_toDigits]

mutual

private theorem value?_tree : (v : Value) → v.tree.value? = some v
  | .bool b => rfl
  | .number n => congrArg (Option.map Value.number) (natural?_toDigits n)
  | .string s => by
    rw [Value.tree, Tree.value?, text_quoted]
    rfl
  | .array vs => congrArg (Option.map Value.array) (itemValues?_itemTrees vs)
  | .object ms => congrArg (Option.map Value.object) (memberValues?_memberTrees ms)

theorem itemValues?_itemTrees : (vs : List Value) → itemValues? (itemTrees vs) = some vs
  | [] => rfl
  | v :: vs => by
    rw [itemTrees, itemValues?, value?_tree v, itemValues?_itemTrees vs]
    rfl

theorem memberValue?_memberTree : (m : String × Value) → memberValue? (memberTree m) = some m
  | (name, v) => by
    rw [memberTree, memberValue?, Tree.memberName, text_quoted, value?_tree v]
    rfl

theorem memberValues?_memberTrees :
    (ms : List (String × Value)) → memberValues? (memberTrees ms) = some ms
  | [] => rfl
  | m :: ms => by
    rw [memberTrees, memberValues?, memberValue?_memberTree m, memberValues?_memberTrees ms]
    rfl

end

theorem Value.ofText?_render (v : Value) (l : Layout) : ofText? (v.render l) = some v := by
  have hread : Document.ofText (v.render l ++ "") = ⟨v.tree, true⟩ := Document.ofText_render v l rfl
  rw [String.append_empty] at hread
  simp only [ofText?, hread, if_true, value?_tree]

example : (Value.ofText? "\"two\nlines\"").isNone = true := by decide

/-- No character below the space. -/
def NoControl (cs : List Char) : Prop := ∀ c ∈ cs, 0x20 ≤ c.toNat

instance (cs : List Char) : Decidable (NoControl cs) :=
  decidable_of_iff ((cs.all fun c => 0x20 ≤ c.toNat) = true) (by simp [NoControl])

@[simp] private theorem noControl_append {cs ds : List Char} :
    NoControl (cs ++ ds) ↔ NoControl cs ∧ NoControl ds := List.forall_mem_append

@[simp] private theorem noControl_cons {c : Char} {cs : List Char} :
    NoControl (c :: cs) ↔ 0x20 ≤ c.toNat ∧ NoControl cs := List.forall_mem_cons

@[simp] private theorem noControl_nil : NoControl [] := List.forall_mem_nil _

private theorem noControl_code {n : Nat} (h : n < 0x20) :
    NoControl ['\\', 'u', '0', '0', Nat.digitChar (n / 16), Nat.digitChar (n % 16)] := by
  have hall : ∀ k : Fin 0x20,
      NoControl ['\\', 'u', '0', '0', Nat.digitChar (k / 16), Nat.digitChar (k % 16)] := by decide
  exact hall ⟨n, h⟩

private theorem noControl_escape (c : Char) : NoControl (escape c) := by
  unfold escape
  iterate 7
    split
    · decide
  split
  next h => exact noControl_code h
  next h => simpa using h

private theorem noControl_quote (s : String) : NoControl (quote s) := by
  have hbody : NoControl (s.toList.flatMap escape) := by
    intro c hc
    obtain ⟨e, -, he⟩ := List.mem_flatMap.mp hc
    exact noControl_escape e c he
  simp only [quote, List.cons_append, noControl_cons, noControl_append, hbody, noControl_nil]
  decide

private theorem noControl_toDigits (n : Nat) : NoControl (Nat.toDigits 10 n) := by
  intro c hc
  have hdigit := Nat.isDigit_of_mem_toDigits (b := 10) (n := n) (by decide) (by decide) hc
  have hrange : 48 ≤ c.toNat ∧ c.toNat ≤ 57 := Char.isDigit_iff_toNat.mp hdigit
  omega

mutual

private theorem noControl_chars : (v : Value) → (d : Nat) → NoControl (v.chars .compact d)
  | .bool b, _ => by cases b <;> (rw [Value.chars]; decide)
  | .number n, _ => noControl_toDigits n
  | .string s, _ => noControl_quote s
  | .array [], _ => by rw [Value.chars]; decide
  | .array (v :: vs), d => by
    have hv := noControl_chars v (d + 1)
    have hvs := noControl_itemChars vs (d + 1)
    simp [Value.chars, Layout.lineBreak, hv, hvs]
  | .object [], _ => by rw [Value.chars]; decide
  | .object (m :: ms), d => by
    have hm := noControl_memberChars m (d + 1)
    have hms := noControl_memberListChars ms (d + 1)
    simp [Value.chars, Layout.lineBreak, hm, hms]

theorem noControl_itemChars : (vs : List Value) → (d : Nat) → NoControl (itemChars .compact d vs)
  | [], _ => noControl_nil
  | v :: vs, d => by
    have hv := noControl_chars v d
    have hvs := noControl_itemChars vs d
    simp [itemChars, Layout.lineBreak, hv, hvs]

theorem noControl_memberChars : (m : String × Value) → (d : Nat) →
    NoControl (memberChars .compact d m)
  | (name, v), d => by
    have hname := noControl_quote name
    have hv := noControl_chars v d
    simp [memberChars, Layout.colon, hname, hv]

theorem noControl_memberListChars : (ms : List (String × Value)) → (d : Nat) →
    NoControl (memberListChars .compact d ms)
  | [], _ => noControl_nil
  | m :: ms, d => by
    have hm := noControl_memberChars m d
    have hms := noControl_memberListChars ms d
    simp [memberListChars, Layout.lineBreak, hm, hms]

end

theorem Value.noControl_render (v : Value) : NoControl (v.render .compact).toList := by
  rw [render, String.toList_ofList]
  exact noControl_chars v 0

end Recurrence.Json
