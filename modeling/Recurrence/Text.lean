/-! # Texts of characters

White space is the Unicode property `White_Space`; schedules and edits cut it off both ends of a
text and split texts into words at it.

Unsigned numerals are runs of ASCII digits and may have leading zeros. Words are the numbers below
`2 ^ 32`; signed numerals are those of the 64-bit range. Real numbers are only recognised.

A text may be cut at a number of bytes of its UTF-8 form, but never inside a character. -/
namespace Recurrence.Text

/-- The Unicode property `White_Space`. -/
def isBlank (c : Char) : Bool :=
  let n := c.toNat
  (0x09 ≤ n && n ≤ 0x0D) || n == 0x20 || n == 0x85 || n == 0xA0 || n == 0x1680 ||
    (0x2000 ≤ n && n ≤ 0x200A) || n == 0x2028 || n == 0x2029 || n == 0x202F || n == 0x205F ||
    n == 0x3000

/-- The text without the blanks at its two ends. -/
def trim (cs : List Char) : List Char :=
  ((cs.dropWhile isBlank).reverse.dropWhile isBlank).reverse

/-- The maximal runs of characters that are not blank, in order. -/
def words (cs : List Char) : List (List Char) :=
  (cs.splitOnP isBlank).filter fun w => !w.isEmpty

/-- A text of blanks only, the empty one included. -/
def allBlank (cs : List Char) : Bool := cs.all isBlank

theorem isBlank_of_isWhitespace (c : Char) (h : c.isWhitespace = true) : isBlank c = true := by
  simp only [Char.isWhitespace, Bool.or_eq_true, decide_eq_true_eq] at h
  rcases h with ((rfl | rfl) | rfl) | rfl <;> decide

/-- One or more ASCII digits. -/
def isNumeral (cs : List Char) : Bool := !cs.isEmpty && cs.all Char.isDigit

/-- The number that a run of digits spells in base ten. -/
def numeralValue (cs : List Char) : Nat := Nat.ofDigitChars 10 cs 0

/-- The word that a numeral spells, if it fits. -/
def word? (cs : List Char) : Option UInt32 :=
  if isNumeral cs && numeralValue cs < UInt32.size then some (UInt32.ofNat (numeralValue cs))
  else none

/-- The number that an optional sign and a numeral spell, of any size. -/
def signedValue? : List Char → Option Int
  | '-' :: cs => if isNumeral cs then some (-(numeralValue cs : Int)) else none
  | '+' :: cs => if isNumeral cs then some (numeralValue cs : Int) else none
  | cs => if isNumeral cs then some (numeralValue cs : Int) else none

/-- The first number above the signed 64-bit range. -/
def int64Bound : Nat := 0x8000000000000000

/-- As `signedValue?`, refusing what lies outside the signed 64-bit range. -/
def int64? (cs : List Char) : Option Int :=
  (signedValue? cs).filter fun v => -(int64Bound : Int) ≤ v ∧ v < (int64Bound : Int)

/-- The text behind a sign, if it begins with one. -/
def dropSign : List Char → List Char
  | '+' :: cs => cs
  | '-' :: cs => cs
  | cs => cs

def isExponent : List Char → Bool
  | [] => true
  | c :: cs => (c == 'e' || c == 'E') && isNumeral (dropSign cs)

/-- Digits with a point between them or at one of their ends, and an exponent. -/
def isDecimal (cs : List Char) : Bool :=
  let whole := cs.takeWhile Char.isDigit
  match cs.dropWhile Char.isDigit with
  | '.' :: cs =>
    let part := cs.takeWhile Char.isDigit
    !(whole ++ part).isEmpty && isExponent (cs.dropWhile Char.isDigit)
  | cs => !whole.isEmpty && isExponent cs

/-- A real number: a sign if one likes and a decimal, or a word for infinity or for no number. -/
def isReal (cs : List Char) : Bool :=
  let cs := dropSign cs
  isDecimal cs || ["inf", "infinity", "nan"].contains (String.ofList (cs.map Char.toLower))

def hexDigit? (c : Char) : Option Nat :=
  if c.isDigit then some (c.toNat - 48)
  else if 'a' ≤ c && c ≤ 'f' then some (c.toNat - 87)
  else if 'A' ≤ c && c ≤ 'F' then some (c.toNat - 55)
  else none

/-- The decimal form of a number, padded with zeros on the left to two digits. -/
def twoDigits (n : Nat) : String := if n < 10 then "0" ++ n.repr else n.repr

def ofWord (n : UInt32) : String := n.toNat.repr

theorem word?_ofWord (n : UInt32) : word? (ofWord n).toList = some n := by
  have hd : ∀ c ∈ Nat.toDigits 10 n.toNat, c.isDigit = true :=
    fun c hc => Nat.isDigit_of_mem_toDigits (by decide) (by decide) hc
  have hne : (Nat.toDigits 10 n.toNat).isEmpty = false := by
    simp [Nat.toDigits_ne_nil]
  have hv : numeralValue (Nat.toDigits 10 n.toNat) = n.toNat :=
    Nat.ofDigitChars_toDigits (by decide) (by decide)
  have hlt : n.toNat < UInt32.size := n.toNat_lt
  simp [word?, ofWord, Nat.toList_repr, isNumeral, hv, hlt, hne]
  exact hd

/-- The text behind its first `n` bytes, if a character ends there. -/
def dropBytes? : Nat → List Char → Option (List Char)
  | 0, cs => some cs
  | _ + 1, [] => none
  | n + 1, c :: cs => if c.utf8Size ≤ n + 1 then dropBytes? (n + 1 - c.utf8Size) cs else none

/-- The first `n` bytes of the text, if a character ends there. -/
def takeBytes? : Nat → List Char → Option (List Char)
  | 0, _ => some []
  | _ + 1, [] => none
  | n + 1, c :: cs =>
    if c.utf8Size ≤ n + 1 then (c :: ·) <$> takeBytes? (n + 1 - c.utf8Size) cs else none

/-- The text from one number of bytes to another. -/
def slice? (start stop : Nat) (cs : List Char) : Option (List Char) := do
  takeBytes? (stop - start) (← dropBytes? start cs)

theorem takeBytes?_append_dropBytes? {n : Nat} {cs front back : List Char}
    (hf : takeBytes? n cs = some front) (hb : dropBytes? n cs = some back) :
    front ++ back = cs := by
  fun_induction takeBytes? n cs generalizing front with
  | case1 => simp_all [dropBytes?]
  | case2 => simp at hf
  | case3 n c cs hle ih =>
    obtain ⟨tail, ht, rfl⟩ := Option.map_eq_some_iff.1 hf
    simp only [dropBytes?, hle, if_true] at hb
    simp [ih ht hb]
  | case4 => simp at hf

end Recurrence.Text
