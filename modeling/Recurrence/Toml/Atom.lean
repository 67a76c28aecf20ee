import Recurrence.Toml.Table
import Recurrence.Text

/-! # Numbers, dates and truth values

Values that are written as one word, or as two when a space divides a date from a time. -/
namespace Recurrence.Toml

def isAtomChar (c : Char) : Bool :=
  c.isAlphanum || c == '_' || c == '+' || c == '-' || c == '.' || c == ':'

/-- The digits of a run in which single underscores may stand between digits. -/
def digitRun? (isDigit : Char → Bool) (cs : List Char) : Option (List Char) :=
  let pieces := cs.splitOn '_'
  if pieces.all fun p => !p.isEmpty && p.all isDigit then some pieces.flatten else none

def decimalRun? (cs : List Char) : Option (List Char) :=
  (digitRun? Char.isDigit cs).filter fun ds => ds.length = 1 || ds.head? ≠ some '0'

/-- Takes a sign off; the flag says minus. -/
def takeSign : List Char → Bool × List Char
  | '+' :: cs => (false, cs)
  | '-' :: cs => (true, cs)
  | cs => (false, cs)

/-- The number of digits in a base up to sixteen. -/
def digitsValue (base : Nat) (ds : List Char) : Nat :=
  ds.foldl (fun n d => n * base + (Text.hexDigit? d).getD 0) 0

def isDigitOf (base : Nat) (c : Char) : Bool := (Text.hexDigit? c).any (· < base)

/-- A number with the mark of its base, which has no sign. -/
def markedInteger? (base : Nat) (cs : List Char) : Option Int := do
  let n := digitsValue base (← digitRun? (isDigitOf base) cs)
  if n < Text.int64Bound then return n else none

def integer? : List Char → Option Int
  | '0' :: 'x' :: cs => markedInteger? 16 cs
  | '0' :: 'o' :: cs => markedInteger? 8 cs
  | '0' :: 'b' :: cs => markedInteger? 2 cs
  | cs => do
    let (negative, cs) := takeSign cs
    let n := digitsValue 10 (← decimalRun? cs)
    if negative then (if n ≤ Text.int64Bound then return -n else none)
    else if n < Text.int64Bound then return n else none

/-- `m · 10^e` rounds to no finite double. -/
def overflows (m : Nat) (e : Int) : Bool :=
  let limit := Nat.pow 2 1024 - Nat.pow 2 970
  if m = 0 then false
  else if e < 0 then
    decide (-e < (Nat.toDigits 10 m).length) && limit * Nat.pow 10 e.natAbs ≤ m
  else 400 < e || limit ≤ m * Nat.pow 10 e.natAbs

/-- The number behind the mark of an exponent, and 0 without one. -/
def exponent? : List Char → Option Int
  | [] => some 0
  | c :: cs =>
    if c = 'e' || c = 'E' then do
      let (negative, cs) := takeSign cs
      let n : Nat := digitsValue 10 (← digitRun? Char.isDigit cs)
      return if negative then -(n : Int) else n
    else none

def isRunChar (c : Char) : Bool := c.isDigit || c == '_'

/-- The digits behind a point, and what follows them. -/
def fraction? : List Char → Option (List Char × List Char)
  | '.' :: cs => do
    return (← digitRun? Char.isDigit (cs.takeWhile isRunChar), cs.dropWhile isRunChar)
  | cs => some ([], cs)

/-- A number with a fraction or an exponent, or one of the words for infinity and no number. A
positive one that is too large is refused. -/
def isFloat (cs : List Char) : Bool :=
  let (negative, cs) := takeSign cs
  if cs = ['i', 'n', 'f'] || cs = ['n', 'a', 'n'] then true
  else Option.isSome do
    let whole ← decimalRun? (cs.takeWhile isRunChar)
    let rest := cs.dropWhile isRunChar
    let (fraction, mark) ← fraction? rest
    let e ← exponent? mark
    guard (!rest.isEmpty)
    guard (negative || !overflows (digitsValue 10 (whole ++ fraction)) (e - fraction.length))

/-- Two digits that make a number from `lo` to `hi`. -/
def twoDigits? (lo hi : Nat) : List Char → Option (Nat × List Char)
  | a :: b :: cs =>
    let n := digitsValue 10 [a, b]
    if a.isDigit && b.isDigit && lo ≤ n && n ≤ hi then some (n, cs) else none
  | _ => none

def char? (c : Char) : List Char → Option (List Char)
  | d :: cs => if d = c then some cs else none
  | [] => none

def daysInMonth (year month : Nat) : Nat :=
  if month = 2 then (if year % 4 = 0 && (year % 100 ≠ 0 || year % 400 = 0) then 29 else 28)
  else if month = 4 || month = 6 || month = 9 || month = 11 then 30
  else 31

def date? (cs : List Char) : Option (List Char) := do
  let (century, cs) ← twoDigits? 0 99 cs
  let (year, cs) ← twoDigits? 0 99 cs
  let cs ← char? '-' cs
  let (month, cs) ← twoDigits? 1 12 cs
  let cs ← char? '-' cs
  let (_, cs) ← twoDigits? 1 (daysInMonth (century * 100 + year) month) cs
  return cs

def time? (cs : List Char) : Option (List Char) := do
  let (_, cs) ← twoDigits? 0 23 cs
  let cs ← char? ':' cs
  let (_, cs) ← twoDigits? 0 59 cs
  let cs ← char? ':' cs
  let (_, cs) ← twoDigits? 0 60 cs
  match cs with
  | '.' :: cs =>
    guard (cs.head?.any Char.isDigit)
    return cs.dropWhile Char.isDigit
  | cs => return cs

/-- The distance to universal time, and nothing behind it. -/
def isOffset (cs : List Char) : Bool :=
  match cs with
  | [] => true
  | ['Z'] => true
  | ['z'] => true
  | c :: cs => (c == '+' || c == '-') && Option.isSome do
    let (_, cs) ← twoDigits? 0 23 cs
    let cs ← char? ':' cs
    let (_, cs) ← twoDigits? 0 59 cs
    guard cs.isEmpty

/-- A time of day that a date stands in front of. -/
def isTimed (cs : List Char) : Bool := (time? cs).any isOffset

/-- A date, a time of day, or both with a letter between them. -/
def isDateTime (cs : List Char) : Bool :=
  match date? cs with
  | some [] => true
  | some (c :: rest) => (c == 'T' || c == 't') && isTimed rest
  | none => (time? cs).any List.isEmpty

def wordValue? (w : List Char) : Option Value :=
  if w = ['t', 'r', 'u', 'e'] then some (.boolean true)
  else if w = ['f', 'a', 'l', 's', 'e'] then some (.boolean false)
  else match integer? w with
    | some n => some (.integer n)
    | none =>
      if isFloat w then some (.float (String.ofList w))
      else if isDateTime w then some (.dateTime (String.ofList w))
      else none

def readAtom? (cs : List Char) : Option (Value × List Char) :=
  let w := cs.takeWhile isAtomChar
  match date? w, cs.dropWhile isAtomChar with
  | some [], ' ' :: c :: rest =>
    if c.isDigit then
      let time := (c :: rest).takeWhile isAtomChar
      if isTimed time then
        some (.dateTime (String.ofList (w ++ ' ' :: time)), (c :: rest).dropWhile isAtomChar)
      else none
    else some (.dateTime (String.ofList w), ' ' :: c :: rest)
  | _, rest => (wordValue? w).map fun v => (v, rest)

end Recurrence.Toml
