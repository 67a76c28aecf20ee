import Recurrence.Json.Tree
import Recurrence.Text

/-! # Reading JSON texts

From characters to trees. Every reader returns what it read and the rest of the text; behind a fault
nothing is left. -/
namespace Recurrence.Json

def isSpace (c : Char) : Bool := c == ' ' || c == '\n' || c == '\t' || c == '\r'

def skipSpace (cs : List Char) : List Char := cs.dropWhile isSpace

def hexUnit? (a b c d : Char) : Option Nat := do
  let a ← Text.hexDigit? a
  let b ← Text.hexDigit? b
  let c ← Text.hexDigit? c
  let d ← Text.hexDigit? d
  return ((a * 16 + b) * 16 + c) * 16 + d

/-- The character that a backslash and this letter stand for. -/
def shortEscape? : Char → Option Char
  | '"' => some '"'
  | '\\' => some '\\'
  | '/' => some '/'
  | 'b' => some '\x08'
  | 'f' => some '\x0c'
  | 'n' => some '\n'
  | 'r' => some '\r'
  | 't' => some '\t'
  | _ => none

def stringFault (f : Fault) : Quoted × List Char := (⟨[], some f⟩, [])

def consPiece (p : Piece) (r : Quoted × List Char) : Quoted × List Char :=
  ({ r.1 with pieces := p :: r.1.pieces }, r.2)

/-- A string behind its opening quote. An escaped unit is four bytes of hexadecimal digits; a text
with fewer bytes left is unfinished. -/
def readQuoted : List Char → Quoted × List Char
  | [] => stringFault .unfinished
  | '"' :: cs => (⟨[], none⟩, cs)
  | '\\' :: 'u' :: a :: b :: c :: d :: cs =>
    match hexUnit? a b c d with
    | some n => consPiece (.unit n) (readQuoted cs)
    | none => stringFault .illFormed
  | '\\' :: 'u' :: cs =>
    stringFault (if (String.ofList cs).utf8ByteSize < 4 then .unfinished else .illFormed)
  | '\\' :: c :: cs =>
    match shortEscape? c with
    | some e => consPiece (.char e) (readQuoted cs)
    | none => stringFault .illFormed
  | ['\\'] => stringFault .unfinished
  | c :: cs =>
    if c.toNat < 0x20 then stringFault .illFormed else consPiece (.char c) (readQuoted cs)

/-- A run of digits, which must not be empty. -/
def readDigits (cs : List Char) : Except Tree (List Char × List Char) :=
  match cs.takeWhile Char.isDigit with
  | [] => .error (if cs.isEmpty then .cutNumber else .fault .illFormed)
  | ds => .ok (ds, cs.dropWhile Char.isDigit)

def readFraction : List Char → Except Tree (List Char × List Char)
  | '.' :: cs => readDigits cs
  | cs => .ok ([], cs)

def readExponent : List Char → Except Tree (Option (Bool × List Char) × List Char)
  | c :: cs =>
    if c = 'e' || c = 'E' then
      let (negative, digits) := match cs with
        | '-' :: cs => (true, cs)
        | '+' :: cs => (false, cs)
        | cs => (false, cs)
      (fun (ds, rest) => (some (negative, ds), rest)) <$> readDigits digits
    else .ok (none, c :: cs)
  | [] => .ok (none, [])

/-- A number behind its sign. Only zero begins with the digit 0. -/
def readUnsigned (negative : Bool) (cs : List Char) : Except Tree (Numeral × List Char) := do
  let (whole, cs) ← readDigits cs
  if whole.head? = some '0' && whole.length ≠ 1 then throw (.fault .illFormed)
  let (fraction, cs) ← readFraction cs
  let (exponent, cs) ← readExponent cs
  return (⟨negative, whole, fraction, exponent⟩, cs)

def readNumber (cs : List Char) : Tree × List Char :=
  let r := match cs with
    | '-' :: cs => readUnsigned true cs
    | cs => readUnsigned false cs
  match r with
  | .ok (n, cs) => (.number n, cs)
  | .error t => (t, [])

def readWord (t : Tree) : List Char → List Char → Tree × List Char
  | [], cs => (t, cs)
  | _ :: _, [] => (.cutWord, [])
  | w :: ws, c :: cs => if c = w then readWord t ws cs else (.fault .illFormed, [])

mutual

/-- A value after white space. Each call spends fuel; twice the length of the text is enough. -/
def readValue : Nat → List Char → Tree × List Char
  | 0, _ => (.fault .unfinished, [])
  | fuel + 1, cs =>
    match skipSpace cs with
    | [] => (.fault .unfinished, [])
    | 'n' :: cs => readWord .null ['u', 'l', 'l'] cs
    | 't' :: cs => readWord (.bool true) ['r', 'u', 'e'] cs
    | 'f' :: cs => readWord (.bool false) ['a', 'l', 's', 'e'] cs
    | '"' :: cs => let (q, cs) := readQuoted cs; (.string q, cs)
    | '[' :: cs =>
      match skipSpace cs with
      | ']' :: cs => (.array [] none, cs)
      | cs => let (items, fault, cs) := readItems fuel cs; (.array items fault, cs)
    | '{' :: cs =>
      match skipSpace cs with
      | '}' :: cs => (.object [] none, cs)
      | cs => let (members, fault, cs) := readMembers fuel cs; (.object members fault, cs)
    | c :: cs => if c = '-' || c.isDigit then readNumber (c :: cs) else (.fault .illFormed, [])

/-- The items of an array up to its bracket. -/
def readItems : Nat → List Char → List Tree × Option Fault × List Char
  | 0, _ => ([], some .unfinished, [])
  | fuel + 1, cs =>
    let (t, cs) := readValue fuel cs
    match skipSpace cs with
    | ',' :: cs => let (ts, fault, cs) := readItems fuel cs; (t :: ts, fault, cs)
    | ']' :: cs => ([t], none, cs)
    | [] => ([t], some .unfinished, [])
    | _ => ([t], some .illFormed, [])

/-- The members of an object up to its brace. -/
def readMembers : Nat → List Char → List (Tree × Tree) × Option Fault × List Char
  | 0, _ => ([], some .unfinished, [])
  | fuel + 1, cs =>
    let (name, cs) := readValue fuel cs
    let (t, cs) := match skipSpace cs with
      | ':' :: cs => readValue fuel cs
      | [] => (.fault .unfinished, [])
      | _ => (.fault .illFormed, [])
    match skipSpace cs with
    | ',' :: cs => let (ms, fault, cs) := readMembers fuel cs; ((name, t) :: ms, fault, cs)
    | '}' :: cs => ([(name, t)], none, cs)
    | [] => ([(name, t)], some .unfinished, [])
    | _ => ([(name, t)], some .illFormed, [])

end

/-- A whole text: its value, and whether only white space follows. -/
structure Document where
  root : Tree
  endsThere : Bool
deriving Repr

def Document.ofText (s : String) : Document :=
  let cs := s.toList
  let (t, rest) := readValue (2 * cs.length + 2) cs
  ⟨t, (skipSpace rest).isEmpty⟩

end Recurrence.Json
