/-! # JSON values

The values that the program writes, and their text: on one line, or with two spaces of indentation
for each level of nesting. Strings escape the quote, the backslash and the characters below the
space, and nothing else. -/
namespace Recurrence.Json

/-- A JSON value without null and without fractions. -/
inductive Value where
  | bool (b : Bool)
  | number (n : Nat)
  | string (s : String)
  | array (items : List Value)
  | object (members : List (String × Value))
deriving Repr

/-- How a value is laid out over lines. -/
inductive Layout where
  | compact
  | indented
deriving DecidableEq, Repr

/-- What stands before an item or a closing bracket at this depth of nesting. -/
def Layout.lineBreak (l : Layout) (depth : Nat) : List Char :=
  match l with
  | .compact => []
  | .indented => '\n' :: List.replicate (2 * depth) ' '

/-- What stands between a name and its value. -/
def Layout.colon : Layout → List Char
  | .compact => [':']
  | .indented => [':', ' ']

def escape (c : Char) : List Char :=
  if c = '"' then ['\\', '"']
  else if c = '\\' then ['\\', '\\']
  else if c = '\n' then ['\\', 'n']
  else if c = '\t' then ['\\', 't']
  else if c = '\r' then ['\\', 'r']
  else if c.toNat = 8 then ['\\', 'b']
  else if c.toNat = 12 then ['\\', 'f']
  else if c.toNat < 0x20 then
    ['\\', 'u', '0', '0', Nat.digitChar (c.toNat / 16), Nat.digitChar (c.toNat % 16)]
  else [c]

def quote (s : String) : List Char := '"' :: s.toList.flatMap escape ++ ['"']

mutual

/-- The text of a value that stands `depth` brackets deep. -/
def Value.chars (l : Layout) (depth : Nat) : Value → List Char
  | .bool true => ['t', 'r', 'u', 'e']
  | .bool false => ['f', 'a', 'l', 's', 'e']
  | .number n => Nat.toDigits 10 n
  | .string s => quote s
  | .array [] => ['[', ']']
  | .array (v :: vs) =>
    '[' :: l.lineBreak (depth + 1) ++ v.chars l (depth + 1) ++ itemChars l (depth + 1) vs ++
      l.lineBreak depth ++ [']']
  | .object [] => ['{', '}']
  | .object (m :: ms) =>
    '{' :: l.lineBreak (depth + 1) ++ memberChars l (depth + 1) m ++
      memberListChars l (depth + 1) ms ++ l.lineBreak depth ++ ['}']

def itemChars (l : Layout) (depth : Nat) : List Value → List Char
  | [] => []
  | v :: vs => ',' :: l.lineBreak depth ++ v.chars l depth ++ itemChars l depth vs

def memberChars (l : Layout) (depth : Nat) : String × Value → List Char
  | (name, v) => quote name ++ l.colon ++ v.chars l depth

def memberListChars (l : Layout) (depth : Nat) : List (String × Value) → List Char
  | [] => []
  | m :: ms => ',' :: l.lineBreak depth ++ memberChars l depth m ++ memberListChars l depth ms

end

def Value.render (l : Layout) (v : Value) : String := String.ofList (v.chars l 0)

end Recurrence.Json
