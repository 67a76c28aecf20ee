import Recurrence.Text

/-! # Modes and escapes of a pattern

A pattern is read in a verbose mode or not, and means characters or bytes. Groups of flags change
the modes up to the end of the group around them. In verbose mode blanks and comments between the
parts of a pattern do not count; a comment begins with `#` and ends with its line.

An escape is a backslash and the characters behind it. A punctuation mark stands for itself; most
letters and all digits are refused. Forms with braces are refused as well: a pattern holds no
closing brace behind an opening one. -/
namespace Recurrence.Pattern

structure Modes where
  verbose : Bool := false
  /-- The pattern is about characters and not about bytes. -/
  unicode : Bool := true
deriving DecidableEq, Repr

/-- The text behind blanks and comments. -/
def skipGaps (inComment : Bool) : List Char → List Char
  | [] => []
  | c :: cs =>
    if inComment then skipGaps (c != '\n') cs
    else if c = '#' then skipGaps true cs
    else if Text.isBlank c then skipGaps false cs
    else c :: cs

def Modes.skip (m : Modes) (cs : List Char) : List Char :=
  if m.verbose then skipGaps false cs else cs

/-- The first character that is no blank and does not open a comment. -/
def firstInk? (inComment : Bool) : List Char → Option Char
  | [] => none
  | c :: cs =>
    if Text.isBlank c then firstInk? inComment cs
    else if !inComment && c == '#' then firstInk? true cs
    else some c

/-- The character ahead, as far as a hyphen in a class looks for it. It sees the text of a comment.
-/
def Modes.ahead? (m : Modes) (cs : List Char) : Option Char :=
  if m.verbose then firstInk? false cs else cs.head?

/-- A letter that stands for a mode, or the hyphen that turns off the modes behind it. -/
def isFlag (c : Char) : Bool := ['i', 'm', 's', 'U', 'u', 'R', 'x', '-'].contains c

/-- Flags up to a colon or a closing parenthesis, which is returned with them. None may stand twice,
and the hyphen must not be the last. -/
def readFlags (seen : List Char) : List Char → Option (List Char × Char × List Char)
  | [] => none
  | c :: cs =>
    if c = ':' || c = ')' then (if seen.head? = some '-' then none else some (seen.reverse, c, cs))
    else if isFlag c && !seen.contains c then readFlags (c :: seen) cs
    else none

/-- The state of one mode behind flags. -/
def applyFlag (flags : List Char) (letter : Char) (old : Bool) : Bool :=
  if (flags.takeWhile (· ≠ '-')).contains letter then true
  else if flags.contains letter then false
  else old

def Modes.apply (m : Modes) (flags : List Char) : Modes where
  verbose := applyFlag flags 'x' m.verbose
  unicode := applyFlag flags 'u' m.unicode

inductive Atom where
  /-- A character; the flag says that it is given as a byte. -/
  | literal (c : Char) (isByte : Bool)
  /-- A named set of characters. -/
  | set
  /-- A place in the text; the flag says that it depends on what counts as a word. -/
  | place (atWord : Bool)
deriving DecidableEq, Repr

/-- The number of so many hexadecimal digits. -/
def readHex? (m : Modes) (value : Nat) : Nat → List Char → Option (Nat × List Char)
  | 0, cs => some (value, cs)
  | n + 1, cs =>
    match m.skip cs with
    | [] => none
    | c :: cs => do readHex? m (value * 16 + (← Text.hexDigit? c)) n cs

/-- The character of a code point in so many digits. Two digits make a byte. -/
def readCode? (m : Modes) (digits : Nat) (cs : List Char) : Option (Atom × List Char) := do
  let (n, cs) ← readHex? m 0 digits cs
  if n.isValidChar then return (.literal (Char.ofNat n) (digits = 2), cs) else none

/-- A general category by its letter. There are none of bytes. -/
def readCategory? (m : Modes) (cs : List Char) : Option (Atom × List Char) :=
  match m.skip cs with
  | [] => none
  | c :: cs =>
    let isCategory := ['c', 'l', 'm', 'n', 'p', 's', 'z'].contains c.toLower
    if m.unicode && isCategory then some (.set, cs) else none

def control? : Char → Option Char
  | 'a' => some '\x07'
  | 'f' => some '\x0c'
  | 'n' => some '\n'
  | 'r' => some '\r'
  | 't' => some '\t'
  | 'v' => some '\x0b'
  | _ => none

def place? : Char → Option Atom
  | 'A' => some (.place false)
  | 'z' => some (.place false)
  | 'b' => some (.place true)
  | 'B' => some (.place true)
  | '<' => some (.place true)
  | '>' => some (.place true)
  | _ => none

def readEscape? (m : Modes) : List Char → Option (Atom × List Char)
  | [] => none
  | 'x' :: cs => readCode? m 2 cs
  | 'u' :: cs => readCode? m 4 cs
  | 'U' :: cs => readCode? m 8 cs
  | 'p' :: cs => readCategory? m cs
  | 'P' :: cs => readCategory? m cs
  | 'b' :: '{' :: _ => none
  | c :: cs =>
    if ['d', 's', 'w'].contains c then some (.set, cs)
    else if ['D', 'S', 'W'].contains c then (if m.unicode then some (.set, cs) else none)
    else match control? c, place? c with
      | some d, _ => some (.literal d false, cs)
      | none, some p => some (p, cs)
      | none, none =>
        if c.toNat < 0x80 && !c.isAlphanum then some (.literal c false, cs) else none

end Recurrence.Pattern
