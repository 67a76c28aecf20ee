import Recurrence.Text

/-! # TOML strings

Strings come in four styles: with or without escapes, on one line or on several. One machine reads
them all, a character at a time.

To write a text, the first of the four styles is taken that shows it as it is: on one line with
escapes, on one line without, on several lines with escapes, on several lines without. A text that
none of them shows as it is gets escapes. -/
namespace Recurrence.Toml

def isBlank (c : Char) : Bool := c == ' ' || c == '\t'

/-- A character that comments and strings may hold as it is. -/
def isPlain (c : Char) : Bool := c == '\t' || (0x20 ≤ c.toNat && c.toNat ≠ 0x7F)

/-- How a string is delimited and what it may hold. -/
structure Style where
  quote : Char
  escapes : Bool
  multiline : Bool
deriving DecidableEq, Repr

def Style.basic : Style := ⟨'"', true, false⟩
def Style.literal : Style := ⟨'\x27', false, false⟩
def Style.basicLines : Style := ⟨'"', true, true⟩
def Style.literalLines : Style := ⟨'\x27', false, true⟩

/-- Where the reader stands inside a string. -/
inductive Mode where
  | text
  | escape
  /-- Inside an escaped code point: digits still to come, and the number so far. -/
  | code (left value : Nat)
  /-- Behind a backslash and blanks, where the line must end. -/
  | lineEnd
  /-- Behind an escaped line end, where blanks and further line ends are passed over. -/
  | gap
  /-- Behind a carriage return: the line ends, in the text or in a gap. -/
  | carriage (inGap : Bool)
deriving DecidableEq, Repr

def shortEscape? : Char → Option Char
  | '"' => some '"'
  | '\\' => some '\\'
  | 'b' => some '\x08'
  | 'f' => some '\x0c'
  | 'n' => some '\n'
  | 'r' => some '\r'
  | 't' => some '\t'
  | _ => none

def scalar? (n : Nat) : Option Char := if h : n.isValidChar then some (Char.ofNatAux n h) else none

/-- A character in running text: the next mode, and what it adds to the string. -/
def Style.textStep (st : Style) (c : Char) : Option (Mode × List Char) :=
  if st.escapes && c == '\\' then some (.escape, [])
  else if st.multiline && c == '\n' then some (.text, ['\n'])
  else if st.multiline && c == '\r' then some (.carriage false, [])
  else if isPlain c then some (.text, [c])
  else none

def Style.lineEndStep (c : Char) : Option (Mode × List Char) :=
  if isBlank c then some (.lineEnd, [])
  else if c = '\n' then some (.gap, [])
  else if c = '\r' then some (.carriage true, [])
  else none

def Style.escapeStep (st : Style) (c : Char) : Option (Mode × List Char) :=
  match shortEscape? c with
  | some e => some (.text, [e])
  | none =>
    if c = 'u' then some (.code 4 0, [])
    else if c = 'U' then some (.code 8 0, [])
    else if st.multiline then lineEndStep c
    else none

def Style.codeStep (left value : Nat) (c : Char) : Option (Mode × List Char) := do
  let value := value * 16 + (← Text.hexDigit? c)
  if left ≤ 1 then return (.text, [← scalar? value]) else return (.code (left - 1) value, [])

def Style.gapStep (st : Style) (c : Char) : Option (Mode × List Char) :=
  if isBlank c || c == '\n' then some (.gap, [])
  else if c = '\r' then some (.carriage true, [])
  else st.textStep c

def Style.step (st : Style) (m : Mode) (c : Char) : Option (Mode × List Char) :=
  match m with
  | .text => st.textStep c
  | .escape => st.escapeStep c
  | .code left value => codeStep left value c
  | .lineEnd => lineEndStep c
  | .gap => st.gapStep c
  | .carriage inGap =>
    if c = '\n' then some (if inGap then (.gap, []) else (.text, ['\n'])) else none

/-- The end of a string, if it is here: what it still adds, and the text behind it. Three quotes end
a string of several lines, and up to two more in front of them belong to it. -/
def Style.close? (st : Style) (m : Mode) (cs : List Char) : Option (List Char × List Char) :=
  if m ≠ .text && m ≠ .gap then none
  else if st.multiline then
    match (cs.takeWhile (· == st.quote)).length with
    | 0 => none
    | 1 => none
    | 2 => none
    | 3 => some ([], cs.drop 3)
    | 4 => some ([st.quote], cs.drop 4)
    | _ => some ([st.quote, st.quote], cs.drop 5)
  else if cs.head? = some st.quote then some ([], cs.drop 1)
  else none

/-- A string behind its opening quotes. -/
def Style.readFrom (st : Style) : Mode → List Char → Option (List Char × List Char)
  | _, [] => none
  | m, c :: cs =>
    match st.close? m (c :: cs) with
    | some r => some r
    | none => do
      let (next, out) ← st.step m c
      let (s, rest) ← st.readFrom next cs
      return (out ++ s, rest)

/-- A line end right behind the opening quotes does not count. -/
def dropNewline : List Char → List Char
  | '\n' :: cs => cs
  | '\r' :: '\n' :: cs => cs
  | cs => cs

def readLineString? : List Char → Option (String × List Char)
  | '"' :: cs => (Style.basic.readFrom .text cs).map fun (s, rest) => (String.ofList s, rest)
  | '\x27' :: cs => (Style.literal.readFrom .text cs).map fun (s, rest) => (String.ofList s, rest)
  | _ => none

def readString? : List Char → Option (String × List Char)
  | '"' :: '"' :: '"' :: cs =>
    (Style.basicLines.readFrom .text (dropNewline cs)).map fun (s, rest) =>
      (String.ofList s, rest)
  | '\x27' :: '\x27' :: '\x27' :: cs =>
    (Style.literalLines.readFrom .text (dropNewline cs)).map fun (s, rest) =>
      (String.ofList s, rest)
  | cs => readLineString? cs

/-- The length of the longest run of `q`, where `run` of them stand in front. -/
def longestRun (q : Char) (run : Nat) : List Char → Nat
  | [] => run
  | c :: cs => if c = q then longestRun q (run + 1) cs else max run (longestRun q 0 cs)

/-- A character that must be escaped in every style: a control character, save tab and line feed. -/
def isControl (c : Char) : Bool := !(isPlain c || c == '\n')

/-- The first style that shows the text as it is. -/
def Style.plain? (cs : List Char) : Option Style :=
  let quotes := longestRun '"' 0 cs
  let apostrophes := longestRun '\x27' 0 cs
  let hasNewline := cs.contains '\n'
  let hasBackslash := cs.contains '\\'
  if cs.any isControl then none
  else if !hasBackslash && quotes = 0 && !hasNewline then some .basic
  else if apostrophes = 0 && !hasNewline then some .literal
  else if !hasBackslash && quotes ≤ 2 then some .basicLines
  else if apostrophes ≤ 2 then some .literalLines
  else none

def Style.ofText (cs : List Char) : Style :=
  match plain? cs with
  | some st => st
  | none => if cs.contains '\n' then .basicLines else .basic

def codeEscape (c : Char) : List Char :=
  let digit (n : Nat) : Char := (Nat.digitChar (n % 16)).toUpper
  let n := c.toNat
  ['\\', 'u', digit (n / 4096), digit (n / 256), digit (n / 16), digit n]

/-- The escape of a character that cannot stand as it is, quotes apart. -/
def Style.escape? (st : Style) (c : Char) : Option (List Char) :=
  if c = '\\' then some ['\\', '\\']
  else if c = '\t' then some ['\\', 't']
  else if c = '\n' then (if st.multiline then none else some ['\\', 'n'])
  else if c = '\r' then some ['\\', 'r']
  else if c = '\x08' then some ['\\', 'b']
  else if c = '\x0c' then some ['\\', 'f']
  else if isControl c then some (codeEscape c)
  else none

/-- The text between the quotes of a style with escapes, where `run` quotes stand in front. On
several lines up to two quotes in a row stand as they are. -/
def Style.escaped (st : Style) (run : Nat) : List Char → List Char
  | [] => []
  | c :: cs =>
    if c = '"' then
      if run < (if st.multiline then 2 else 0) then '"' :: st.escaped (run + 1) cs
      else '\\' :: '"' :: st.escaped 0 cs
    else match st.escape? c with
      | some e => e ++ st.escaped 0 cs
      | none => c :: st.escaped 0 cs

def Style.delimiter (st : Style) : List Char :=
  List.replicate (if st.multiline then 3 else 1) st.quote

/-- The text as a string. A text of several lines begins on a line of its own. -/
def Style.write (st : Style) (cs : List Char) : List Char :=
  st.delimiter ++ (if st.multiline && cs.contains '\n' then ['\n'] else []) ++
    (if st.escapes then st.escaped 0 cs else cs) ++ st.delimiter

def writeString (s : String) : String := String.ofList ((Style.ofText s.toList).write s.toList)

end Recurrence.Toml
