import Recurrence.Toml.Atom
import Recurrence.Toml.Table
import Recurrence.Toml.Text

/-! # Reading TOML documents

A document is read section by section; the order of the tables and their contents are checked when
the sections are put together. Every reader returns what it read and the rest of the text. -/
namespace Recurrence.Toml

def skipBlanks (cs : List Char) : List Char := cs.dropWhile isBlank

def skipComment : List Char → List Char
  | '#' :: cs => cs.dropWhile isPlain
  | cs => cs

/-- The rest of a line that has nothing more to say, with its line end. -/
def endLine? (cs : List Char) : Option (List Char) :=
  match skipComment (skipBlanks cs) with
  | [] => some []
  | '\n' :: cs => some cs
  | '\r' :: '\n' :: cs => some cs
  | _ => none

/-- Blanks, line ends and comments between the items of an array. -/
def skipGaps (inComment : Bool) : List Char → List Char
  | [] => []
  | '\n' :: cs => skipGaps false cs
  | '\r' :: '\n' :: cs => skipGaps false cs
  | c :: cs =>
    if inComment && isPlain c then skipGaps true cs
    else if inComment then c :: cs
    else if c = '#' then skipGaps true cs
    else if isBlank c then skipGaps false cs
    else c :: cs

def isBareKeyChar (c : Char) : Bool := c.isAlphanum || c == '_' || c == '-'

/-- One name: bare, or a string on one line. -/
def readName? (cs : List Char) : Option (String × List Char) :=
  match cs.takeWhile isBareKeyChar with
  | [] => readLineString? cs
  | name => some (String.ofList name, cs.dropWhile isBareKeyChar)

/-- Names with points between them; `fuel` bounds their number. -/
def readNames? : Nat → List Char → Option (List String × List Char)
  | 0, _ => none
  | fuel + 1, cs => do
    let (name, cs) ← readName? (skipBlanks cs)
    match skipBlanks cs with
    | '.' :: cs =>
      let (names, cs) ← readNames? fuel cs
      return (name :: names, cs)
    | cs => return ([name], cs)

/-- The most names that a key may have, and one more than containers may be nested. -/
def depthLimit : Nat := 79

/-- A key: the path to a table, and a name in it. -/
def readKey? (cs : List Char) : Option (List String × String × List Char) := do
  let (names, cs) ← readNames? depthLimit cs
  return (names.dropLast, ← names.getLast?, cs)

section Containers

variable (readValue : List Char → Option (Value × List Char))

/-- The items of an array up to its bracket. Each takes at least one character. -/
def readItems? : Nat → List Char → Option (List Value × List Char)
  | 0, _ => none
  | fuel + 1, cs =>
    match skipGaps false cs with
    | ']' :: cs => some ([], cs)
    | cs => do
      let (v, cs) ← readValue cs
      match skipGaps false cs with
      | ',' :: cs =>
        let (vs, cs) ← readItems? fuel cs
        return (v :: vs, cs)
      | ']' :: cs => return ([v], cs)
      | _ => none

def readAssignment? (cs : List Char) : Option (Assignment × List Char) := do
  let (path, name, cs) ← readKey? cs
  match cs with
  | '=' :: cs =>
    let (value, cs) ← readValue (skipBlanks cs)
    return (⟨path, name, value⟩, cs)
  | _ => none

/-- The entries between braces, up to the closing one. -/
def readBraced? : Nat → List Char → Option (List Assignment × List Char)
  | 0, _ => none
  | fuel + 1, cs => do
    let (a, cs) ← readAssignment? readValue cs
    match skipBlanks cs with
    | ',' :: cs =>
      let (as, cs) ← readBraced? fuel cs
      return (a :: as, cs)
    | '}' :: cs => return ([a], cs)
    | _ => none

end Containers

/-- A value in which `room` containers may be nested. -/
def readValue? : Nat → List Char → Option (Value × List Char)
  | room, '[' :: cs =>
    match room with
    | 0 => none
    | room + 1 =>
      (readItems? (readValue? room) (cs.length + 1) cs).map fun (vs, cs) => (.array vs, cs)
  | room, '{' :: cs =>
    match room with
    | 0 => none
    | room + 1 =>
      match skipBlanks cs with
      | '}' :: cs => some (.table .braced [], cs)
      | cs => do
        let (as, cs) ← readBraced? (readValue? room) (cs.length + 1) cs
        return (.table .braced (← Entries.ofAssignments as), cs)
  | _, '"' :: cs => (readString? ('"' :: cs)).map fun (s, cs) => (.string s, cs)
  | _, '\x27' :: cs => (readString? ('\x27' :: cs)).map fun (s, cs) => (.string s, cs)
  | _, cs => readAtom? cs

def readHeader? (cs : List Char) : Option (Place × List Char) :=
  match cs with
  | '[' :: cs => do
    let (path, name, cs) ← readKey? cs
    match cs with
    | ']' :: ']' :: cs => return (.item path name, ← endLine? cs)
    | _ => none
  | cs => do
    let (path, name, cs) ← readKey? cs
    match cs with
    | ']' :: cs => return (.table path name, ← endLine? cs)
    | _ => none

/-- The sections from here on, where `place` is the one that is open. Each step takes a line or
more. -/
def readSections? : Nat → Place → List Char → Option (List Section)
  | 0, _, _ => none
  | fuel + 1, place, cs =>
    match skipBlanks cs with
    | [] => some [⟨place, []⟩]
    | '[' :: cs => do
      let (next, cs) ← readHeader? cs
      return ⟨place, []⟩ :: (← readSections? fuel next cs)
    | cs =>
      match endLine? cs with
      | some cs => readSections? fuel place cs
      | none => do
        let (a, cs) ← readAssignment? (readValue? depthLimit) cs
        match ← readSections? fuel place (← endLine? cs) with
        | s :: ss => return { s with entries := a :: s.entries } :: ss
        | [] => none

/-- The table of a document, which may begin with a byte order mark. -/
def Entries.ofText? (s : String) : Option Entries := do
  let cs := match s.toList with
    | '\uFEFF' :: cs => cs
    | cs => cs
  Entries.ofSections (← readSections? (cs.length + 2) .root cs)

end Recurrence.Toml
