import Recurrence.Pattern.Escape

/-! # Classes in patterns

A class is a set of characters between brackets. It holds characters, ranges, named sets and
further classes, and may be cut with, reduced by or compared to another one by `&&`, `--` and `~~`.
Of a class of bytes only one thing matters beyond its form: no byte from 128 on may be in it, since
alone it is no text. Such bytes are all in the class or all outside, because a class can name none
of them. -/
namespace Recurrence.Pattern

/-- What matters of a class that was read: how deep it is nested, and whether it has the bytes from
128 on. -/
structure Extent where
  height : Nat
  high : Bool
deriving DecidableEq, Repr

/-- What two classes are joined by. -/
inductive Joint where
  | intersection
  | difference
  | symmetricDifference
deriving DecidableEq, Repr

def Joint.apply (j : Joint) (a b : Bool) : Bool :=
  match j with
  | intersection => a && b
  | difference => a && !b
  | symmetricDifference => a != b

/-- A left operand with its joint, if there is one, and the right operand. -/
def Extent.join (left : Option (Joint × Extent)) (right : Extent) : Extent :=
  match left with
  | none => right
  | some (j, left) => ⟨max left.height right.height + 1, j.apply left.high right.high⟩

/-- Members that stand side by side. -/
structure Members where
  count : Nat := 0
  height : Nat := 0
  high : Bool := false
deriving DecidableEq, Repr

def Members.add (ms : Members) (e : Extent) : Members :=
  ⟨ms.count + 1, max ms.height e.height, ms.high || e.high⟩

/-- More than one member is a level of nesting. -/
def Members.extent (ms : Members) : Extent :=
  ⟨if ms.count ≤ 1 then ms.height else ms.height + 1, ms.high⟩

/-- One member without parts and without high bytes. -/
def Members.addPlain (ms : Members) : Members := ms.add ⟨0, false⟩

def asciiSets : List String :=
  ["alnum", "alpha", "ascii", "blank", "cntrl", "digit", "graph", "lower", "print", "punct",
    "space", "upper", "word", "xdigit"]

/-- A set such as `[:alpha:]` behind its bracket, and whether it is turned around. -/
def readAsciiSet? (cs : List Char) : Option (Bool × List Char) :=
  let (negated, cs) := match cs with
    | ':' :: '^' :: cs => (true, ':' :: cs)
    | cs => (false, cs)
  match cs with
  | ':' :: cs =>
    match cs.dropWhile (· ≠ ':') with
    | ':' :: ']' :: rest =>
      let name := String.ofList (cs.takeWhile (· ≠ ':'))
      if asciiSets.contains name then some (negated, rest) else none
    | _ => none
  | _ => none

def readMember? (m : Modes) : List Char → Option (Atom × List Char)
  | [] => none
  | '\\' :: cs => readEscape? m cs
  | c :: cs => some (.literal c false, cs)

/-- A literal that may stand in a class: of bytes only those that are ASCII. -/
def memberChar? (m : Modes) : Atom → Option Char
  | .literal c _ => if m.unicode || c.toNat < 0x80 then some c else none
  | _ => none

def isMember (m : Modes) : Atom → Bool
  | .set => true
  | a => (memberChar? m a).isSome

/-- A member or a range of characters. A hyphen makes a range unless it is the last or one of two.
-/
def readRange? (m : Modes) (cs : List Char) : Option (List Char) := do
  let (a, cs) ← readMember? m cs
  match m.skip cs with
  | [] => none
  | '-' :: rest =>
    if m.ahead? rest = some ']' || m.ahead? rest = some '-' then
      if isMember m a then return '-' :: rest else none
    else
      let (b, rest) ← readMember? m (m.skip rest)
      if (← memberChar? m a) ≤ (← memberChar? m b) then return rest else none
  | rest => if isMember m a then return rest else none

/-- Hyphens at the beginning of a class, and what does not count around them. -/
def readHyphens (verbose inComment : Bool) (ms : Members) : List Char → Members × List Char
  | [] => (ms, [])
  | c :: cs =>
    if inComment then readHyphens verbose (c != '\n') ms cs
    else if c = '-' then readHyphens verbose false ms.addPlain cs
    else if verbose && c == '#' then readHyphens verbose true ms cs
    else if verbose && Text.isBlank c then readHyphens verbose false ms cs
    else (ms, c :: cs)

/-- The beginning of a class behind its bracket: whether it is turned around, and its first members.
A closing bracket that stands first is a member. -/
def openClass (m : Modes) (cs : List Char) : Bool × Members × List Char :=
  let (negated, cs) := match m.skip cs with
    | '^' :: cs => (true, cs)
    | cs => (false, cs)
  match readHyphens m.verbose false {} cs with
  | (ms, ']' :: cs) => if ms.count = 0 then (negated, ms.addPlain, cs) else (negated, ms, ']' :: cs)
  | (ms, cs) => (negated, ms, cs)

def closeClass? (m : Modes) (negated : Bool) (e : Extent) : Option Extent :=
  let high := e.high != negated
  if high && !m.unicode then none else some ⟨e.height + 1, high⟩

/-- The members of a class up to its bracket. Each step takes a character or more. -/
def readMembers? (m : Modes) :
    Nat → Option (Joint × Extent) → Members → List Char → Option (Extent × List Char)
  | 0, _, _, _ => none
  | fuel + 1, left, ms, cs =>
    let joined := Extent.join left ms.extent
    match m.skip cs with
    | [] => none
    | ']' :: cs => some (joined, cs)
    | '&' :: '&' :: cs => readMembers? m fuel (some (.intersection, joined)) {} cs
    | '-' :: '-' :: cs => readMembers? m fuel (some (.difference, joined)) {} cs
    | '~' :: '~' :: cs => readMembers? m fuel (some (.symmetricDifference, joined)) {} cs
    | '[' :: cs =>
      match readAsciiSet? cs with
      | some (negated, cs) => readMembers? m fuel left (ms.add ⟨0, negated⟩) cs
      | none => do
        let (negated, inner, cs) := openClass m cs
        let (e, cs) ← readMembers? m fuel none inner cs
        readMembers? m fuel left (ms.add (← closeClass? m negated e)) cs
    | cs => do readMembers? m fuel left ms.addPlain (← readRange? m cs)

def readClass? (m : Modes) (cs : List Char) : Option (Extent × List Char) := do
  let (negated, ms, cs) := openClass m cs
  let (e, cs) ← readMembers? m (cs.length + 1) none ms cs
  return (← closeClass? m negated e, cs)

end Recurrence.Pattern
