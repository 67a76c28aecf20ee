import Recurrence.Pattern.Class
import Recurrence.Text.Alphanumeric

/-! # Patterns

Regular expressions are only checked here and never matched: whether one is well formed, and
whether it asks where words begin and end, which its matcher cannot tell for the words of all
scripts. A pattern is read from left to right; the groups that are open wait on a stack. -/
namespace Recurrence

inductive PatternError where
  | malformed
  | wordPlaces
deriving DecidableEq, Repr

def PatternError.message : PatternError → String
  | malformed => "error building NFA"
  | wordPlaces =>
    "unsupported regex feature for DFAs: cannot build DFAs for regexes with Unicode word " ++
      "boundaries; switch to ASCII word boundaries, or heuristically enable Unicode word " ++
      "boundaries or use a different regex engine"

namespace Pattern

/-- One element of a branch. Flags are an element that cannot be repeated. -/
inductive Element where
  | flags
  | part (height : Nat)
deriving DecidableEq, Repr

def Element.height : Element → Nat
  | flags => 0
  | part h => h

def greatest (hs : List Nat) : Nat := hs.foldl max 0

/-- What was read of a group, or of the pattern as a whole. -/
structure Level where
  /-- The modes behind what was read. -/
  modes : Modes := {}
  /-- The elements of the branch that is being read, latest first. -/
  elements : List Element := []
  /-- The heights of the branches before it. -/
  branches : List Nat := []
deriving DecidableEq, Repr

/-- More than one element is a level of nesting. -/
def Level.branchHeight (l : Level) : Nat :=
  let height := greatest (l.elements.map Element.height)
  if l.elements.length ≤ 1 then height else height + 1

/-- More than one branch is a level of nesting. -/
def Level.height (l : Level) : Nat :=
  if l.branches.isEmpty then l.branchHeight else greatest (l.branchHeight :: l.branches) + 1

def Level.add (l : Level) (e : Element) : Level := { l with elements := e :: l.elements }

structure Reading where
  current : Level := {}
  /-- The levels around the current one, innermost first. -/
  outer : List Level := []
  /-- The names of groups. -/
  names : List (List Char) := []
  /-- It was asked where a word begins or ends. -/
  asksWords : Bool := false
deriving DecidableEq, Repr

namespace Reading

def modes (r : Reading) : Modes := r.current.modes

def add (r : Reading) (e : Element) : Reading := { r with current := r.current.add e }

/-- Enters a group in which these modes hold. -/
def enter (r : Reading) (modes : Modes) : Reading :=
  { r with current := { modes }, outer := r.current :: r.outer }

/-- Leaves the innermost group, and with it the modes that were set in it. -/
def leave? (r : Reading) : Option Reading :=
  match r.outer with
  | [] => none
  | l :: ls => some { r with current := l.add (.part (r.current.height + 1)), outer := ls }

def branch (r : Reading) : Reading :=
  let l := r.current
  { r with current := { l with elements := [], branches := l.branchHeight :: l.branches } }

def repeatLast? (r : Reading) : Option Reading :=
  match r.current.elements with
  | .part h :: es => some { r with current := { r.current with elements := .part (h + 1) :: es } }
  | _ => none

/-- A character of the name of a group. -/
def isNameChar (isFirst : Bool) (c : Char) : Bool :=
  if isFirst then c == '_' || Text.isAlphabetic c
  else ['_', '.', '[', ']'].contains c || Text.isAlphanumeric c

def isName : List Char → Bool
  | [] => false
  | c :: cs => isNameChar true c && cs.all (isNameChar false)

/-- A group whose name comes first, up to an angle bracket. No two groups have one name. -/
def enterNamed? (r : Reading) (cs : List Char) : Option (Reading × List Char) :=
  let name := cs.takeWhile (· ≠ '>')
  match cs.dropWhile (· ≠ '>') with
  | [] => none
  | _ :: rest =>
    if isName name && !r.names.contains name then
      some ({ r.enter r.modes with names := name :: r.names }, rest)
    else none

/-- Flags alone change the modes from here on; with a colon they hold in a group of their own. -/
def applyFlags? (r : Reading) (cs : List Char) : Option (Reading × List Char) := do
  let (flags, ending, cs) ← readFlags [] cs
  let modes := r.modes.apply flags
  if ending = ':' then return (r.enter modes, cs)
  else if flags.isEmpty then none
  else return ({ r with current := { r.current.add .flags with modes } }, cs)

/-- What stands behind an opening parenthesis. -/
def open? (r : Reading) (cs : List Char) : Option (Reading × List Char) :=
  match r.modes.skip cs with
  | '?' :: 'P' :: '<' :: cs => r.enterNamed? cs
  | '?' :: '<' :: cs => r.enterNamed? cs
  | '?' :: cs => r.applyFlags? cs
  | cs => some (r.enter r.modes, cs)

/-- Adds an atom. A byte from 128 on is no text by itself. -/
def addAtom? (r : Reading) : Atom → Option Reading
  | .literal c isByte =>
    if isByte && !r.modes.unicode && 0x80 ≤ c.toNat then none else some (r.add (.part 0))
  | .set => some (r.add (.part 0))
  | .place atWord =>
    some { r.add (.part 0) with asksWords := r.asksWords || (atWord && r.modes.unicode) }

/-- The question mark that makes a repetition reluctant. -/
def dropReluctance : List Char → List Char
  | '?' :: cs => cs
  | cs => cs

/-- Reads the next part of a pattern, which begins with `c`. The dot has no meaning for bytes: some
are no text. -/
def step? (r : Reading) (c : Char) (cs : List Char) : Option (Reading × List Char) :=
  if c = '(' then r.open? cs
  else if c = ')' then r.leave?.map fun r => (r, cs)
  else if c = '|' then some (r.branch, cs)
  else if c = '[' then do
    let (e, cs) ← readClass? r.modes cs
    return (r.add (.part e.height), cs)
  else if c = '?' || c = '*' || c = '+' then r.repeatLast?.map fun r => (r, dropReluctance cs)
  else if c = '{' || (c = '.' && !r.modes.unicode) then none
  else if c = '\\' then do
    let (a, cs) ← readEscape? r.modes cs
    return (← r.addAtom? a, cs)
  else some (r.add (.part 0), cs)

def run? : Nat → Reading → List Char → Option Reading
  | 0, _, _ => none
  | fuel + 1, r, cs =>
    match r.modes.skip cs with
    | [] => some r
    | c :: cs => do
      let (r, cs) ← r.step? c cs
      run? fuel r cs

end Reading

/-- How deep a pattern may be nested. -/
def heightLimit : Nat := 250

def check (cs : List Char) : Except PatternError Unit :=
  match Reading.run? (cs.length + 1) {} cs with
  | none => .error .malformed
  | some r =>
    if !r.outer.isEmpty || heightLimit < r.current.height then .error .malformed
    else if r.asksWords then .error .wordPlaces
    else .ok ()

end Pattern
end Recurrence
