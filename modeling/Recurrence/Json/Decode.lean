import Recurrence.Json.Number
import Recurrence.Json.Reader

/-! # Decoding JSON trees

Decoders walk a tree in the order of its text and stop at the first problem, be it a fault of the
text or a value of the wrong kind. What no decoder asks for is skipped, which forgives more than
reading does: numbers of any size and surrogates without a partner pass. -/
namespace Recurrence.Json

abbrev Decoded (α : Type) := Except Error α

def ofFault {α : Type} (r : Except Fault α) : Decoded α := r.mapError .fault

def mismatch {α : Type} (m : Mismatch) : Decoded α := .error (.mismatch m)

def noFault : Option Fault → Except Fault Unit
  | none => .ok ()
  | some f => .error f

def isLeadSurrogate (n : Nat) : Bool := 0xD800 ≤ n && n < 0xDC00

def isTrailSurrogate (n : Nat) : Bool := 0xDC00 ≤ n && n < 0xE000

def pairedChar (lead trail : Nat) : Char :=
  Char.ofNat (0x10000 + (lead - 0xD800) * 0x400 + (trail - 0xDC00))

/-- The characters of a string. Surrogates must come in pairs. -/
def piecesText (stop : Option Fault) : List Piece → Except Fault (List Char)
  | [] => (noFault stop).map fun _ => []
  | .char c :: ps => (c :: ·) <$> piecesText stop ps
  | .unit n :: ps =>
    if isLeadSurrogate n then
      match ps with
      | .unit m :: ps =>
        if isTrailSurrogate m then (pairedChar n m :: ·) <$> piecesText stop ps
        else .error .illFormed
      | .char _ :: _ => .error .illFormed
      | [] => .error (stop.getD .illFormed)
    else if isTrailSurrogate n then .error .illFormed
    else (Char.ofNat n :: ·) <$> piecesText stop ps

def Quoted.text (q : Quoted) : Except Fault String :=
  String.ofList <$> piecesText q.fault q.pieces

namespace Tree

/-- The name of a member: a string and nothing else. -/
def memberName : Tree → Except Fault String
  | .string q => q.text
  | .fault f => .error f
  | _ => .error .illFormed

/-- What stands here, as far as an error message has to tell. -/
def found : Tree → Except Fault Found
  | .null => .ok (.scalar .null)
  | .bool b => .ok (.scalar (.bool b))
  | .number n => Found.scalar <$> n.scalar
  | .cutNumber => .error .unfinished
  | .cutWord => .error .unfinished
  | .string q => (fun s => .scalar (.string s)) <$> q.text
  | .array _ _ => .ok .sequence
  | .object _ _ => .ok .map
  | .fault f => .error f

def mistyped {α : Type} (t : Tree) (expected : String) : Decoded α := do
  mismatch (.invalidType (← ofFault t.found) expected)

mutual

/-- Passes over a value that nobody asked for. -/
def skip : Tree → Except Fault Unit
  | .null => .ok ()
  | .bool _ => .ok ()
  | .number _ => .ok ()
  | .cutNumber => .error .illFormed
  | .cutWord => .error .unfinished
  | .string q => noFault q.fault
  | .array items stop => do
    skipItems items
    noFault stop
  | .object members stop => do
    skipMembers members
    noFault stop
  | .fault f => .error f

def skipItems : List Tree → Except Fault Unit
  | [] => .ok ()
  | t :: ts => do
    t.skip
    skipItems ts

def skipMembers : List (Tree × Tree) → Except Fault Unit
  | [] => .ok ()
  | m :: ms => do
    skipMember m
    skipMembers ms

def skipMember : Tree × Tree → Except Fault Unit
  | (.string q, t) => do
    noFault q.fault
    t.skip
  | (.fault f, _) => .error f
  | _ => .error .illFormed

end

mutual

/-- Reads a value in full without knowing what it is for. At most `room` containers may nest. -/
def check : Nat → Tree → Except Fault Unit
  | _, .null => .ok ()
  | _, .bool _ => .ok ()
  | _, .number n => n.scalar.map fun _ => ()
  | _, .cutNumber => .error .unfinished
  | _, .cutWord => .error .unfinished
  | _, .string q => q.text.map fun _ => ()
  | 0, .array _ _ => .error .illFormed
  | 0, .object _ _ => .error .illFormed
  | room + 1, .array items stop => do
    checkItems room items
    noFault stop
  | room + 1, .object members stop => do
    checkMembers room members
    noFault stop
  | _, .fault f => .error f

def checkItems : Nat → List Tree → Except Fault Unit
  | _, [] => .ok ()
  | room, t :: ts => do
    t.check room
    checkItems room ts

def checkMembers : Nat → List (Tree × Tree) → Except Fault Unit
  | _, [] => .ok ()
  | room, m :: ms => do
    checkMember room m
    checkMembers room ms

def checkMember : Nat → Tree × Tree → Except Fault Unit
  | room, (name, t) => do
    let _ ← name.memberName
    t.check room

end

def word : Tree → Decoded UInt32
  | .number n => do
    match ← ofFault n.scalar with
    | .integer v =>
      if 0 ≤ v && v < (UInt32.size : Int) then .ok (UInt32.ofNat v.toNat)
      else mismatch (.invalidValue (.scalar (.integer v)) "u32")
    | s => mismatch (.invalidType (.scalar s) "u32")
  | t => t.mistyped "u32"

def text : Tree → Decoded String
  | .string q => ofFault q.text
  | t => t.mistyped "a string"

def truth : Tree → Decoded Bool
  | .bool b => .ok b
  | t => t.mistyped "a boolean"

def unit : Tree → Decoded Unit
  | .null => .ok ()
  | t => t.mistyped "unit"

def knownVariant (known : List String) (name : String) : Decoded String :=
  if known.contains name then .ok name else mismatch (.unknownVariant name known)

/-- The name of a variant, out of the known ones. -/
def variantName (known : List String) : Tree → Decoded String
  | .string q => do knownVariant known (← ofFault q.text)
  | t => t.mistyped "variant identifier"

/-- A variant without contents: its name, or an object with its name and null. -/
def plainVariant (known : List String) : Tree → Decoded String
  | .string q => variantName known (.string q)
  | .object [] stop => .error (.fault (stop.getD .illFormed))
  | .object ((name, t) :: rest) stop => do
    let name ← knownVariant known (← ofFault name.memberName)
    t.unit
    if !rest.isEmpty then throw (.fault .illFormed)
    ofFault (noFault stop)
    return name
  | .fault f => .error (.fault f)
  | _ => .error (.fault .illFormed)

/-- The items of an array that must have `n` more of them, where `done` have been read. -/
def readExactly {α : Type} (read : Tree → Decoded α) (expected : String) (stop : Option Fault) :
    Nat → Nat → List Tree → Decoded (List α)
  | 0, _, [] => (ofFault (noFault stop)).map fun _ => []
  | 0, _, _ :: _ => .error (.fault .illFormed)
  | _ + 1, done, [] => do
    ofFault (noFault stop)
    mismatch (.invalidLength done expected)
  | n + 1, done, t :: ts => do
    let a ← read t
    let as ← readExactly read expected stop n (done + 1) ts
    return a :: as

def arrayOf {α : Type} (n : Nat) (read : Tree → Decoded α) (t : Tree) : Decoded (List α) :=
  let expected := "an array of length " ++ n.repr
  match t with
  | .array items stop => readExactly read expected stop n 0 items
  | t => t.mistyped expected

end Tree

/-- Decodes a whole text. Behind the value only white space may follow. -/
def decodeText {α : Type} (read : Tree → Decoded α) (s : String) : Decoded α := do
  let document := Document.ofText s
  let a ← read document.root
  if document.endsThere then return a else throw (.fault .illFormed)

end Recurrence.Json
