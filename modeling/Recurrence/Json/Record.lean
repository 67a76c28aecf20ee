import Recurrence.Json.Decode

/-! # Records

Values with named fields. A record is read from an object, whose members may come in any order and
may include unknown ones, or from an array with the fields in their order. -/
namespace Recurrence.Json

/-- A field of a record that is collected in a state `σ`. -/
structure Record.Field (σ : Type) where
  name : String
  isGiven : σ → Bool
  read : Tree → σ → Decoded σ

def Record.Field.slot {σ α : Type} (name : String) (get : σ → Option α) (set : σ → α → σ)
    (read : Tree → Decoded α) : Record.Field σ where
  name := name
  isGiven s := (get s).isSome
  read t s := set s <$> read t

/-- How a value of type `α` is collected field by field. -/
structure Record (σ α : Type) where
  /-- What messages call the record. -/
  title : String
  fields : List (Record.Field σ)
  start : σ
  /-- The value, or the name of the first field that it lacks. -/
  finish : σ → Except String α

namespace Record

variable {σ α : Type}

/-- What messages call the record when it is written as an array. -/
def arrayTitle (r : Record σ α) : String :=
  r.title ++ " with " ++ r.fields.length.repr ++
    if r.fields.length = 1 then " element" else " elements"

/-- Collects one member. A field may be given once; unknown members are skipped. -/
def addMember (r : Record σ α) (s : σ) (name : String) (t : Tree) : Decoded σ :=
  match r.fields.find? fun f => f.name == name with
  | none => (ofFault t.skip).map fun _ => s
  | some f => if f.isGiven s then mismatch (.duplicateField name) else f.read t s

def addMembers (r : Record σ α) (s : σ) : List (Tree × Tree) → Decoded σ
  | [] => .ok s
  | (name, t) :: ms => do
    let name ← ofFault name.memberName
    r.addMembers (← r.addMember s name t) ms

def ofMembers (r : Record σ α) (members : List (Tree × Tree)) (stop : Option Fault) :
    Decoded α := do
  let s ← r.addMembers r.start members
  ofFault (noFault stop)
  (r.finish s).mapError fun name => .mismatch (.missingField name)

/-- What to say of an array with too many items. -/
abbrev Surplus := (given wanted : Nat) → Error

/-- Items beyond the last field do not belong to the text. -/
def Surplus.illFormed : Surplus := fun _ _ => .fault .illFormed

/-- Items beyond the last field make the sequence too long. -/
def Surplus.tooLong : Surplus := fun given wanted =>
  .mismatch <| .invalidLength given <|
    wanted.repr ++ (if wanted = 1 then " element" else " elements") ++ " in sequence"

/-- Collects the items of an array, one for each field. Returns the items left over. -/
def addItems (s : σ) : List (Field σ) → List Tree → Decoded (σ × List Tree)
  | f :: fs, t :: ts => do addItems (← f.read t s) fs ts
  | _, ts => .ok (s, ts)

def ofItems (r : Record σ α) (surplus : Surplus) (items : List Tree) (stop : Option Fault) :
    Decoded α := do
  let (s, rest) ← addItems r.start r.fields items
  if items.length < r.fields.length then ofFault (noFault stop)
  let a ← (r.finish s).mapError fun name =>
    .mismatch (.invalidLength (r.fields.findIdx fun f => f.name == name) r.arrayTitle)
  if !rest.isEmpty then throw (surplus items.length r.fields.length)
  ofFault (noFault stop)
  return a

def read (r : Record σ α) (surplus : Surplus) : Tree → Decoded α
  | .object members stop => r.ofMembers members stop
  | .array items stop => r.ofItems surplus items stop
  | t => t.mistyped r.title

end Record

/-- A component that must be there. -/
def need {α : Type} (name : String) : Option α → Except String α
  | some a => .ok a
  | none => .error name

end Recurrence.Json
