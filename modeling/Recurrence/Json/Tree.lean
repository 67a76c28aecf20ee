import Recurrence.Text.Printable

/-! # JSON texts as trees

A text is read into a tree before anything is asked of it. The tree keeps what the text says and not
what it means: the digits of numbers, the escapes of strings, all members of an object. Where the
text is no JSON, reading ends, and the fault stands in the tree at that place; a decoder that walks
the tree in the order of the text meets it exactly when it needs what was to stand there.

A text that is read to the point may still not say what was asked of it. The messages of a mismatch
name what was found and what was expected in its place. -/
namespace Recurrence.Json

inductive Fault where
  /-- The text ends too early. -/
  | unfinished
  /-- A character stands where it must not. -/
  | illFormed
deriving DecidableEq, Repr

/-- One element of a string: a character, plain or with a short escape, or an escaped unit of 16
bits. -/
inductive Piece where
  | char (c : Char)
  | unit (n : Nat)
deriving DecidableEq, Repr

/-- A string up to its closing quote or up to a fault. -/
structure Quoted where
  pieces : List Piece
  fault : Option Fault
deriving DecidableEq, Repr

/-- The parts of a number. Without a point there is no digit in `fraction`. -/
structure Numeral where
  negative : Bool
  whole : List Char
  fraction : List Char
  exponent : Option (Bool × List Char)
deriving DecidableEq, Repr

/-- What was read of a value. The names of members are values too: only a decoder can tell which of
them it takes. A container that was read to its end has no fault of its own. -/
inductive Tree where
  | null
  | bool (b : Bool)
  | number (n : Numeral)
  /-- A number that the end of the text cuts off where a digit must follow. -/
  | cutNumber
  /-- A word such as `null` that the end of the text cuts off. -/
  | cutWord
  | string (s : Quoted)
  | array (items : List Tree) (stop : Option Fault)
  | object (members : List (Tree × Tree)) (stop : Option Fault)
  | fault (f : Fault)
deriving Repr

/-- A value without parts, as far as it matters to a reader of it. -/
inductive Scalar where
  | null
  | bool (b : Bool)
  | integer (n : Int)
  /-- A number that is no integer of 64 bits, by its shortest text. -/
  | fraction (text : String)
  | string (s : String)
deriving DecidableEq, Repr

/-- What was found where something else was expected. -/
inductive Found where
  | scalar (s : Scalar)
  | sequence
  | map
deriving DecidableEq, Repr

def Found.describe : Found → String
  | scalar .null => "null"
  | scalar (.bool b) => "boolean `" ++ (if b then "true" else "false") ++ "`"
  | scalar (.integer n) => "integer `" ++ n.repr ++ "`"
  | scalar (.fraction text) => "floating point `" ++ text ++ "`"
  | scalar (.string s) => "string " ++ Text.quoted s
  | sequence => "sequence"
  | map => "map"

inductive Mismatch where
  | missingField (name : String)
  | duplicateField (name : String)
  | unknownVariant (name : String) (known : List String)
  | invalidType (found : Found) (expected : String)
  | invalidValue (found : Found) (expected : String)
  | invalidLength (length : Nat) (expected : String)
deriving DecidableEq, Repr

def Mismatch.message : Mismatch → String
  | missingField name => "missing field `" ++ name ++ "`"
  | duplicateField name => "duplicate field `" ++ name ++ "`"
  | unknownVariant name known =>
    "unknown variant `" ++ name ++ "`, expected one of " ++
      ", ".intercalate (known.map fun k => "`" ++ k ++ "`")
  | invalidType found expected => "invalid type: " ++ found.describe ++ ", expected " ++ expected
  | invalidValue found expected => "invalid value: " ++ found.describe ++ ", expected " ++ expected
  | invalidLength length expected => "invalid length " ++ length.repr ++ ", expected " ++ expected

inductive Error where
  | fault (f : Fault)
  | mismatch (m : Mismatch)
deriving DecidableEq, Repr

end Recurrence.Json
