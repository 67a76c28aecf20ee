/-! # TOML values and tables

Tables remember how they came to be, since that decides what may still be added to them. A table is
built from entries with dotted names and from headers. Nothing may be defined twice: a name has one
value, a table one header, and no header and no dotted name reaches into a value. -/
namespace Recurrence.Toml

/-- How a table came to be. -/
inductive Origin where
  /-- It has a header of its own. -/
  | header
  /-- The header of a table inside it names it. -/
  | implied
  /-- The dotted name of a key inside it names it. -/
  | dotted
  /-- It was written as a value, between braces. -/
  | braced
deriving DecidableEq, Repr

/-- Nothing was said of the table itself yet. -/
def Origin.isImplicit : Origin → Bool
  | header => false
  | implied => true
  | dotted => true
  | braced => false

/-- A value. Of dates and of numbers with fractions only the text is kept. -/
inductive Value where
  | string (s : String)
  | integer (n : Int)
  | float (text : String)
  | boolean (b : Bool)
  | dateTime (text : String)
  | array (items : List Value)
  | table (origin : Origin) (entries : List (String × Value))
  /-- The tables that headers in double brackets make, one after the other. -/
  | tables (items : List (List (String × Value)))
deriving Repr

/-- The contents of a table, in the order in which the names first appear. -/
abbrev Entries := List (String × Value)

/-- Puts the value in the place of the one of that name, or at the end. -/
def Entries.put (name : String) (v : Value) : Entries → Entries
  | [] => [(name, v)]
  | (k, w) :: es => if k = name then (name, v) :: es else (k, w) :: Entries.put name v es

/-- Goes down a path of names, makes the tables that are not there yet, and changes the table at its
end with `f`, which also gives an answer. An array of tables stands for its last one. A path of a
dotted name ends before tables that have a header. -/
def descend {α : Type} (isDotted : Bool) (f : Origin → Entries → Option (α × Entries)) :
    List String → Origin → Entries → Option (α × Entries)
  | [], origin, es => f origin es
  | k :: ks, _, es =>
    match es.lookup k with
    | none => do
      let origin := if isDotted then Origin.dotted else Origin.implied
      let (a, sub) ← descend isDotted f ks origin []
      return (a, es.put k (.table origin sub))
    | some (.table origin sub) =>
      if origin = .braced || (isDotted && !origin.isImplicit) then none
      else do
        let (a, sub) ← descend isDotted f ks origin sub
        return (a, es.put k (.table origin sub))
    | some (.tables items) =>
      match items.getLast? with
      | none => none
      | some last => do
        let (a, last) ← descend isDotted f ks .header last
        return (a, es.put k (.tables (items.dropLast ++ [last])))
    | some _ => none

/-- An entry as it is written: the path in front of the last name, the last name, and the value. -/
structure Assignment where
  path : List String
  name : String
  value : Value
deriving Repr

/-- Adds an entry. A dotted name reaches tables made by dotted names only. -/
def Entries.assign (es : Entries) (a : Assignment) : Option Entries :=
  (descend true (fun origin sub =>
    if (origin == .dotted) == a.path.isEmpty || (sub.lookup a.name).isSome then none
    else some ((), sub.put a.name a.value)) a.path .header es).map Prod.snd

def Entries.ofAssignments (as : List Assignment) : Option Entries :=
  as.foldlM Entries.assign []

inductive Place where
  | root
  | table (path : List String) (name : String)
  | item (path : List String) (name : String)
deriving DecidableEq, Repr

/-- The entries that stand under one header, or in front of the first one. -/
structure Section where
  place : Place
  entries : List Assignment
deriving Repr

/-- What stands already in the table of a header. Only tables without a header can get one. -/
def Entries.opened (root : Entries) : Place → Option Entries
  | .root => some root
  | .table path name =>
    (descend false (fun _ es => match es.lookup name with
      | none => some ([], es)
      | some (.table .implied sub) => some (sub, es)
      | some _ => none) path .header root).map Prod.fst
  | .item path name =>
    (descend false (fun _ es => match es.lookup name with
      | none => some ([], es)
      | some (.tables _) => some ([], es)
      | some _ => none) path .header root).map Prod.fst

/-- Puts a finished table in its place. -/
def Entries.close (root : Entries) (place : Place) (sub : Entries) : Option Entries :=
  match place with
  | .root => some sub
  | .table path name =>
    (descend false (fun _ es => some ((), es.put name (.table .header sub))) path .header root).map
      Prod.snd
  | .item path name =>
    (descend false (fun _ es => match es.lookup name with
      | none => some ((), es.put name (.tables [sub]))
      | some (.tables items) => some ((), es.put name (.tables (items ++ [sub])))
      | some _ => none) path .header root).map Prod.snd

def Entries.addSection (root : Entries) (s : Section) : Option Entries := do
  let opened ← root.opened s.place
  root.close s.place (← s.entries.foldlM Entries.assign opened)

def Entries.ofSections (sections : List Section) : Option Entries :=
  sections.foldlM Entries.addSection []

end Recurrence.Toml
