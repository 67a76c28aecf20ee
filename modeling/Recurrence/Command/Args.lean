/-! # Command lines

The commands and the grammar of their arguments. Arguments are taken from left to right, and the
first that does not fit ends the reading. -/
namespace Recurrence

inductive Command where
  | parse (cron : String)
  | build (file : Option String)
  | describe (cron : String)
  | edit (cron : String) (edits : List String)
  | validateConfig
  | showConfig
  | version
deriving DecidableEq, Repr

/-- A command, and whether JSON was asked for at any level. -/
structure Invocation where
  json : Bool
  command : Command
deriving DecidableEq, Repr

/-- Why a command line names no command to run. A request for help or for the version is one. -/
inductive UsageError where
  | help
  | versionText
  | helpOnMissing
  | missingCommand
  | missingArgument
  | missingValue
  | surplusValue
  | repeatedOption
  | unknownArgument
  | unknownCommand
deriving DecidableEq, Repr

def UsageError.exitCode : UsageError → Nat
  | help => 0
  | versionText => 0
  | _ => 2

namespace Args

/-- What an argument looks like before anything is known of the options. -/
inductive Token where
  | escape
  | long (name : List Char) (value : Option (List Char))
  | short (flags : List Char)
  | word
deriving DecidableEq, Repr

/-- Two hyphens alone are the escape, one alone is a word. -/
def Token.ofChars : List Char → Token
  | ['-', '-'] => .escape
  | '-' :: '-' :: cs =>
    match cs.span (· ≠ '=') with
    | (name, '=' :: value) => .long name (some value)
    | (name, _) => .long name none
  | '-' :: c :: cs => .short (c :: cs)
  | _ => .word

inductive Leaf where
  | parse
  | build
  | describe
  | edit
  | validateConfig
  | showConfig
  | version
deriving DecidableEq, Repr

/-- A level of the command line that takes a further command. -/
inductive Branch where
  | root
  | config
deriving DecidableEq, Repr

inductive Node where
  | leaf (l : Leaf)
  | branch (b : Branch)
  | help
deriving DecidableEq, Repr

def Branch.child? : Branch → String → Option Node
  | .root, "parse" => some (.leaf .parse)
  | .root, "build" => some (.leaf .build)
  | .root, "describe" => some (.leaf .describe)
  | .root, "edit" => some (.leaf .edit)
  | .root, "config" => some (.branch .config)
  | .root, "version" => some (.leaf .version)
  | .config, "validate" => some (.leaf .validateConfig)
  | .config, "show" => some (.leaf .showConfig)
  | _, "help" => some .help
  | _, _ => none

def Leaf.maxWords : Leaf → Option Nat
  | .parse => some 1
  | .describe => some 1
  | .edit => none
  | _ => some 0

inductive OptionKind where
  | json
  | help
  | version
  | file
deriving DecidableEq, Repr

/-- The long option of this name. Only the root knows the version and only `build` takes a file. -/
def longOption? (isRoot takesFile : Bool) (name : List Char) : Option OptionKind :=
  match String.ofList name with
  | "json" => some .json
  | "help" => some .help
  | "version" => if isRoot then some .version else none
  | "file" => if takesFile then some .file else none
  | _ => none

/-- A cluster of short options, of which the first decides: each of them ends the reading. -/
def shortError (isRoot : Bool) : List Char → UsageError
  | 'h' :: _ => .help
  | 'V' :: _ => if isRoot then .versionText else .unknownArgument
  | _ => .unknownArgument

/-- The value of `--file` that has been begun but not yet taken. -/
inductive Pending where
  | idle
  | awaited
  | value (path : String)
deriving DecidableEq, Repr

structure Given where
  json : Bool := false
  file : Option String := none
  pending : Pending := .idle
  words : List String := []
deriving DecidableEq, Repr

/-- Takes the pending value. A value must not be missing nor given twice. -/
def Given.settle (g : Given) : Except UsageError Given :=
  match g.pending with
  | .idle => .ok g
  | .awaited => .error .missingValue
  | .value path =>
    if g.file.isSome then .error .repeatedOption
    else .ok { g with file := some path, pending := .idle }

def Given.addLong (g : Given) (isRoot takesFile : Bool) (name : List Char)
    (value : Option (List Char)) : Except UsageError Given :=
  match longOption? isRoot takesFile name, value with
  | none, _ => .error .unknownArgument
  | some .file, none => do
    let g ← g.settle
    return { g with pending := .awaited }
  | some .file, some path => do
    let g ← g.settle
    Given.settle { g with pending := .value (String.ofList path) }
  | some _, some _ => .error .surplusValue
  | some .help, none => do
    let _ ← g.settle
    throw .help
  | some .version, none => do
    let _ ← g.settle
    throw .versionText
  | some .json, none => do
    let g ← g.settle
    if g.json then throw .repeatedOption else return { g with json := true }

/-- Takes a cluster of short options. A pending value comes first if the cluster begins with an
option. -/
def Given.addShort {α : Type} (g : Given) (isRoot : Bool) (flags : List Char) :
    Except UsageError α :=
  match shortError isRoot flags with
  | .unknownArgument => .error .unknownArgument
  | e => do
    let _ ← g.settle
    throw e

/-- Takes a word: the value of an option that waits for one, or a positional argument. -/
def Given.addWord (g : Given) (l : Leaf) (escaped : Bool) (w : String) : Except UsageError Given :=
  if g.pending = .awaited && !escaped then .ok { g with pending := .value w }
  else if l.maxWords.any (· ≤ g.words.length) then .error .unknownArgument
  else do
    let g ← g.settle
    return { g with words := g.words ++ [w] }

/-- The arguments of a command. Behind the escape all are words. -/
def readLeaf (l : Leaf) (g : Given) (escaped : Bool) : List String → Except UsageError Given
  | [] => g.settle
  | arg :: args =>
    if escaped then do readLeaf l (← g.addWord l true arg) true args
    else match Token.ofChars arg.toList with
      | .escape => readLeaf l g true args
      | .long name value => do readLeaf l (← g.addLong false (l = .build) name value) false args
      | .short flags => g.addShort false flags
      | .word => do readLeaf l (← g.addWord l false arg) false args

def Leaf.command (l : Leaf) (g : Given) : Except UsageError Command :=
  match l, g.words with
  | .parse, cron :: _ => .ok (.parse cron)
  | .describe, cron :: _ => .ok (.describe cron)
  | .edit, cron :: e :: es => .ok (.edit cron (e :: es))
  | .build, _ => .ok (.build g.file)
  | .validateConfig, _ => .ok .validateConfig
  | .showConfig, _ => .ok .showConfig
  | .version, _ => .ok .version
  | _, _ => .error .missingArgument

/-- A request for help must name commands all the way down. -/
def readHelp : Node → List String → UsageError
  | _, [] => .help
  | .branch b, w :: ws =>
    match b.child? w with
    | some n => readHelp n ws
    | none => .unknownCommand
  | _, _ :: _ => .unknownCommand

def escapedWordError (b : Branch) (w : String) : UsageError :=
  if (b.child? w).isSome then .unknownArgument else .unknownCommand

/-- The arguments of a branch: its own options, and then those of a command below it. -/
def readBranch (b : Branch) (g : Given) (escaped : Bool) :
    List String → Except UsageError Invocation
  | [] => .error (if g.json then .missingCommand else .helpOnMissing)
  | arg :: args =>
    if escaped then .error (escapedWordError b arg)
    else match Token.ofChars arg.toList with
      | .escape => readBranch b g true args
      | .long name value => do readBranch b (← g.addLong (b = .root) false name value) false args
      | .short flags => g.addShort (b = .root) flags
      | .word =>
        match b.child? arg with
        | none => .error .unknownCommand
        | some .help => .error (readHelp (.branch b) args)
        | some (.branch c) => do
          let i ← readBranch c {} false args
          return { i with json := g.json || i.json }
        | some (.leaf l) => do
          let given ← readLeaf l {} false args
          return ⟨g.json || given.json, ← l.command given⟩

end Args

def Invocation.ofArgs (args : List String) : Except UsageError Invocation :=
  Args.readBranch .root {} false args

end Recurrence
