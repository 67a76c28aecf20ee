import Recurrence.Command.Run
import Recurrence.Proofs.TomlString

/-!
# Shown configurations

The text of a configuration is read line by line, each line as one header or one setting, and what
was read is the configuration again.
-/
namespace Recurrence

namespace Toml

/-- A name that needs no quotes. -/
def IsBareName (name : String) : Prop :=
  name.toList ≠ [] ∧ ∀ c ∈ name.toList, isBareKeyChar c = true

instance (name : String) : Decidable (IsBareName name) :=
  decidable_of_iff (name.toList ≠ [] ∧ name.toList.all isBareKeyChar = true) (by simp [IsBareName])

variable {name : String} {cs rest : List Char}

private theorem skipBlanks_cons {c : Char} (hc : isBlank c = false) (cs : List Char) :
    skipBlanks (c :: cs) = c :: cs := by
  simp [skipBlanks, hc]

namespace IsBareName

private theorem append_ne (hn : IsBareName name) {c : Char} (hc : isBareKeyChar c = false)
    (rest cs : List Char) : name.toList ++ rest ≠ c :: cs := by
  intro heq
  obtain ⟨d, ds, hcons⟩ := List.exists_cons_of_ne_nil hn.1
  have hd : isBareKeyChar d = true := hn.2 d (by simp [hcons])
  rw [hcons] at heq
  obtain ⟨rfl, -⟩ := List.cons.inj heq
  rw [hc] at hd
  contradiction

private theorem skipBlanks_append (hn : IsBareName name) (rest : List Char) :
    skipBlanks (name.toList ++ rest) = name.toList ++ rest := by
  cases hcs : name.toList ++ rest with
  | nil => rfl
  | cons c cs =>
    have hspace : c ≠ ' ' := by
      rintro rfl
      exact hn.append_ne (by decide) _ _ hcs
    have htab : c ≠ '\t' := by
      rintro rfl
      exact hn.append_ne (by decide) _ _ hcs
    exact skipBlanks_cons (by simp [isBlank, hspace, htab]) cs

private theorem readKey?_append (hn : IsBareName name)
    (hrest : ∀ c ∈ rest.head?, isBareKeyChar c = false)
    (hdot : ∀ tail, skipBlanks rest ≠ '.' :: tail) :
    readKey? (name.toList ++ rest) = some ([], name, skipBlanks rest) := by
  obtain ⟨htake, hdrop⟩ := Text.takeWhile_append_of_head? hn.2 hrest
  have hname : readName? (name.toList ++ rest) = some (name, rest) := by
    unfold readName?
    rw [htake, hdrop]
    split
    next h => exact absurd h hn.1
    next => rw [String.ofList_toList]
  have hnames : readNames? depthLimit (name.toList ++ rest) = some ([name], skipBlanks rest) := by
    rw [depthLimit, readNames?, hn.skipBlanks_append, hname, Option.bind_eq_bind, Option.bind_some]
    dsimp only
    split
    next tail h => exact absurd h (hdot tail)
    next => rfl
  rw [readKey?, hnames]
  rfl

private theorem endLine?_append (hn : IsBareName name) (rest : List Char) :
    endLine? (name.toList ++ rest) = none := by
  have hcomment : skipComment (name.toList ++ rest) = name.toList ++ rest := by
    unfold skipComment
    split
    next heq => exact absurd heq (hn.append_ne (by decide) _ _)
    next => rfl
  unfold endLine?
  rw [hn.skipBlanks_append, hcomment]
  split
  next heq => exact absurd (List.append_eq_nil_iff.mp heq).1 hn.1
  next heq => exact absurd heq (hn.append_ne (by decide) _ _)
  next heq => exact absurd heq (hn.append_ne (by decide) _ _)
  next => rfl

end IsBareName

private theorem exists_quote_of_readString? {r : String × List Char} (h : readString? cs = some r) :
    ∃ q tail, cs = q :: tail ∧ (q = '"' ∨ q = '\x27') := by
  cases cs with
  | nil => contradiction
  | cons c cs =>
    refine ⟨c, cs, rfl, ?_⟩
    by_cases hq : c = '"'
    · exact Or.inl hq
    by_cases ha : c = '\x27'
    · exact Or.inr ha
    simp [readString?, readLineString?, hq, ha] at h

private theorem readValue?_eq_readAtom? {c : Char}
    (hc : c ∉ ['[', '\x7b', '"', '\x27']) (room : Nat)
    (cs : List Char) : readValue? room (c :: cs) = readAtom? (c :: cs) := by
  simp only [List.mem_cons, List.not_mem_nil, or_false, not_or] at hc
  obtain ⟨hbracket, hbrace, hquote, hapostrophe⟩ := hc
  unfold readValue?
  split
  next heq => exact absurd (List.cons.inj heq).1 hbracket
  next heq => exact absurd (List.cons.inj heq).1 hbrace
  next heq => exact absurd (List.cons.inj heq).1 hquote
  next heq => exact absurd (List.cons.inj heq).1 hapostrophe
  next => rfl

/-- Behind blanks, and where its line ends, the text reads as the value. -/
def ReadsAs (text : String) (v : Value) : Prop :=
  ∀ room rest, readValue? room (skipBlanks (text.toList ++ '\n' :: rest)) = some (v, '\n' :: rest)

private theorem readsAs_writeString (s : String) : ReadsAs (writeString s) (.string s) := by
  intro room rest
  have hread : readString? ((writeString s).toList ++ '\n' :: rest) = some (s, '\n' :: rest) := by
    refine readString?_writeString s ?_
    rintro _ ⟨⟩
    decide
  obtain ⟨q, tail, hcons, rfl | rfl⟩ := exists_quote_of_readString? hread
  all_goals
    rw [hcons] at hread ⊢
    rw [skipBlanks_cons (by decide)]
    simp only [readValue?, hread, Option.map_some]

private theorem readsAs_showBool (b : Bool) : ReadsAs (Config.showBool b) (.boolean b) := by
  intro room rest
  cases b with
  | false => exact readValue?_eq_readAtom? (by decide) room _
  | true => exact readValue?_eq_readAtom? (by decide) room _

/-- With more fuel than there are characters, the text reads as these sections. -/
def ReadsFrom (place : Place) (cs : List Char) (ss : List Section) : Prop :=
  ∀ fuel, cs.length < fuel → readSections? fuel place cs = some ss

/-- A setting: its name, the text of its value, and the value. -/
structure Setting where
  name : String
  text : String
  value : Value
  isBareName : IsBareName name
  readsAs : ReadsAs text value

namespace Setting

def ofString (name : String) (hn : IsBareName name) (s : String) : Setting :=
  ⟨name, writeString s, .string s, hn, readsAs_writeString s⟩

def ofBool (name : String) (hn : IsBareName name) (b : Bool) : Setting :=
  ⟨name, Config.showBool b, .boolean b, hn, readsAs_showBool b⟩

def chars (s : Setting) : List Char :=
  s.name.toList ++ ' ' :: '=' :: ' ' :: (s.text.toList ++ ['\n'])

def assignment (s : Setting) : Assignment := ⟨[], s.name, s.value⟩

private theorem readAssignment?_append (s : Setting) (cs : List Char) :
    readAssignment? (readValue? depthLimit) (s.chars ++ cs) = some (s.assignment, '\n' :: cs) := by
  have hkey : readKey? (s.chars ++ cs) =
      some ([], s.name, '=' :: ' ' :: (s.text.toList ++ '\n' :: cs)) := by
    have hchars : s.chars ++ cs =
        s.name.toList ++ ' ' :: '=' :: ' ' :: (s.text.toList ++ '\n' :: cs) := by
      simp only [chars, List.append_assoc, List.cons_append, List.nil_append]
    rw [hchars]
    exact s.isBareName.readKey?_append (by rintro _ ⟨⟩; decide) (by rintro _ ⟨⟩)
  rw [readAssignment?, hkey, Option.bind_eq_bind, Option.bind_some]
  change ((readValue? depthLimit (skipBlanks (s.text.toList ++ '\n' :: cs))).bind fun r =>
    some ((⟨[], s.name, r.1⟩ : Assignment), r.2)) = _
  rw [s.readsAs, Option.bind_some, assignment]

end Setting

/-- The line of a header. -/
def headerChars (name : String) : List Char := '[' :: (name.toList ++ [']', '\n'])

private theorem IsBareName.readHeader?_append (hn : IsBareName name) (cs : List Char) :
    readHeader? (name.toList ++ ']' :: '\n' :: cs) = some (.table [] name, cs) := by
  have hkey : readKey? (name.toList ++ ']' :: '\n' :: cs) = some ([], name, ']' :: '\n' :: cs) :=
    hn.readKey?_append (by rintro _ ⟨⟩; decide) (by rintro _ ⟨⟩)
  unfold readHeader?
  split
  next heq => exact absurd heq (hn.append_ne (by decide) _ _)
  next =>
    rw [hkey]
    rfl

namespace ReadsFrom

variable {place : Place} {ss : List Section}

private theorem of_succ
    (h : ∀ fuel, cs.length ≤ fuel → readSections? (fuel + 1) place cs = some ss) :
    ReadsFrom place cs ss := by
  intro fuel hfuel
  cases fuel with
  | zero => contradiction
  | succ fuel => exact h fuel (Nat.le_of_lt_succ hfuel)

private theorem nil : ReadsFrom place [] [⟨place, []⟩] := of_succ fun _ _ => rfl

private theorem newline (h : ReadsFrom place cs ss) : ReadsFrom place ('\n' :: cs) ss :=
  of_succ fun fuel hfuel => h fuel hfuel

private theorem header (hn : IsBareName name) (h : ReadsFrom (.table [] name) cs ss) :
    ReadsFrom place (headerChars name ++ cs) (⟨place, []⟩ :: ss) := by
  refine of_succ fun fuel hfuel => ?_
  have hlen : cs.length < fuel := by
    simp only [headerChars, List.length_cons, List.length_append] at hfuel
    omega
  have hchars : headerChars name ++ cs = '[' :: (name.toList ++ ']' :: '\n' :: cs) := by
    simp only [headerChars, List.append_assoc, List.cons_append, List.nil_append]
  rw [hchars]
  change ((readHeader? (name.toList ++ ']' :: '\n' :: cs)).bind fun r =>
    (readSections? fuel r.1 r.2).bind fun ss => some (⟨place, []⟩ :: ss)) = _
  rw [hn.readHeader?_append, Option.bind_some, h fuel hlen, Option.bind_some]

private theorem setting (s : Setting) {sec : Section} (h : ReadsFrom place cs (sec :: ss)) :
    ReadsFrom place (s.chars ++ cs)
      ({ sec with entries := s.assignment :: sec.entries } :: ss) := by
  refine of_succ fun fuel hfuel => ?_
  have hlen : cs.length < fuel := by
    simp only [Setting.chars, List.length_cons, List.length_append] at hfuel
    omega
  have hassignment := s.readAssignment?_append cs
  have hend : endLine? ('\n' :: cs) = some cs := rfl
  rw [Setting.chars, List.append_assoc] at hassignment ⊢
  rw [readSections?, s.isBareName.skipBlanks_append]
  -- A line that begins with a bare name is not the end, no header and not empty.
  split
  next heq => simp at heq
  next heq => exact absurd heq (s.isBareName.append_ne (by decide) _ _)
  next =>
    simp only [s.isBareName.endLine?_append, hassignment, hend, h fuel hlen, Option.bind_eq_bind,
      Option.bind_some]
    rfl

private theorem settings (settings : List Setting) {sec : Section}
    (h : ReadsFrom place cs (sec :: ss)) :
    ReadsFrom place (settings.flatMap Setting.chars ++ cs)
      ({ sec with entries := settings.map Setting.assignment ++ sec.entries } :: ss) := by
  induction settings with
  | nil => exact h
  | cons s settings ih =>
    rw [List.flatMap_cons, List.append_assoc]
    exact ih.setting s

private theorem table (hn : IsBareName name) (settings : List Setting)
    (h : ReadsFrom (.table [] name) cs (⟨.table [] name, []⟩ :: ss)) :
    ReadsFrom place (headerChars name ++ (settings.flatMap Setting.chars ++ cs))
      (⟨place, []⟩ :: ⟨.table [] name, settings.map Setting.assignment⟩ :: ss) := by
  have hsettings := h.settings settings
  rw [List.append_nil] at hsettings
  exact hsettings.header hn

private theorem ofText?_eq {s : String} (h : ReadsFrom .root s.toList ss)
    (hmark : s.toList.head? ≠ some '\uFEFF') : Entries.ofText? s = Entries.ofSections ss := by
  unfold Entries.ofText?
  dsimp only
  split
  next cs hcs =>
    rw [hcs] at hmark
    contradiction
  next => rw [h _ (by omega), Option.bind_eq_bind, Option.bind_some]

end ReadsFrom

end Toml

open Toml

def OutputConfig.settings (c : OutputConfig) : List Setting :=
  [.ofString "format" (by decide) c.format.name, .ofBool "pretty" (by decide) c.pretty]

def LoggingConfig.settings (c : LoggingConfig) : List Setting :=
  [.ofString "filter" (by decide) c.filter, .ofBool "json" (by decide) c.json]

namespace Config

private theorem toList_toToml (c : Config) :
    c.toToml.toList = headerChars "output" ++ (c.output.settings.flatMap Setting.chars ++
      '\n' :: (headerChars "logging" ++ (c.logging.settings.flatMap Setting.chars ++ []))) := by
  unfold toToml headerChars OutputConfig.settings LoggingConfig.settings
  simp [Setting.chars, Setting.ofString, Setting.ofBool]

private theorem ofText?_toToml (c : Config) :
    Entries.ofText? c.toToml = Entries.ofSections
      [⟨.root, []⟩, ⟨.table [] "output", c.output.settings.map Setting.assignment⟩,
        ⟨.table [] "logging", c.logging.settings.map Setting.assignment⟩] := by
  have hlogging : ReadsFrom (.table [] "output")
      (headerChars "logging" ++ (c.logging.settings.flatMap Setting.chars ++ []))
      [⟨.table [] "output", []⟩,
        ⟨.table [] "logging", c.logging.settings.map Setting.assignment⟩] :=
    ReadsFrom.nil.table (by decide) c.logging.settings
  have hmark : c.toToml.toList.head? ≠ some '\uFEFF' := by
    rw [toList_toToml, headerChars]
    simp
  refine ReadsFrom.ofText?_eq ?_ hmark
  rw [toList_toToml]
  exact hlogging.newline.table (by decide) c.output.settings

private theorem ofToml?_toToml (c : Config) : ofToml? c.toToml = some c := by
  rw [ofToml?, ofText?_toToml]
  obtain ⟨⟨format, pretty⟩, filter, json⟩ := c
  cases format <;> rfl

/-- Every configuration can be shown, and the text that is shown loads as the same one. -/
theorem load_shown (c : Config) (w : World) (path : String) (issues : List Issue) (out : Output) :
    let o := Outcome.ofCommand w c path issues out .showConfig
    o.exitCode = 0 ∧ o.failure = none ∧ ofToml? o.output = some c ∧
      ∀ file, load (fun _ => .file o.output) file = .ok c := by
  intro o
  have hread : ofToml? o.output = some c := ofToml?_toToml c
  refine ⟨rfl, rfl, hread, fun file => ?_⟩
  simp only [load, hread]

end Config
end Recurrence
