import Recurrence.Command.Run
import Recurrence.Proofs.Transcript

/-!
# Exit codes

How a run ends: a command line that names no command, a configuration that cannot be used and a
command that fails leave the standard output empty, and every other run prints its full text. A log
filter whose check breaks off, in the environment or in the configuration, ends every run before its
command.
-/
namespace Recurrence

namespace Config

variable {lookup : String → FileEntry} {path : String}

/-- There is something at the path, and it is no configuration. -/
inductive Unusable (lookup : String → FileEntry) (path : String) : Prop
  | unreadable (h : lookup path = .directory)
  | illFormed {text : String} (h : lookup path = .file text) (hread : ofToml? text = none)

/-- The configuration in force: that of the file, or the default if there is none. -/
inductive InForce (lookup : String → FileEntry) (path : String) : Config → Prop
  | absent (h : lookup path = .missing) : InForce lookup path .default
  | file {text : String} {c : Config} (h : lookup path = .file text)
      (hread : ofToml? text = some c) : InForce lookup path c

private theorem load_eq_ok_iff {c : Config} : load lookup path = .ok c ↔ InForce lookup path c := by
  constructor
  · intro h
    unfold load at h
    split at h
    next hmissing =>
      obtain rfl := Except.ok.inj h
      exact .absent hmissing
    next => contradiction
    next text hfile =>
      split at h
      next c' hread =>
        obtain rfl := Except.ok.inj h
        exact .file hfile hread
      next => contradiction
  · intro h
    cases h with
    | absent h => simp only [load, h]
    | file h hread => simp only [load, h, hread]

private theorem exists_load_eq_error_iff :
    (∃ f, load lookup path = .error f) ↔ Unusable lookup path := by
  constructor
  · rintro ⟨f, h⟩
    unfold load at h
    split at h
    next => contradiction
    next hdirectory => exact .unreadable hdirectory
    next text hfile =>
      split at h
      next => contradiction
      next hread => exact .illFormed hfile hread
  · intro h
    cases h with
    | unreadable h => exact ⟨_, by simp only [load, h]; rfl⟩
    | illFormed h hread => exact ⟨_, by simp only [load, h, hread]; rfl⟩

private theorem unusable_or_inForce (lookup : String → FileEntry) (path : String) :
    Unusable lookup path ∨ ∃ c, InForce lookup path c := by
  cases h : load lookup path with
  | error f => exact Or.inl (exists_load_eq_error_iff.mp ⟨f, h⟩)
  | ok c => exact Or.inr ⟨c, load_eq_ok_iff.mp h⟩

end Config

private theorem readText_eq_ok_iff {lookup : String → FileEntry} {path text : String} :
    readText lookup path = .ok text ↔ lookup path = .file text := by
  unfold readText
  cases lookup path <;> simp

/-- The check of the log filter in the environment breaks off. -/
def World.SplitsFilter (w : World) : Prop :=
  ∃ s, w.logFilter = some s ∧ Filter.check s = .error .splitCharacter

private theorem World.splitsFilter_iff {w : World} :
    w.SplitsFilter ↔ w.logFilter.any Filter.splits = true := by
  simp only [SplitsFilter, Option.any_eq_true, Filter.splits_iff]

namespace Command

/-- What makes a command fail that has its configuration. -/
inductive Fails (w : World) : Command → Prop
  | unreadable {path : String} (h : ∀ text, w.lookup path ≠ .file text) :
      Fails w (.build (some path))
  | unreadableInput (h : w.input = none) : Fails w (.build none)
  | noDescriptor {file : Option String} {text : String} {e : Json.Error}
      (htext : w.descriptorText file = .ok text) (h : Descriptor.ofJson text = .error e) :
      Fails w (.build file)
  | badEdit {cron : String} {raws : List String} {raw : String} {e : EditError} (hraw : raw ∈ raws)
      (h : Edit.ofText raw = .error e) : Fails w (.edit cron raws)

/-- The full text of a command that has its configuration and does not fail. -/
inductive Prints (w : World) (c : Config) (path : String) (out : Output) : Command → String → Prop
  | parse {cron : String} :
      Prints w c path out (.parse cron) (out.render (Descriptor.ofCron cron).toJson ++ "\n")
  | build {file : Option String} {text : String} {d : Descriptor}
      (htext : w.descriptorText file = .ok text) (hd : Descriptor.ofJson text = .ok d) :
      Prints w c path out (.build file)
        ((if out.json then out.render (.object [("expression", .string d.toCron)])
          else d.toCron) ++ "\n")
  | describe {cron : String} :
      Prints w c path out (.describe cron)
        ((if out.json then
            out.render (.object [("expression", .string cron),
              ("frequency", .string (Descriptor.ofCron cron).frequency.name),
              ("description", .string (Descriptor.ofCron cron).sentence)])
          else (Descriptor.ofCron cron).sentence) ++ "\n")
  | edit {cron : String} {raws : List String} {es : List Edit}
      (hes : List.Forall₂ (fun raw e => Edit.ofText raw = .ok e) raws es) :
      Prints w c path out (.edit cron raws) ((Transcript.ofEdits cron es).1.render out ++ "\n")
  | validateConfig {report : String} (h : c.report? path = some report) :
      Prints w c path out .validateConfig (report ++ "\n")
  | showConfig : Prints w c path out .showConfig c.toToml
  | version : Prints w c path out .version "cadence 0.1.0\n"

variable {w : World}

private theorem not_fails_build {file : Option String} (h : ¬ Fails w (.build file)) :
    ∃ text d, w.descriptorText file = .ok text ∧ Descriptor.ofJson text = .ok d := by
  cases htext : w.descriptorText file with
  | ok text =>
    cases hd : Descriptor.ofJson text with
    | ok d => exact ⟨text, d, rfl, hd⟩
    | error e => exact absurd (.noDescriptor htext hd) h
  | error f =>
    cases file with
    | none =>
      cases hinput : w.input with
      | none => exact absurd (.unreadableInput hinput) h
      | some text => simp [World.descriptorText, hinput] at htext
    | some path =>
      refine absurd (.unreadable fun text hfile => ?_) h
      rw [World.descriptorText, readText_eq_ok_iff.mpr hfile] at htext
      contradiction

private theorem not_fails_edit {cron : String} {raws : List String}
    (h : ¬ Fails w (.edit cron raws)) :
    ∃ es, List.Forall₂ (fun raw e => Edit.ofText raw = .ok e) raws es := by
  have hall : ∀ raw ∈ raws, ∃ e, Edit.ofText raw = .ok e := by
    intro raw hraw
    cases he : Edit.ofText raw with
    | ok e => exact ⟨e, rfl⟩
    | error e => exact absurd (.badEdit hraw he) h
  obtain ⟨es, hes⟩ := exists_mapM_of_forall hall
  exact ⟨es, mapM_eq_ok_iff.mp hes⟩

end Command

namespace Outcome

open Command

variable {w : World} {c : Config} {path : String} {issues : List Issue} {out : Output}
  {cmd : Command}

private theorem ofCommand_of_fails (h : cmd.Fails w) :
    (ofCommand w c path issues out cmd).exitCode = 1 ∧
      (ofCommand w c path issues out cmd).output = "" := by
  cases h with
  | @unreadable file h =>
    cases htext : w.descriptorText (some file) with
    | ok text => exact absurd (readText_eq_ok_iff.mp htext) (h text)
    | error f => simp only [ofCommand, htext, and_self]
  | unreadableInput h => simp only [ofCommand, World.descriptorText, h, and_self]
  | noDescriptor htext h => simp only [ofCommand, htext, Answer.build, h, ofAnswer, and_self]
  | @badEdit cron raws raw e hraw h =>
    cases ht : Transcript.ofTexts cron raws with
    | error e => simp only [ofCommand, Answer.edit, ht, ofAnswer, and_self]
    | ok r =>
      obtain ⟨es, hes, -⟩ := Transcript.ofTexts_eq_ok_iff.mp ht
      obtain ⟨e', he'⟩ := forall_exists_of_mapM (mapM_eq_ok_iff.mpr hes) raw hraw
      rw [h] at he'
      contradiction

private theorem ofCommand_of_not_fails (hissues : c.issues? = some issues) (h : ¬ cmd.Fails w) :
    cmd.Prints w c path out (ofCommand w c path issues out cmd).output ∧
      (ofCommand w c path issues out cmd).exitCode =
        if cmd = .validateConfig ∧ Issue.noErrors issues = false then 1 else 0 := by
  cases cmd with
  | parse cron => exact ⟨.parse, by simp [ofCommand, ofAnswer, Answer.parse]⟩
  | build file =>
    obtain ⟨text, d, htext, hd⟩ := not_fails_build h
    simp only [ofCommand, htext, Answer.build, hd, ofAnswer]
    exact ⟨.build htext hd, rfl⟩
  | describe cron => exact ⟨.describe, rfl⟩
  | edit cron raws =>
    obtain ⟨es, hes⟩ := not_fails_edit h
    have ht : Transcript.ofTexts cron raws = .ok (Transcript.ofEdits cron es) :=
      Transcript.ofTexts_eq_ok_iff.mpr ⟨es, hes, rfl⟩
    simp only [ofCommand, Answer.edit, ht, ofAnswer]
    exact ⟨.edit hes, rfl⟩
  | validateConfig =>
    refine ⟨.validateConfig (by rw [Config.report?, hissues]; rfl), ?_⟩
    simp only [ofCommand]
    cases Issue.noErrors issues <;> rfl
  | showConfig => exact ⟨.showConfig, rfl⟩
  | version => exact ⟨.version, rfl⟩

/-- A configuration with errors ends its check with the code 1 as well, but not without a report. -/
theorem fails_iff_ofCommand (hissues : c.issues? = some issues) :
    cmd.Fails w ↔ (ofCommand w c path issues out cmd).exitCode = 1 ∧
      (ofCommand w c path issues out cmd).output = "" := by
  constructor
  · exact ofCommand_of_fails
  · rintro ⟨hone, hempty⟩
    by_contra hnot
    rw [(ofCommand_of_not_fails hissues hnot).2] at hone
    split at hone
    next h =>
      rw [h.1] at hempty
      simp [ofCommand] at hempty
    next => contradiction

private theorem ofInvocation_of_breaksOff {w : World} {i : Invocation} {c : Config}
    (hc : Config.InForce w.lookup (w.configPath.getD Config.usualPath) c)
    (h : w.SplitsFilter ∨ c.issues? = none) : ofInvocation w i = brokenOff := by
  rw [← Config.load_eq_ok_iff] at hc
  rw [World.splitsFilter_iff] at h
  simp only [ofInvocation, hc]
  rcases h with h | h
  · rw [if_pos h]
  · simp only [h, ite_self]

private theorem ofInvocation_of_issues {w : World} {i : Invocation} {c : Config}
    {issues : List Issue}
    (hc : Config.InForce w.lookup (w.configPath.getD Config.usualPath) c)
    (hw : ¬ w.SplitsFilter) (hissues : c.issues? = some issues) :
    let o := ofCommand w c (w.configPath.getD Config.usualPath) issues
      (.ofConfig c.output i.json) i.command
    (ofInvocation w i).exitCode = o.exitCode ∧ (ofInvocation w i).output = o.output := by
  rw [← Config.load_eq_ok_iff] at hc
  rw [World.splitsFilter_iff] at hw
  simp only [ofInvocation, hc, if_neg hw, hissues, and_self]

private theorem ofInvocation_of_unusable {w : World} {i : Invocation}
    (h : Config.Unusable w.lookup (w.configPath.getD Config.usualPath)) :
    (ofInvocation w i).exitCode = 1 ∧ (ofInvocation w i).output = "" := by
  obtain ⟨f, hf⟩ := Config.exists_load_eq_error_iff.mpr h
  simp only [ofInvocation, hf, and_self]

/-- A command line that names no command ends with the code 2 whatever there is to read, and prints
nothing. Any other run ends with the code 1 and prints nothing if its configuration cannot be used,
and breaks off if the filter in the environment or in that configuration cannot be checked. If they
can, a run prints nothing and ends with the code 1 exactly if its command fails. Every other run
prints its full text, and its code is 0 unless it checks a configuration that has errors. -/
theorem ofArgs_ends (w : World) (args : List String) :
    (∀ e, Invocation.ofArgs args = .error e → e ≠ .help → e ≠ .versionText →
      ∀ w', ofArgs w' args = { exitCode := 2 }) ∧
    ∀ i, Invocation.ofArgs args = .ok i →
      let path := w.configPath.getD "cadence.toml"
      let o := ofArgs w args
      (Config.Unusable w.lookup path ∨ ∃ c, Config.InForce w.lookup path c) ∧
      (Config.Unusable w.lookup path → o.exitCode = 1 ∧ o.output = "") ∧
      ∀ c, Config.InForce w.lookup path c →
        (w.SplitsFilter ∨ c.isValid? = none → o.exitCode = 101 ∧ o.output = "") ∧
        ∀ valid, c.isValid? = some valid → ¬ w.SplitsFilter →
          (i.command.Fails w ↔ o.exitCode = 1 ∧ o.output = "") ∧
          (¬ i.command.Fails w →
            i.command.Prints w c path (.ofConfig c.output i.json) o.output ∧
              o.exitCode = if i.command = .validateConfig ∧ valid = false then 1 else 0) := by
  refine ⟨?_, fun i hi => ?_⟩
  · intro e he hhelp hversion w'
    have hcode : e.exitCode = 2 := by
      cases e with
      | help => contradiction
      | versionText => contradiction
      | _ => rfl
    simp only [ofArgs, he, hcode, if_neg hversion]
  · intro path o
    have ho : o = ofInvocation w i := by simp only [o, ofArgs, hi]
    refine ⟨Config.unusable_or_inForce _ _, ?_, fun c hc => ⟨?_, ?_⟩⟩
    · intro hunusable
      rw [ho]
      exact ofInvocation_of_unusable hunusable
    · rw [Config.isValid?, Option.map_eq_none_iff]
      intro hsplits
      rw [ho, ofInvocation_of_breaksOff hc hsplits]
      exact ⟨rfl, rfl⟩
    · intro valid hvalid hw
      obtain ⟨issues, hissues, rfl⟩ := Option.map_eq_some_iff.mp hvalid
      obtain ⟨hcode, houtput⟩ := ofInvocation_of_issues (i := i) hc hw hissues
      rw [ho, hcode, houtput]
      exact ⟨fails_iff_ofCommand hissues, ofCommand_of_not_fails hissues⟩

theorem ofArgs_ends_badFilter :
    let w : World := {
      lookup := Directory.lookup ⟨[("cadence.toml", "[logging]\nfilter = \"x=bad\"\n"),
        ("d.json", "[\"daily\", 5.5]")]⟩ }
    let c : Config := { logging := { filter := "x=bad" } }
    (∀ w', ofArgs w' ["edit", "0 2 * * *"] = { exitCode := 2 }) ∧
      Invocation.ofArgs ["build", "--file", "d.json"] = .ok ⟨false, .build (some "d.json")⟩ ∧
      Invocation.ofArgs ["config", "validate"] = .ok ⟨false, .validateConfig⟩ ∧
      Config.InForce w.lookup "cadence.toml" c ∧ c.isValid? = some false ∧
      Command.Fails w (.build (some "d.json")) ∧ ¬ Command.Fails w .validateConfig ∧
      (ofArgs w ["build", "--file", "d.json"]).exitCode = 1 ∧
      (ofArgs w ["build", "--file", "d.json"]).output = "" ∧
      (ofArgs w ["config", "validate"]).exitCode = 1 ∧
      Command.Prints w c "cadence.toml" (.ofConfig c.output false) .validateConfig
        (ofArgs w ["config", "validate"]).output := by
  intro w c
  have hmissing : Invocation.ofArgs ["edit", "0 2 * * *"] = .error .missingArgument := by decide
  have hbuild : Invocation.ofArgs ["build", "--file", "d.json"] =
      .ok ⟨false, .build (some "d.json")⟩ := by decide
  have hvalidate : Invocation.ofArgs ["config", "validate"] = .ok ⟨false, .validateConfig⟩ := by
    decide
  have hlookup : w.lookup "cadence.toml" = .file "[logging]\nfilter = \"x=bad\"\n" := by
    decide +kernel
  have hc : Config.InForce w.lookup "cadence.toml" c := .file hlookup (by decide +kernel)
  have hvalid : c.isValid? = some false := by decide +kernel
  have hbroken : Command.Fails w (.build (some "d.json")) :=
    .noDescriptor (show w.descriptorText (some "d.json") = .ok "[\"daily\", 5.5]" by decide +kernel)
      (show Descriptor.ofJson "[\"daily\", 5.5]" =
        .error (.mismatch (.invalidType (.scalar (.fraction "5.5")) "u32")) by decide +kernel)
  have hsound : ¬ Command.Fails w .validateConfig := nofun
  have husage := (ofArgs_ends w ["edit", "0 2 * * *"]).1 _ hmissing nofun nofun
  have hends := ((ofArgs_ends w ["build", "--file", "d.json"]).2 _ hbuild).2.2 c hc
  have hreports := ((ofArgs_ends w ["config", "validate"]).2 _ hvalidate).2.2 c hc
  have hw : ¬ w.SplitsFilter := nofun
  obtain ⟨hone, hempty⟩ := (hends.2 _ hvalid hw).1.mp hbroken
  obtain ⟨hprints, hcode⟩ := (hreports.2 _ hvalid hw).2 hsound
  exact ⟨husage, hbuild, hvalidate, hc, hvalid, hbroken, hsound, hone, hempty, hcode, hprints⟩

/-- A log filter with a wide blank in front of a directive loads, but its check ends every run: even
the version is not printed. -/
theorem ofArgs_version_breaksOff :
    let w : World := {
      lookup := Directory.lookup ⟨[("cadence.toml", "[logging]\nfilter = \"\u3000a=info\"\n")]⟩ }
    Invocation.ofArgs ["version"] = .ok ⟨false, .version⟩ ∧
      Config.InForce w.lookup "cadence.toml" { logging := { filter := "\u3000a=info" } } ∧
      (ofArgs w ["version"]).exitCode = 101 ∧ (ofArgs w ["version"]).output = "" := by
  intro w
  have hlookup : w.lookup "cadence.toml" =
      .file "[logging]\nfilter = \"\u3000a=info\"\n" := by decide +kernel
  exact ⟨by decide, .file hlookup (by decide +kernel), by decide +kernel, by decide +kernel⟩

end Outcome

end Recurrence
