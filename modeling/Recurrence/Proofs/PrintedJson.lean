import Recurrence.Command.Run
import Recurrence.Proofs.DescriptorObject
import Recurrence.Proofs.JsonValue

/-!
# Printed JSON

A descriptor is decoded from its own text as it was, in either layout. What `parse` prints can go
straight into `build`.

What a command prints as JSON says the object that it stands for, with its values as they were. The
layout makes no difference to that, and without indentation the text is one line, whatever the
arguments hold. The same is true of each event in the log.
-/
namespace Recurrence

open Json

private theorem DaySelection.ofTree_toJson (s : DaySelection) : ofTree s.toJson.tree = .ok s := by
  rw [ofTree_eq_ok_iff, toJson, tree_array, List.map_map]
  rfl

private theorem Frequency.ofTree_name (f : Frequency) : ofTree (Value.string f.name).tree = .ok f :=
  ofTree_eq_ok_iff.mpr (.inl (isString_quoted f.name))

namespace Descriptor

private theorem read_toJson (d : Descriptor) : record.read .illFormed d.toJson.tree = .ok d := by
  rw [toJson, tree_object]
  simp only [List.map_cons, List.map_nil, Record.read, Record.ofMembers]
  -- Each member finds its field, which no member before it has given.
  rw [Record.addMembers_slot rfl rfl (Frequency.ofTree_name d.frequency),
    Record.addMembers_slot rfl rfl (word_tree_number d.minuteInterval),
    Record.addMembers_slot rfl rfl (word_tree_number d.hourInterval),
    Record.addMembers_slot rfl rfl (word_tree_number d.startingMinute),
    Record.addMembers_slot rfl rfl (word_tree_number d.hour),
    Record.addMembers_slot rfl rfl (word_tree_number d.minute),
    Record.addMembers_slot rfl rfl (DaySelection.ofTree_toJson d.selectedDays),
    Record.addMembers_slot rfl rfl (word_tree_number d.dayOfMonth),
    Record.addMembers_slot rfl rfl (text_tree_string d.customCron)]
  rfl

/-- Like all printed texts, that of a descriptor may end in a line feed. -/
theorem ofJson_render (d : Descriptor) (out : Output) {ws : String}
    (hws : ws.toList.all isSpace = true) : ofJson (out.render d.toJson ++ ws) = .ok d := by
  rw [ofJson, Output.render, decodeText_render _ _ _ hws, read_toJson]

end Descriptor

namespace Event

/-- The object that stands for an event, member by member. -/
inductive ToldBy : Event → Value → Prop
  | scheduleLoaded (input : String) (f : Frequency) (malformed : Bool) :
      ToldBy (.scheduleLoaded input f malformed) (.object
        [("event", .string "ScheduleLoaded"), ("input", .string input),
          ("frequency", .string f.name), ("malformed", .bool malformed)])
  | scheduleEdited (field : String) (f : Frequency) (expression : String) (clamped : Bool) :
      ToldBy (.scheduleEdited field f expression clamped) (.object
        [("event", .string "ScheduleEdited"), ("field", .string field),
          ("frequency", .string f.name), ("expression", .string expression),
          ("clamped", .bool clamped)])
  | configLoaded (path : String) (fromFile : Bool) (issues : Nat) :
      ToldBy (.configLoaded path fromFile issues) (.object
        [("event", .string "ConfigLoaded"), ("path", .string path), ("from_file", .bool fromFile),
          ("issues", .number issues)])

private theorem toldBy_toJson (e : Event) : e.ToldBy e.toJson := by
  cases e with
  | scheduleLoaded input f malformed => exact .scheduleLoaded input f malformed
  | scheduleEdited field f expression clamped => exact .scheduleEdited field f expression clamped
  | configLoaded path fromFile issues => exact .configLoaded path fromFile issues

end Event

namespace Answer

private theorem result_build_render (d : Descriptor) (out : Output) (pretty : Bool) {ws : String}
    (hws : ws.toList.all isSpace = true) :
    (build (out.render d.toJson ++ ws) ⟨false, pretty⟩).result = .ok d.toCron := by
  simp only [build, d.ofJson_render out hws]
  rfl

/-- A descriptor printed as JSON, in either layout, is read back as it was, and `build` prints its
expression. What `parse` printed is such a text, with its line feed as without. -/
theorem build_printed_descriptor (d : Descriptor) (s : String) (out : Output) (pretty : Bool)
    (w : World) (c : Config) (path : String) (issues : List Issue) :
    Descriptor.ofJson (out.render d.toJson) = .ok d ∧
      (build (out.render d.toJson) ⟨false, pretty⟩).result = .ok d.toCron ∧
      (∃ text, (parse s out).result = .ok text ∧
        (build text ⟨false, pretty⟩).result = .ok (Descriptor.ofCron s).toCron) ∧
      let printed := (Outcome.ofCommand w c path issues out (.parse s)).output
      let built := Outcome.ofCommand { w with input := printed } c path issues ⟨false, pretty⟩
        (.build none)
      built.exitCode = 0 ∧ built.output = (Descriptor.ofCron s).toCron ++ "\n" := by
  have hnone : "".toList.all isSpace = true := rfl
  have hfeed : "\n".toList.all isSpace = true := by decide
  have hread := d.ofJson_render out hnone
  have hbuild := result_build_render d out pretty hnone
  have hparse := result_build_render (Descriptor.ofCron s) out pretty hnone
  have hpiped := result_build_render (Descriptor.ofCron s) out pretty hfeed
  rw [String.append_empty] at hread hbuild hparse
  refine ⟨hread, hbuild, ⟨_, rfl, hparse⟩, ?_⟩
  simp only [Outcome.ofCommand, World.descriptorText, Outcome.ofAnswer, parse, hpiped, and_self]

/-- Indented or not, the answer is a text that says the value; not indented, it is one line. -/
def Says (answer : (pretty : Bool) → Answer) (v : Value) : Prop :=
  ∀ pretty, ∃ text, (answer pretty).result = .ok text ∧ Value.ofText? text = some v ∧
    (pretty = false → NoControl text.toList)

private theorem says_of_render {answer : Bool → Answer} {v : Value}
    (h : ∀ pretty,
      (answer pretty).result = .ok (v.render (if pretty then .indented else .compact))) :
    Says answer v := by
  intro pretty
  refine ⟨_, h pretty, v.ofText?_render _, ?_⟩
  rintro rfl
  exact v.noControl_render

/-- Each command that prints JSON prints the object of its result, member by member, or fails
because of what it was given. Each event is logged as its object, member by member, on one line. -/
theorem json_says (cron text : String) (raws : List String) (event : Event) :
    let object (d : Descriptor) : Value := .object
      [("frequency", .string d.frequency.name),
        ("minuteInterval", .number d.minuteInterval.toNat),
        ("hourInterval", .number d.hourInterval.toNat),
        ("startingMinute", .number d.startingMinute.toNat),
        ("hour", .number d.hour.toNat),
        ("minute", .number d.minute.toNat),
        ("selectedDays", .array (Weekday.all.map fun day => .bool (d.selectedDays.contains day))),
        ("dayOfMonth", .number d.dayOfMonth.toNat),
        ("customCron", .string d.customCron)]
    (∀ json, Says (fun pretty => parse cron ⟨json, pretty⟩) (object (.ofCron cron))) ∧
      (match Descriptor.ofJson text with
        | .ok d => Says (fun pretty => build text ⟨true, pretty⟩)
            (.object [("expression", .string d.toCron)])
        | .error e => ∀ out, (build text out).result = .error (.badDescriptor e)) ∧
      Says (fun pretty => describe cron ⟨true, pretty⟩)
        (.object
          [("expression", .string cron),
            ("frequency", .string (Descriptor.ofCron cron).frequency.name),
            ("description", .string (Descriptor.ofCron cron).sentence)]) ∧
      (match Transcript.ofTexts cron raws with
        | .ok (t, _) => Says (fun pretty => edit cron raws ⟨true, pretty⟩)
            (.object
              [("initial", .string t.initial),
                ("steps", .array (t.steps.map fun step => .array [.string step.1, .string step.2])),
                ("expression", .string t.expression),
                ("description", .string t.description),
                ("descriptor", object t.descriptor)])
        | .error e => ∀ out, (edit cron raws out).result = .error (.badEdit e)) ∧
      ∃ line, event.record.fields = [("trace_event", line)] ∧
        Value.ofText? line = some event.toJson ∧ event.ToldBy event.toJson ∧
        NoControl line.toList := by
  intro object
  have hobject (d : Descriptor) : d.toJson = object d := rfl
  refine ⟨fun json => says_of_render fun pretty => rfl, ?_, says_of_render fun pretty => rfl, ?_, ?_⟩
  · cases hd : Descriptor.ofJson text with
    | ok d =>
      refine says_of_render fun pretty => ?_
      simp only [build, hd, if_true]
      rfl
    | error e => simp only [build, hd, implies_true]
  · cases ht : Transcript.ofTexts cron raws with
    | ok r =>
      refine says_of_render fun pretty => ?_
      simp only [edit, ht]
      rfl
    | error e => simp only [edit, ht, implies_true]
  · exact ⟨_, rfl, event.toJson.ofText?_render .compact, event.toldBy_toJson,
      event.toJson.noControl_render⟩

end Answer
end Recurrence
