import Recurrence.Command.Answer
import Recurrence.Proofs.Clamp
import Recurrence.Proofs.EditText

/-!
# Traces and transcripts of sessions

Opening an editor is logged and changes nothing for the caller. Each edit is logged and then
announced, and what the log, the caller and the listener get is the expression of the state that the
edit leads to.

An editing command does all of its edits or none: one edit that cannot be read, and the session does
not begin. A transcript tells what the session did, step by step, and the edits that it names lead
to the same transcript again.
-/
namespace Recurrence

/-- A number was typed that is no integer in the range of its field. -/
def Edit.Misfits : Edit → Prop
  | .number field text => ¬ field.range.Takes text
  | _ => False

private theorem Edit.isClamped_iff (e : Edit) : e.isClamped = true ↔ e.Misfits := by
  cases e with
  | number field text =>
    rw [isClamped, Misfits, ← Range.adjusted_clamp_iff, Bool.not_eq_false]
  | _ => simp [isClamped, Misfits]

namespace Editor

/-- All that a session lets the outside know, in order of time. -/
def trace (s : String) (es : List Edit) : List Signal :=
  loadSignals s ++ ((load s).steps es).flatMap Step.signals

private theorem events_ofEdits (s : String) (es : List Edit) :
    (Transcript.ofEdits s es).2 = (trace s es).filterMap Signal.event? := rfl

theorem getElem?_steps (ed : Editor) (es : List Edit) (n : Nat) :
    (ed.steps es)[n]? = es[n]?.map fun e => (ed.run (es.take n)).apply e := by
  induction es generalizing ed n with
  | nil => rfl
  | cons e es ih =>
    cases n with
    | zero => rfl
    | succ n => exact ih (ed.apply e).editor n

theorem length_steps (ed : Editor) (es : List Edit) : (ed.steps es).length = es.length := by
  induction es generalizing ed with
  | nil => rfl
  | cons e es ih => exact congrArg Nat.succ (ih (ed.apply e).editor)

private theorem run_take_succ (ed : Editor) {es : List Edit} {n : Nat} (h : n < es.length) :
    ed.run (es.take (n + 1)) = ((ed.run (es.take n)).apply es[n]).editor := by
  rw [run, List.take_succ_eq_append_getElem h, List.foldl_append]
  rfl

private theorem signals_apply (ed : Editor) (e : Edit) :
    (ed.apply e).signals =
      [.logged (.scheduleEdited e.fieldName (ed.apply e).editor.descriptor.frequency
          (ed.apply e).returned e.isClamped),
        .changed (ed.apply e).returned] := rfl

private theorem length_signals_steps (ed : Editor) (es : List Edit) :
    ((ed.steps es).flatMap Step.signals).length = 2 * es.length := by
  induction es generalizing ed with
  | nil => rfl
  | cons e es ih =>
    rw [steps, List.flatMap_cons, List.length_append, ih, signals_apply, List.length_cons]
    simp only [List.length_cons, List.length_nil]
    omega

/-- The two signals of a step stand next to each other, behind those of the steps before it. -/
private theorem take_drop_signals_steps (ed : Editor) {es : List Edit} {n : Nat}
    (h : n < es.length) :
    (((ed.steps es).flatMap Step.signals).drop (2 * n)).take 2 =
      ((ed.run (es.take n)).apply es[n]).signals := by
  induction es generalizing ed n with
  | nil => contradiction
  | cons e es ih =>
    cases n with
    | zero => rfl
    | succ n => exact ih (ed.apply e).editor (Nat.lt_of_succ_lt_succ h)

private theorem expressions_signals_steps (ed : Editor) (es : List Edit) :
    ((ed.steps es).flatMap Step.signals).filterMap Signal.expression? =
      (ed.steps es).map Step.returned := by
  induction es generalizing ed with
  | nil => rfl
  | cons e es ih =>
    rw [steps, List.flatMap_cons, List.filterMap_append, ih, List.map_cons]
    rfl

/-- A session logs its beginning and then logs and announces each edit in turn. Log, listener and
caller get the same expression, that of the state after the edit; the log tells the truth about the
field, the frequency and the number that was typed. -/
theorem trace_agrees (s : String) (es : List Edit) :
    let start := load s
    (trace s es).take 1 =
        [.logged (.scheduleLoaded s (Descriptor.ofCron s).frequency (Cron.isMalformed s))] ∧
      (trace s es).length = 1 + 2 * es.length ∧
      (start.steps es).length = es.length ∧
      ∀ n (h : n < es.length), ∃ step clamped,
        let expression := step.editor.descriptor.toCron
        (start.steps es)[n]? = some step ∧
          step.editor = start.run (es.take (n + 1)) ∧
          step.returned = expression ∧
          ((trace s es).drop (1 + 2 * n)).take 2 =
            [.logged (.scheduleEdited es[n].fieldName step.editor.descriptor.frequency expression
                clamped),
              .changed expression] ∧
          (clamped = true ↔ es[n].Misfits) := by
  intro start
  have htail : (trace s es).drop 1 = (start.steps es).flatMap Step.signals := rfl
  refine ⟨rfl, ?_, length_steps start es, ?_⟩
  · rw [trace, List.length_append, length_signals_steps]
    rfl
  · intro n h
    let step := (start.run (es.take n)).apply es[n]
    refine ⟨step, es[n].isClamped, ?_, (start.run_take_succ h).symm, rfl, ?_, es[n].isClamped_iff⟩
    · rw [getElem?_steps, List.getElem?_eq_getElem h]
      rfl
    · rw [← List.drop_drop, htail, start.take_drop_signals_steps h]
      rfl

theorem trace_agrees_overflow :
    let s := "0 2 * * *"
    let es : List Edit := [.toggleDay .fri, .number .hour "9223372036854775808"]
    ∃ step, ((load s).steps es)[1]? = some step ∧ step.returned = step.editor.descriptor.toCron ∧
      ((trace s es).drop 3).take 2 =
        [.logged (.scheduleEdited "hour" .daily step.returned true), .changed step.returned] := by
  intro s es
  obtain ⟨-, -, -, hsteps⟩ := trace_agrees s es
  obtain ⟨step, clamped, hstep, heditor, hreturned, hsignals, hclamped⟩ := hsteps 1 (by decide)
  have hmisfits : es[1].Misfits := es[1].isClamped_iff.mp (by decide)
  have hfrequency : step.editor.descriptor.frequency = .daily := by
    rw [heditor]
    decide
  refine ⟨step, hstep, hreturned, ?_⟩
  rw [hreturned, ← hclamped.mpr hmisfits, ← hfrequency]
  exact hsignals

end Editor

namespace Transcript

/-- The transcript tells of the session of these edits on the expression: how it began, each edit
with the expression it led to, and how it ended. -/
structure Tells (t : Transcript) (s : String) (es : List Edit) : Prop where
  initial : t.initial = (Descriptor.ofCron s).toCron
  length_steps : t.steps.length = es.length
  step (n : Nat) (h : n < es.length) :
    t.steps[n]? =
      some (es[n].toText, ((Editor.load s).run (es.take (n + 1))).descriptor.toCron)
  expression : t.expression = ((Editor.load s).run es).descriptor.toCron
  description : t.description = ((Editor.load s).run es).descriptor.sentence
  descriptor : t.descriptor = ((Editor.load s).run es).descriptor

private theorem steps_ofEdits (s : String) (es : List Edit) :
    (ofEdits s es).1.steps =
      (es.map Edit.toText).zip (((Editor.load s).steps es).map Editor.Step.returned) := by
  rw [← Editor.expressions_signals_steps]
  rfl

private theorem labels_ofEdits (s : String) (es : List Edit) :
    (ofEdits s es).1.steps.map Prod.fst = es.map Edit.toText := by
  rw [steps_ofEdits]
  refine List.map_fst_zip ?_
  simp only [List.length_map, Editor.length_steps, Nat.le_refl]

theorem tells_ofEdits (s : String) (es : List Edit) : (ofEdits s es).1.Tells s es where
  initial := rfl
  length_steps := by
    simp only [steps_ofEdits, List.length_zip, List.length_map, Editor.length_steps, Nat.min_self]
  step n h := by
    have hstep := (Editor.load s).getElem?_steps es n
    rw [List.getElem?_eq_getElem h, Option.map_some] at hstep
    rw [steps_ofEdits, List.getElem?_zip_eq_some]
    refine ⟨?_, ?_⟩
    · rw [List.getElem?_map, List.getElem?_eq_getElem h, Option.map_some]
    · rw [List.getElem?_map, hstep, Option.map_some, Editor.run_take_succ _ h]
      rfl
  expression := rfl
  description := rfl
  descriptor := rfl

theorem ofTexts_eq_ok_iff {s : String} {raws : List String} {r : Transcript × List Event} :
    ofTexts s raws = .ok r ↔
      ∃ es, List.Forall₂ (fun raw e => Edit.ofText raw = .ok e) raws es ∧ ofEdits s es = r := by
  rw [ofTexts, map_eq_ok_iff]
  simp only [mapM_eq_ok_iff]

private theorem ofTexts_eq_error_iff {s : String} {raws : List String} {err : EditError} :
    ofTexts s raws = .error err ↔
      ∃ front bad back, raws = front ++ bad :: back ∧
        (∀ raw ∈ front, ∃ e, Edit.ofText raw = .ok e) ∧ Edit.ofText bad = .error err := by
  rw [ofTexts, map_eq_error_iff, mapM_eq_error_iff]

/-- Edits are read from their own texts, so the session can be run again from them. -/
theorem ofTexts_toText (s : String) (es : List Edit) :
    ofTexts s (es.map Edit.toText) = .ok (ofEdits s es) := by
  rw [ofTexts_eq_ok_iff]
  refine ⟨es, ?_, rfl⟩
  rw [List.forall₂_map_left_iff, List.forall₂_same]
  exact fun e _ => e.ofText_toText

/-- A session takes place exactly if all of its edits can be read. If not, the first that cannot is
the reason and nothing is logged. If so, the transcript tells what the session did, the log what it
signalled, and the edits as the transcript names them give the same transcript and the same log. -/
theorem ofTexts_all_or_nothing (s : String) (raws : List String) :
    ((∃ r, ofTexts s raws = .ok r) ↔ ∀ raw ∈ raws, ∃ e, Edit.ofText raw = .ok e) ∧
      (∀ err, ofTexts s raws = .error err ↔
        ∃ front bad back, raws = front ++ bad :: back ∧
          (∀ raw ∈ front, ∃ e, Edit.ofText raw = .ok e) ∧ Edit.ofText bad = .error err) ∧
      (∀ err out, ofTexts s raws = .error err →
        Answer.edit s raws out = { result := .error (.badEdit err), log := [] }) ∧
      ∀ t events, ofTexts s raws = .ok (t, events) →
        ∃ es, List.Forall₂ (fun raw e => Edit.ofText raw = .ok e) raws es ∧ t.Tells s es ∧
          events = (Editor.trace s es).filterMap Editor.Signal.event? ∧
          ofTexts s (t.steps.map Prod.fst) = .ok (t, events) ∧
          ∀ out, Answer.edit s raws out =
            { result := .ok (t.render out), log := events.map Event.record } := by
  refine ⟨⟨?_, ?_⟩, fun err => ofTexts_eq_error_iff, ?_, ?_⟩
  · rintro ⟨r, hr⟩
    obtain ⟨es, hes, -⟩ := ofTexts_eq_ok_iff.mp hr
    exact forall_exists_of_mapM (mapM_eq_ok_iff.mpr hes)
  · intro hall
    cases hr : ofTexts s raws with
    | ok r => exact ⟨r, rfl⟩
    | error err =>
      obtain ⟨front, bad, back, rfl, -, hbad⟩ := ofTexts_eq_error_iff.mp hr
      obtain ⟨e, he⟩ := hall bad (by simp)
      rw [hbad] at he
      contradiction
  · intro err out herr
    simp only [Answer.edit, herr]
  · intro t events hr
    obtain ⟨es, hes, hsession⟩ := ofTexts_eq_ok_iff.mp hr
    obtain rfl : (ofEdits s es).1 = t := congrArg Prod.fst hsession
    obtain rfl : (ofEdits s es).2 = events := congrArg Prod.snd hsession
    refine ⟨es, hes, tells_ofEdits s es, Editor.events_ofEdits s es, ?_, ?_⟩
    · rw [labels_ofEdits]
      exact ofTexts_toText s es
    · intro out
      simp only [Answer.edit, hr]

example : ofTexts "0 2 * * 1" [" days = sun,,MON"] =
    .ok (ofEdits "0 2 * * 1" [.setDays (.ofDays [.mon, .sun])]) := by decide

theorem ofTexts_all_or_nothing_badEdit :
    let raws := [" days = sun,,MON", "colour=blue", "hour"]
    Edit.ofText " days = sun,,MON" = .ok (.setDays (.ofDays [.mon, .sun])) ∧
      Edit.ofText "colour=blue" = .error (.unknownField "colour") ∧
      ofTexts "0 2 * * 1" raws = .error (.unknownField "colour") ∧
      ∀ out, (Answer.edit "0 2 * * 1" raws out).log = [] := by
  intro raws
  obtain ⟨-, hfailure, hnothing, -⟩ := ofTexts_all_or_nothing "0 2 * * 1" raws
  have hgood : Edit.ofText " days = sun,,MON" = .ok (.setDays (.ofDays [.mon, .sun])) := by decide
  have hbad : Edit.ofText "colour=blue" = .error (.unknownField "colour") := by decide
  have hfront : ∀ raw ∈ [" days = sun,,MON"], ∃ e, Edit.ofText raw = .ok e :=
    List.forall_mem_singleton.mpr ⟨_, hgood⟩
  have herror := (hfailure _).mpr ⟨_, _, ["hour"], rfl, hfront, hbad⟩
  exact ⟨hgood, hbad, herror, fun out => by rw [hnothing _ out herror]⟩

end Transcript
end Recurrence
