import Recurrence.Proofs.NormalForm
import Recurrence.Proofs.Session

/-!
# Switches of the frequency

A switch to custom shows the custom text and takes the expression in force only where that text is
blank. The text that a session was opened on stands there from the start, so a session that types
no custom text goes back to it and does not show the edits made since.

Switches lose nothing: the way back to the first shape shows the schedule that was there, whatever
shapes lay between. At most one of the switches writes the custom text, the first to custom, and
only over a blank text.
-/
namespace Recurrence

open Cron

/-- Neither types a custom text nor switches to custom. -/
def Edit.StaysStructured (e : Edit) : Prop := e.custom? = none ∧ e ≠ .frequency .custom

instance (e : Edit) : Decidable e.StaysStructured := inferInstanceAs (Decidable (_ ∧ _))

namespace Descriptor

variable {d : Descriptor} {es : List Edit}

private theorem customCron_editAll_of_staysStructured (h : ∀ e ∈ es, e.StaysStructured) :
    (d.editAll es).customCron = d.customCron := by
  induction es generalizing d with
  | nil => rfl
  | cons e es ih =>
    obtain ⟨hcustom, hswitch⟩ := h e List.mem_cons_self
    have hes := ih (d := d.edit e) fun e' he' => h e' (List.mem_cons_of_mem _ he')
    have he : (d.edit e).customCron = d.customCron := by
      rw [d.customCron_edit hcustom, if_neg fun hc => hswitch hc.1.1]
    exact hes.trans he

private theorem frequency_editAll_of_staysStructured (hd : d.frequency ≠ .custom)
    (h : ∀ e ∈ es, e.StaysStructured) : (d.editAll es).frequency ≠ .custom := by
  induction es generalizing d with
  | nil => exact hd
  | cons e es ih =>
    refine ih ?_ fun e' he' => h e' (List.mem_cons_of_mem _ he')
    obtain ⟨-, hswitch⟩ := h e List.mem_cons_self
    rw [frequency_edit]
    cases e with
    | frequency f =>
      intro hf
      exact hswitch (congrArg Edit.frequency hf)
    | _ => exact hd

private theorem edit_custom_of_not_allBlank (h : Text.allBlank d.customCron.toList = false) :
    d.edit (.frequency .custom) = { d with frequency := .custom } := by
  simp only [edit_frequency, h, Bool.false_eq_true, and_false, if_false]

private theorem toCron_edit_custom_of_allBlank (h : Text.allBlank d.customCron.toList = true) :
    (d.edit (.frequency .custom)).toCron = d.toCron := by
  simp only [edit_frequency, h, and_true, if_true, toCron]

/-- A structured schedule is written as the text `s` exactly if `s` is canonical and says the same,
Monday standing for an empty selection. -/
theorem toCron_eq_iff {s : String} (h : d.frequency ≠ .custom) :
    d.toCron = s ↔ IsCanonical s ∧ d.orMonday.view = (ofCron s).view := by
  constructor
  · rintro rfl
    have hview := view_eq_of_activePart (activePart_ofCron_toCron h)
    exact ⟨isCanonical_iff.mpr ⟨d, h, rfl⟩, hview.symm⟩
  · rintro ⟨hs, hview⟩
    obtain ⟨e, he, rfl⟩ := isCanonical_iff.mp hs
    have hpart := activePart_eq_of_view_eq hview
    calc d.toCron = d.orMonday.toCron := (toCron_orMonday d).symm
      _ = (ofCron e.toCron).toCron := toCron_eq_of_activePart hpart
      _ = e.toCron := toCron_ofCron_toCron he

end Descriptor

private theorem Cron.allBlank_of_not_isMalformed {s : String} (h : isMalformed s = false) :
    Text.allBlank s.toList = false := by
  rw [Bool.eq_false_iff]
  intro hblank
  have hwords := Text.words_of_allBlank hblank
  simp [isMalformed, Fields.ofText?, hwords] at h

namespace Editor

/-- In a session on a structured text that types no custom text, the switch to custom brings the
text of the beginning back, whatever was edited. It keeps the expression in force exactly if the
text is canonical and the edits have led back to what it says. -/
theorem apply_custom_keeps_iff (s : String) (es : List Edit) (hfields : isMalformed s = false)
    (hs : (Descriptor.ofCron s).frequency ≠ .custom) (hes : ∀ e ∈ es, e.StaysStructured) :
    let ed := (load s).run es
    let step := ed.apply (.frequency .custom)
    step.returned = s ∧
      step.signals = [.logged (.scheduleEdited "frequency" .custom s false), .changed s] ∧
      step.editor.descriptor = { ed.descriptor with frequency := .custom } ∧
      (step.returned = ed.expression ↔
        IsCanonical s ∧ ed.descriptor.orMonday.view = (Descriptor.ofCron s).view) := by
  intro ed step
  have hed : ed.descriptor = (Descriptor.ofCron s).editAll es := descriptor_run (load s) es
  have hcustom : ed.descriptor.customCron = s := by
    rw [hed, Descriptor.customCron_editAll_of_staysStructured hes, Descriptor.customCron_ofCron]
  have hstructured : ed.descriptor.frequency ≠ .custom := by
    rw [hed]
    exact Descriptor.frequency_editAll_of_staysStructured hs hes
  have hnext : step.editor.descriptor = { ed.descriptor with frequency := .custom } := by
    apply Descriptor.edit_custom_of_not_allBlank
    rw [hcustom]
    exact allBlank_of_not_isMalformed hfields
  have hreturned : step.returned = s := by
    change step.editor.descriptor.toCron = s
    rw [hnext]
    exact hcustom
  have hfrequency : step.editor.descriptor.frequency = .custom := by rw [hnext]
  refine ⟨hreturned, ?_, hnext, ?_⟩
  · change [Signal.logged (.scheduleEdited _ step.editor.descriptor.frequency step.returned _),
      .changed step.returned] = _
    rw [hfrequency, hreturned]
    rfl
  · rw [hreturned, eq_comm]
    exact Descriptor.toCron_eq_iff hstructured

theorem apply_custom_keeps_iff_noDay :
    let s := "0 9 * * 1"
    let es : List Edit := [.number .hour "14", .toggleDay .mon, .number .hour " 9 "]
    let ed := (load s).run es
    isMalformed s = false ∧ (Descriptor.ofCron s).frequency ≠ .custom ∧
      (∀ e ∈ es, e.StaysStructured) ∧ ed.descriptor.view ≠ (Descriptor.ofCron s).view ∧
      (ed.apply (.frequency .custom)).returned = ed.expression := by
  intro s es ed
  have hfields : isMalformed s = false := by decide
  have hs : (Descriptor.ofCron s).frequency ≠ .custom := by decide
  have hes : ∀ e ∈ es, e.StaysStructured := by decide
  have hcanonical : IsCanonical s :=
    Descriptor.isCanonical_iff.mpr ⟨Descriptor.ofCron s, hs, by decide⟩
  obtain ⟨-, -, -, hkeeps⟩ := apply_custom_keeps_iff s es hfields hs hes
  exact ⟨hfields, hs, hes, by decide, hkeeps.mpr ⟨hcanonical, by decide⟩⟩

/-- The new hour is lost at the switch. -/
theorem apply_custom_drops_edit :
    isMalformed "0 2 * * *" = false ∧ (Descriptor.ofCron "0 2 * * *").frequency = .daily ∧
      (Edit.number .hour "14").StaysStructured ∧
      ((load "0 2 * * *").run [.number .hour "14"]).expression = "0 14 * * *" ∧
      (((load "0 2 * * *").run [.number .hour "14"]).apply (.frequency .custom)).returned =
        "0 2 * * *" := by
  decide

end Editor

namespace Descriptor

/-- The schedule is a custom one and its text says nothing. -/
def IsBlank (d : Descriptor) : Prop :=
  d.frequency = .custom ∧ Text.allBlank d.customCron.toList = true

instance (d : Descriptor) : Decidable d.IsBlank := inferInstanceAs (Decidable (_ ∧ _))

private theorem editAll_switches (d : Descriptor) (fs : List Frequency) :
    d.editAll (fs.map .frequency) =
      { d with
        frequency := fs.getLast?.getD d.frequency
        customCron := (d.editAll (fs.map .frequency)).customCron } := by
  induction fs using List.reverseRecOn with
  | nil => rfl
  | append_singleton fs f ih =>
    rw [List.map_append, List.map_singleton, editAll_concat, edit_frequency, ih,
      List.getLast?_concat]
    rfl

private theorem customCron_editAll_switches {d : Descriptor}
    (h : Text.allBlank d.customCron.toList = false) (fs : List Frequency) :
    (d.editAll (fs.map .frequency)).customCron = d.customCron := by
  have hcustom : ∀ e ∈ fs.map Edit.frequency, e.custom? = none := by simp [Edit.custom?]
  rw [d.customCron_editAll_switch hcustom, h, if_neg Bool.false_ne_true]

private theorem activePart_editAll_switches {d : Descriptor} (h : ¬d.IsBlank)
    (fs : List Frequency) :
    (d.editAll ((fs ++ [d.frequency]).map .frequency)).activePart = d.activePart := by
  rw [editAll_switches, List.getLast?_concat, Option.getD_some]
  by_cases hd : d.frequency = .custom
  · have htext : Text.allBlank d.customCron.toList = false :=
      Bool.eq_false_iff.mpr fun hblank => h ⟨hd, hblank⟩
    rw [customCron_editAll_switches htext]
  · exact activePart_setCustom hd _

end Descriptor

namespace Editor

/-- The state after the first `n` edits. -/
def reached (ed : Editor) (es : List Edit) (n : Nat) : Editor := ed.run (es.take n)

private theorem reached_switches (ed : Editor) (fs : List Frequency) (n : Nat) :
    (ed.reached (fs.map .frequency) n).descriptor =
      ed.descriptor.editAll ((fs.take n).map .frequency) := by
  rw [reached, descriptor_run, List.map_take]

/-- In the course of the edits the custom text stays as it is, or it changes once: one of them is a
switch to custom that finds it blank, and from then on it is the expression that was in force, which
is not blank. -/
def SeedsAtMostOnce (ed : Editor) (es : List Edit) : Prop :=
  (∀ n, (ed.reached es n).descriptor.customCron = ed.descriptor.customCron) ∨
    ∃ k, es[k]? = some (.frequency .custom) ∧
      Text.allBlank ed.descriptor.customCron.toList = true ∧
      Text.allBlank (ed.reached es k).expression.toList = false ∧
      ∀ n, (ed.reached es n).descriptor.customCron =
        if n ≤ k then ed.descriptor.customCron else (ed.reached es k).expression

variable {ed : Editor}

private theorem seedsAtMostOnce_of_not_allBlank
    (h : Text.allBlank ed.descriptor.customCron.toList = false)
    (fs : List Frequency) : ed.SeedsAtMostOnce (fs.map .frequency) := by
  refine .inl fun n => ?_
  rw [reached_switches, Descriptor.customCron_editAll_switches h]

private theorem seedsAtMostOnce_custom (h : ed.descriptor.frequency ≠ .custom)
    (hblank : Text.allBlank ed.descriptor.customCron.toList = true) (fs : List Frequency) :
    ed.SeedsAtMostOnce ((.custom :: fs).map .frequency) := by
  have htext : Text.allBlank ed.expression.toList = false := Descriptor.allBlank_toCron h
  have hseed : (ed.descriptor.edit (.frequency .custom)).customCron = ed.expression := by
    have hcustom : (ed.descriptor.edit (.frequency .custom)).frequency = .custom := rfl
    rw [← Descriptor.toCron_of_custom hcustom]
    exact Descriptor.toCron_edit_custom_of_allBlank hblank
  refine .inr ⟨0, rfl, hblank, htext, fun n => ?_⟩
  cases n with
  | zero => rfl
  | succ n =>
    rw [reached_switches, if_neg (by omega)]
    change ((ed.descriptor.edit (.frequency .custom)).editAll
      ((fs.take n).map .frequency)).customCron = ed.expression
    rw [Descriptor.customCron_editAll_switches (hseed ▸ htext), hseed]

/-- An edit that leaves the custom text alone puts the change off by one. -/
private theorem SeedsAtMostOnce.cons {e : Edit} {es : List Edit}
    (hkeeps : (ed.apply e).editor.descriptor.customCron = ed.descriptor.customCron)
    (h : (ed.apply e).editor.SeedsAtMostOnce es) : ed.SeedsAtMostOnce (e :: es) := by
  rw [SeedsAtMostOnce, hkeeps] at h
  rcases h with h | ⟨k, hswitch, hblank, htext, h⟩
  · refine .inl fun n => ?_
    cases n with
    | zero => rfl
    | succ n => exact h n
  · refine .inr ⟨k + 1, hswitch, hblank, htext, fun n => ?_⟩
    cases n with
    | zero => rfl
    | succ n =>
      simp only [Nat.add_le_add_iff_right]
      exact h n

private theorem seedsAtMostOnce_switches (h : ¬ed.descriptor.IsBlank) (fs : List Frequency) :
    ed.SeedsAtMostOnce (fs.map .frequency) := by
  cases hblank : Text.allBlank ed.descriptor.customCron.toList with
  | false => exact seedsAtMostOnce_of_not_allBlank hblank fs
  | true =>
    have hstructured : ed.descriptor.frequency ≠ .custom := fun hf => h ⟨hf, hblank⟩
    clear h
    -- The schedule stays structured up to the first switch to custom.
    induction fs generalizing ed with
    | nil => exact .inl fun n => by rw [reached, List.map_nil, List.take_nil]; rfl
    | cons f fs ih =>
      by_cases hf : f = .custom
      · rw [hf]
        exact seedsAtMostOnce_custom hstructured hblank fs
      · have hnext : (ed.apply (.frequency f)).editor.descriptor =
            { ed.descriptor with frequency := f } := by
          change ed.descriptor.edit (.frequency f) = _
          rw [Descriptor.edit_frequency, if_neg fun hc => hf hc.1]
        refine SeedsAtMostOnce.cons ?_ (ih ?_ ?_) <;> rw [hnext]
        · exact hblank
        · exact hf

/-- Whatever switches lie between, going back to the frequency of the beginning shows what was shown
then. Only the frequency changes on the way, and at most once the custom text. A custom schedule
with a blank text is left out: the text seeded on the way would stay in it. -/
theorem shown_run_switches (ed : Editor) (h : ¬ed.descriptor.IsBlank) (fs : List Frequency) :
    let d := ed.descriptor
    let es := (fs ++ [d.frequency]).map Edit.frequency
    let final := ed.run es
    final.expression = ed.expression ∧ final.preview = ed.preview ∧ final.descriptor.view = d.view ∧
      (∀ n, ∃ f, (ed.reached es n).descriptor =
        { d with frequency := f, customCron := (ed.reached es n).descriptor.customCron }) ∧
      ed.SeedsAtMostOnce es := by
  intro d es final
  have hpart : final.descriptor.activePart = d.activePart := by
    rw [descriptor_run]
    exact Descriptor.activePart_editAll_switches h fs
  refine ⟨Descriptor.toCron_eq_of_activePart hpart, Descriptor.sentence_eq_of_activePart hpart,
    Descriptor.view_eq_of_activePart hpart, fun n => ?_, seedsAtMostOnce_switches h _⟩
  rw [reached_switches]
  exact ⟨_, Descriptor.editAll_switches d _⟩

theorem shown_run_switches_seeded :
    let ed := (load " \t").run [.number .hour "7", .frequency .weekly, .toggleDay .fri]
    let fs : List Frequency := [.minute, .custom, .daily, .custom, .hourly]
    let final := ed.run ((fs ++ [ed.descriptor.frequency]).map .frequency)
    ¬ed.descriptor.IsBlank ∧ ed.expression = "0 7 * * 1,5" ∧ final.expression = ed.expression ∧
      final.descriptor.customCron = "*/5 * * * *" := by
  intro ed fs final
  have h : ¬ed.descriptor.IsBlank := by decide
  obtain ⟨hexpression, -⟩ := shown_run_switches ed h fs
  exact ⟨h, by decide, hexpression, by decide⟩

end Editor
end Recurrence
