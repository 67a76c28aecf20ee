import Recurrence.Proofs.RoundTrip
import Recurrence.Proofs.Session

/-!
# Saving and reopening

Only the expression of a session is saved. The editor that it opens again shares the active part
with the editor it was saved from; edits that leave the frequency alone keep that agreement, and
agreeing editors cannot be told apart from outside.
-/
namespace Recurrence

private theorem Descriptor.activePart_edit (d : Descriptor) {e : Edit} (h : e.frequency? = none) :
    (d.edit e).activePart = (d.activePart.edit e).activePart := by
  obtain ⟨f⟩ := d
  cases e with
  | frequency f => contradiction
  | number field text => cases field <;> cases f <;> rfl
  | toggleDay day => cases f <;> rfl
  | setDays days => cases f <;> rfl
  | custom text => cases f <;> rfl

namespace Editor

/-- What a step lets the outside see: the signals, the expression handed back, and the preview and
the view of the state that it leads to. -/
def Step.shown (s : Step) : List Signal × String × String × View :=
  (s.signals, s.returned, s.editor.preview, s.editor.descriptor.view)

/-- Two editors with the same shape in force and the same values in the fields that it reads. -/
def Agrees (ed ed' : Editor) : Prop := ed.descriptor.activePart = ed'.descriptor.activePart

namespace Agrees

variable {ed ed' : Editor} (h : ed.Agrees ed')
include h

private theorem expression_eq :
    ed.expression = ed'.expression := Descriptor.toCron_eq_of_activePart h

private theorem preview_eq : ed.preview = ed'.preview := Descriptor.sentence_eq_of_activePart h

private theorem view_eq :
    ed.descriptor.view = ed'.descriptor.view := Descriptor.view_eq_of_activePart h

private theorem apply {e : Edit} (he : e.frequency? = none) :
    (ed.apply e).editor.Agrees (ed'.apply e).editor := by
  have hpart : ed.descriptor.activePart = ed'.descriptor.activePart := h
  change (ed.descriptor.edit e).activePart = (ed'.descriptor.edit e).activePart
  rw [ed.descriptor.activePart_edit he, hpart, ← ed'.descriptor.activePart_edit he]

private theorem shown_apply {e : Edit} (he : e.frequency? = none) :
    (ed.apply e).shown = (ed'.apply e).shown := by
  have hnext := h.apply he
  have hfrequency := Descriptor.frequency_eq_of_activePart hnext
  have hexpression := hnext.expression_eq
  have hpreview := hnext.preview_eq
  have hview := hnext.view_eq
  simp only [Editor.apply] at hfrequency hexpression hpreview hview
  simp only [Step.shown, Editor.apply, hfrequency, hexpression, hpreview, hview]

private theorem shown_steps {es : List Edit} (hes : ∀ e ∈ es, e.frequency? = none) :
    (ed.steps es).map Step.shown = (ed'.steps es).map Step.shown := by
  induction es generalizing ed ed' with
  | nil => rfl
  | cons e es ih =>
    have he := hes e List.mem_cons_self
    have hrest := ih (h.apply he) fun e' he' => hes e' (List.mem_cons_of_mem _ he')
    simp only [steps, List.map_cons, h.shown_apply he, hrest]

end Agrees

private theorem load_expression_agrees {ed : Editor} (h : ed.descriptor.frequency ≠ .custom)
    (hdays : ed.descriptor.frequency = .weekly → ed.descriptor.selectedDays.days ≠ []) :
    (load ed.expression).Agrees ed := by
  change (Descriptor.ofCron ed.descriptor.toCron).activePart = ed.descriptor.activePart
  rw [Descriptor.activePart_ofCron_toCron h, Descriptor.activePart_orMonday hdays]

/-- Saving a structured schedule and opening it again cannot be noticed as long as the frequency
stays. -/
theorem shown_steps_load_expression (ed : Editor) (h : ed.descriptor.frequency ≠ .custom)
    (hdays : ed.descriptor.frequency = .weekly → ed.descriptor.selectedDays.days ≠ []) :
    let again := load ed.expression
    again.expression = ed.expression ∧ again.preview = ed.preview ∧
      again.descriptor.view = ed.descriptor.view ∧
      ∀ es : List Edit, (∀ e ∈ es, e.frequency? = none) →
        (again.steps es).map Step.shown = (ed.steps es).map Step.shown := by
  intro again
  have hagrees : again.Agrees ed := load_expression_agrees h hdays
  refine ⟨hagrees.expression_eq, hagrees.preview_eq, hagrees.view_eq, ?_⟩
  intro es hes
  exact hagrees.shown_steps hes

theorem shown_steps_load_expression_stale :
    let ed := (load "*/10 * * * *").run
      [.custom "@daily", .frequency .weekly, .number .dayOfMonth "31", .number .hour "7"]
    let es : List Edit :=
      [.number .minute "75", .toggleDay .mon, .custom "", .number .dayOfMonth "2", .toggleDay .sun]
    ed.descriptor.frequency ≠ .custom ∧ ed.descriptor.selectedDays.days ≠ [] ∧
      load ed.expression ≠ ed ∧ (∀ e ∈ es, e.frequency? = none) ∧
      ((load ed.expression).steps es).map Step.shown = (ed.steps es).map Step.shown := by
  intro ed es
  have h : ed.descriptor.frequency ≠ .custom := by decide
  have hdays : ed.descriptor.selectedDays.days ≠ [] := by decide
  have hes : ∀ e ∈ es, e.frequency? = none := by decide
  obtain ⟨-, -, -, hsteps⟩ := shown_steps_load_expression ed h fun _ => hdays
  exact ⟨h, hdays, by decide, hes, hsteps es hes⟩

end Editor
end Recurrence
