import Recurrence.Proofs.ActivePart
import Recurrence.Proofs.Shape
import Recurrence.Proofs.Written

/-!
# Writing and reading back

Reading the expression of a structured descriptor gives back its active part, and nothing else of
the descriptor. A weekly schedule without a day comes back with Monday.

Expression and sentence depend on the view alone: nothing that the view leaves out shows in them.
The expression of a structured schedule gives its view back, except that it has Monday for a week
without a day.
-/
namespace Recurrence

open Text

namespace Descriptor

private theorem shape_of_fields? {d : Descriptor} {f : Cron.Fields} (h : d.fields? = some f) :
    Cron.Shape f d.orMonday.activePart := by
  unfold fields? at h
  unfold activePart orMonday
  cases hd : d.frequency <;> simp only [hd, Option.some.injEq, reduceCtorEq] at h <;> subst h
  case minute =>
    have hs := Cron.Shape.minute (isNumeral_ofWord d.minuteInterval)
    rwa [word?_ofWord] at hs
  case hourly =>
    have hs := Cron.Shape.hourly (word?_ofWord d.startingMinute) (isNumeral_ofWord d.hourInterval)
    rwa [word?_ofWord] at hs
  case daily => exact .daily (word?_ofWord _) (word?_ofWord _)
  case weekly =>
    have hs := Cron.Shape.weekly (word?_ofWord d.minute) (word?_ofWord d.hour)
      d.selectedDays.numerals_ne_nil fun _ => DaySelection.isNumeral_of_mem_numerals
    rwa [Cron.selection_numerals] at hs
  case monthly => exact .monthly (word?_ofWord _) (word?_ofWord _) (word?_ofWord _)

private theorem ofCron_toCron_eq {d : Descriptor} (h : d.frequency ≠ .custom) :
    ofCron d.toCron = { d.orMonday.activePart with customCron := d.toCron } := by
  obtain ⟨f, hf⟩ := exists_fields? h
  exact ofCron_of_shape (ofText?_toCron hf) (shape_of_fields? hf)

theorem activePart_ofCron_toCron {d : Descriptor} (h : d.frequency ≠ .custom) :
    (ofCron d.toCron).activePart = d.orMonday.activePart := by
  rw [ofCron_toCron_eq h]
  have hpart : d.orMonday.activePart.frequency ≠ .custom := by
    rw [frequency_activePart]
    exact h
  rw [activePart_setCustom hpart, activePart_activePart]

/-- Reading a written expression and writing it again changes nothing, also without a day. -/
theorem toCron_ofCron_toCron {d : Descriptor} (h : d.frequency ≠ .custom) :
    (ofCron d.toCron).toCron = d.toCron := by
  rw [toCron_eq_of_activePart (activePart_ofCron_toCron h)]
  exact toCron_orMonday d

private theorem activePart_orMonday_withText (d : Descriptor) (text : String) :
    { d.orMonday.activePart with customCron := text } =
      if d.frequency = .weekly ∧ d.selectedDays.days = [] then
        { d.activePart with selectedDays := .ofDays [.mon], customCron := text }
      else { d.activePart with customCron := text } := by
  by_cases hempty : d.frequency = .weekly ∧ d.selectedDays.days = []
  · rw [if_pos hempty]
    obtain ⟨hd, hdays⟩ := hempty
    simp only [activePart, orMonday, hd, DaySelection.orMonday_of_eq_nil hdays]
  · have hpart := activePart_orMonday fun hd hdays => hempty ⟨hd, hdays⟩
    rw [if_neg hempty, hpart]

private theorem view_orMonday_iff (d : Descriptor) :
    d.orMonday.view = d.view ↔ ¬(d.frequency = .weekly ∧ d.selectedDays.days = []) := by
  rw [view_orMonday]
  by_cases h : d.frequency = .weekly ∧ d.selectedDays.days = []
  · simp [h, view]
  · simp [h]

/-- The round trip returns the default schedule with what the shape reads and the expression as its
text, keeps the view unless a weekly schedule has no day, and always keeps the sentence. -/
theorem ofCron_toCron (d : Descriptor) (h : d.frequency ≠ .custom) :
    (ofCron d.toCron =
      if d.frequency = .weekly ∧ d.selectedDays.days = [] then
        { d.activePart with selectedDays := .ofDays [.mon], customCron := d.toCron }
      else { d.activePart with customCron := d.toCron }) ∧
      ((ofCron d.toCron).view = d.view ↔
        ¬(d.frequency = .weekly ∧ d.selectedDays.days = [])) ∧
      (ofCron d.toCron).sentence = d.sentence := by
  have hpart := activePart_ofCron_toCron h
  refine ⟨?_, ?_, ?_⟩
  · rw [ofCron_toCron_eq h]
    exact activePart_orMonday_withText d d.toCron
  · rw [view_eq_of_activePart hpart]
    exact view_orMonday_iff d
  · rw [sentence_eq_of_activePart hpart]
    exact sentence_orMonday d

theorem ofCron_toCron_noDay :
    let d : Descriptor :=
      { frequency := .weekly, hour := 4294967295, minute := 75, selectedDays := .ofDays [],
        dayOfMonth := 31, customCron := "@daily" }
    d.frequency ≠ .custom ∧
      ofCron d.toCron =
        { frequency := .weekly, hour := 4294967295, minute := 75, selectedDays := .ofDays [.mon],
          customCron := "75 4294967295 * * 1" } ∧
      (ofCron d.toCron).view ≠ d.view ∧ (ofCron d.toCron).sentence = d.sentence := by
  intro d
  have hd : d.frequency ≠ .custom := by decide
  obtain ⟨heq, hview, hsentence⟩ := ofCron_toCron d hd
  refine ⟨hd, ?_, ?_, hsentence⟩
  · rw [heq]
    decide
  · rw [ne_eq, hview]
    decide

end Descriptor

/-- The view with Monday for a week without a day. -/
def View.orMonday : View → View
  | .weekly time [] => .weekly time [.mon]
  | v => v

private theorem View.frequency_orMonday (v : View) : v.orMonday.frequency = v.frequency := by
  unfold orMonday
  split <;> rfl

namespace Descriptor

private theorem orMonday_view (d : Descriptor) : d.view.orMonday = d.orMonday.view := by
  rw [view_orMonday]
  split
  next h => simp only [view, h.1, h.2, View.orMonday]
  next h =>
    unfold View.orMonday
    split
    next time hview =>
      have hweekly : d.frequency = .weekly := by
        rw [← d.frequency_view, hview]
        rfl
      simp only [view, hweekly, View.weekly.injEq] at hview
      exact absurd ⟨hweekly, hview.2⟩ h
    next => rfl

private theorem toCron_eq_iff_view_orMonday {d e : Descriptor} (hd : d.frequency ≠ .custom)
    (he : e.frequency ≠ .custom) : d.toCron = e.toCron ↔ d.view.orMonday = e.view.orMonday := by
  rw [orMonday_view, orMonday_view]
  constructor
  · intro h
    have hpart : d.orMonday.activePart = e.orMonday.activePart := by
      rw [← activePart_ofCron_toCron hd, h, activePart_ofCron_toCron he]
    exact view_eq_of_activePart hpart
  · intro h
    rw [← d.toCron_orMonday, ← e.toCron_orMonday]
    exact toCron_eq_of_activePart (activePart_eq_of_view_eq h)

/-- Two schedules with the same view are written and told alike, whatever their other fields hold.
Written alike, structured ones have the same view up to an empty week, so that no shape is mistaken
for another, and custom ones have the same text. -/
theorem view_observable (d e : Descriptor) :
    (d.view = e.view → d.toCron = e.toCron ∧ d.sentence = e.sentence) ∧
      (d.frequency ≠ .custom → e.frequency ≠ .custom →
        (d.toCron = e.toCron ↔ d.view.orMonday = e.view.orMonday) ∧
          (d.toCron = e.toCron → d.frequency = e.frequency)) ∧
      (d.frequency = .custom → e.frequency = .custom →
        (d.toCron = e.toCron ↔ d.customCron = e.customCron)) := by
  refine ⟨?_, ?_, ?_⟩
  · intro h
    have hpart := activePart_eq_of_view_eq h
    exact ⟨toCron_eq_of_activePart hpart, sentence_eq_of_activePart hpart⟩
  · intro hd he
    have hview := toCron_eq_iff_view_orMonday hd he
    refine ⟨hview, fun h => ?_⟩
    rw [← d.frequency_view, ← d.view.frequency_orMonday, hview.mp h, View.frequency_orMonday,
      frequency_view]
  · intro hd he
    simp only [toCron, hd, he]

theorem view_observable_noDay :
    let d : Descriptor := { frequency := .weekly, hour := 9, selectedDays := .ofDays [] }
    let e : Descriptor := { frequency := .weekly, hour := 9, dayOfMonth := 31, customCron := "@daily" }
    let f : Descriptor := { frequency := .daily, hour := 9 }
    d.view ≠ e.view ∧ d.view.orMonday = e.view.orMonday ∧ d.toCron = e.toCron ∧
      d.toCron ≠ f.toCron := by
  intro d e f
  have hd : d.frequency ≠ .custom := by decide
  have he : e.frequency ≠ .custom := by decide
  have hf : f.frequency ≠ .custom := by decide
  have hview : d.view.orMonday = e.view.orMonday := by decide
  obtain ⟨hiff, -⟩ := (view_observable d e).2.1 hd he
  obtain ⟨-, hfrequency⟩ := (view_observable d f).2.1 hd hf
  exact ⟨by decide, hview, hiff.mpr hview, fun h => absurd (hfrequency h) (by decide)⟩

end Descriptor
end Recurrence
