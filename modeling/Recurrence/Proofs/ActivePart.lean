import Recurrence.Proofs.DayList
import Recurrence.Descriptor

/-!
# The active part of a descriptor

The shape in force and what it reads, with the default in every other field. View, expression and
sentence are functions of the active part, so stale fields never show.
-/
namespace Recurrence.Descriptor

/-- The default schedule with the frequency of `d` and the fields that this shape reads. -/
def activePart (d : Descriptor) : Descriptor :=
  match d.frequency with
  | .minute => { default with frequency := .minute, minuteInterval := d.minuteInterval }
  | .hourly =>
    { default with
      frequency := .hourly, hourInterval := d.hourInterval, startingMinute := d.startingMinute }
  | .daily => { default with frequency := .daily, hour := d.hour, minute := d.minute }
  | .weekly =>
    { default with
      frequency := .weekly, hour := d.hour, minute := d.minute, selectedDays := d.selectedDays }
  | .monthly =>
    { default with
      frequency := .monthly, hour := d.hour, minute := d.minute, dayOfMonth := d.dayOfMonth }
  | .custom => { default with frequency := .custom, customCron := d.customCron }

@[simp] theorem frequency_activePart (d : Descriptor) : d.activePart.frequency = d.frequency := by
  unfold activePart
  split <;> simp_all

@[simp] private theorem view_activePart (d : Descriptor) : d.activePart.view = d.view := by
  unfold activePart view
  cases d.frequency <;> rfl

@[simp] private theorem toCron_activePart (d : Descriptor) : d.activePart.toCron = d.toCron := by
  unfold activePart toCron
  cases d.frequency <;> rfl

@[simp] private theorem sentence_activePart (d : Descriptor) :
    d.activePart.sentence = d.sentence := by
  unfold activePart sentence
  cases d.frequency <;> rfl

theorem activePart_setCustom {d : Descriptor} (h : d.frequency ≠ .custom) (text : String) :
    { d with customCron := text }.activePart = d.activePart := by
  unfold activePart
  cases hd : d.frequency <;> first | rfl | contradiction

section
variable {d e : Descriptor} (h : d.activePart = e.activePart)
include h

theorem frequency_eq_of_activePart : d.frequency = e.frequency := by
  rw [← frequency_activePart d, h, frequency_activePart]

theorem view_eq_of_activePart : d.view = e.view := by
  rw [← view_activePart d, h, view_activePart]

theorem toCron_eq_of_activePart : d.toCron = e.toCron := by
  rw [← toCron_activePart d, h, toCron_activePart]

theorem sentence_eq_of_activePart : d.sentence = e.sentence := by
  rw [← sentence_activePart d, h, sentence_activePart]

end

theorem activePart_eq_of_view_eq {d e : Descriptor} (h : d.view = e.view) :
    d.activePart = e.activePart := by
  have hf : d.frequency = e.frequency := by
    rw [← d.frequency_view, h, e.frequency_view]
  unfold view at h
  unfold activePart
  rw [hf] at h ⊢
  cases he : e.frequency <;>
    simp only [he, View.everyMinutes.injEq, View.everyHours.injEq, View.daily.injEq,
      View.weekly.injEq, View.monthly.injEq, View.custom.injEq, time, TimeOfDay.mk.injEq] at h
  case minute => rw [h]
  case hourly => rw [h.1, h.2]
  case daily => rw [h.1, h.2]
  case weekly => rw [h.1.1, h.1.2, DaySelection.eq_of_days_eq h.2]
  case monthly => rw [h.1.1, h.1.2, h.2]
  case custom => rw [h]

theorem activePart_activePart (d : Descriptor) : d.activePart.activePart = d.activePart :=
  activePart_eq_of_view_eq d.view_activePart

/-- The descriptor with Monday selected where no day is. -/
def orMonday (d : Descriptor) : Descriptor := { d with selectedDays := d.selectedDays.orMonday }

theorem activePart_orMonday {d : Descriptor}
    (h : d.frequency = .weekly → d.selectedDays.days ≠ []) :
    d.orMonday.activePart = d.activePart := by
  unfold activePart orMonday
  cases hd : d.frequency with
  | weekly => simp only [DaySelection.orMonday_of_ne_nil (h hd)]
  | _ => rfl

theorem view_orMonday (d : Descriptor) :
    d.orMonday.view =
      if d.frequency = .weekly ∧ d.selectedDays.days = [] then .weekly d.time [.mon]
      else d.view := by
  by_cases h : d.frequency = .weekly ∧ d.selectedDays.days = []
  · rw [if_pos h]
    simp only [view, orMonday, h.1, DaySelection.days_orMonday, DaySelection.daysOrMonday, h.2,
      if_true, time]
  · rw [if_neg h]
    exact view_eq_of_activePart (activePart_orMonday fun hd hdays => h ⟨hd, hdays⟩)

theorem toCron_orMonday (d : Descriptor) : d.orMonday.toCron = d.toCron := by
  have hs : d.selectedDays.orMonday.toCron = d.selectedDays.toCron := by
    simp only [DaySelection.toCron, DaySelection.cronNumbers,
      DaySelection.daysOrMonday_orMonday]
  unfold toCron orMonday
  simp only [hs]

theorem sentence_orMonday (d : Descriptor) : d.orMonday.sentence = d.sentence := by
  have hall : d.selectedDays.daysOrMonday = Weekday.all ↔ d.selectedDays.days = Weekday.all := by
    unfold DaySelection.daysOrMonday
    split
    next h => rw [h]; decide
    next => rfl
  unfold sentence orMonday
  simp only [DaySelection.daysOrMonday_orMonday, DaySelection.days_orMonday, hall, time]

end Recurrence.Descriptor
