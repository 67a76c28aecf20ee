import Recurrence.Proofs.Moments
import Recurrence.Proofs.SentenceWords

/-!
# Unambiguous sentences

Two schedules with the same sentence are the same schedule, as long as their hours are those of the
clock. Only a week with all its days and a daily schedule are written differently and told alike,
and these two are due at the same moments.
-/
namespace Recurrence

open Text Cron

namespace Descriptor

variable {d e : Descriptor}

private theorem onClock_view (h : d.hour ≤ 23) : d.view.OnClock := by
  unfold view
  cases d.frequency <;> first | exact h | trivial

private theorem onClock_told (h : d.hour ≤ 23) : d.told.OnClock := by
  unfold told
  split
  · exact h
  · exact onClock_view (d := d.orMonday) h

private theorem told_eq_of_sentence_eq (hd : d.hour ≤ 23) (he : e.hour ≤ 23)
    (h : d.sentence = e.sentence) :
    d.told = e.told := by
  have hwords : d.told.words = e.told.words := by
    rw [← words_sentence, h, words_sentence]
  by_cases hcustom : d.frequency = .custom
  · -- A custom text may hold any blanks, so the words alone do not determine it.
    have hcustom' : e.frequency = .custom := by
      rw [← frequency_told_eq_custom_iff] at hcustom ⊢
      rw [← View.shapeOf_words e.told_ne_weekly_nil, ← hwords,
        View.shapeOf_words d.told_ne_weekly_nil, hcustom]
    rw [sentence_of_custom hcustom, sentence_of_custom hcustom', String.append_right_inj] at h
    rw [told_of_custom hcustom, told_of_custom hcustom', h]
  · refine View.words_injective (onClock_told hd) (onClock_told he) d.told_ne_weekly_nil
      e.told_ne_weekly_nil ?_ hwords
    rwa [ne_eq, frequency_told_eq_custom_iff]

/-- Weekly on all seven days. -/
def EveryDay (d : Descriptor) : Prop := d.frequency = .weekly ∧ d.selectedDays.days = Weekday.all

instance (d : Descriptor) : Decidable d.EveryDay := inferInstanceAs (Decidable (_ ∧ _))

/-- Daily and weekly on all seven days, at the same time. -/
def SameTimeDaily (d e : Descriptor) : Prop :=
  d.EveryDay ∧ e.frequency = .daily ∧ d.hour = e.hour ∧ d.minute = e.minute

instance (d e : Descriptor) : Decidable (d.SameTimeDaily e) := inferInstanceAs (Decidable (_ ∧ _))

private theorem told_everyDay (h : d.EveryDay) : d.told = .daily d.time := if_pos h

private theorem told_of_not_everyDay (h : ¬ d.EveryDay) : d.told = d.orMonday.view := if_neg h

private theorem sameTimeDaily_of_told (hd : d.EveryDay) (he : ¬ e.EveryDay) (h : d.told = e.told) :
    d.SameTimeDaily e := by
  rw [told_everyDay hd] at h
  have hfrequency : e.frequency = .daily := by
    have hf := e.frequency_told
    rw [← h] at hf
    exact (hf.trans (if_neg he)).symm
  have htime : d.time = e.time := by
    rw [told_of_not_everyDay he, view, show e.orMonday.frequency = .daily from hfrequency] at h
    exact View.daily.inj h
  exact ⟨hd, hfrequency, congrArg TimeOfDay.hour htime, congrArg TimeOfDay.minute htime⟩

/-- Schedules that are told alike are written alike, except for these two ways to say daily. -/
theorem toCron_eq_or_sameTimeDaily (h : d.told = e.told) :
    d.toCron = e.toCron ∨ d.SameTimeDaily e ∨ e.SameTimeDaily d := by
  by_cases hd : d.EveryDay
  · by_cases he : e.EveryDay
    · left
      have htime : d.time = e.time := by
        rw [told_everyDay hd, told_everyDay he] at h
        exact View.daily.inj h
      have hview : d.view = e.view := by
        simp only [view, hd.1, he.1, hd.2, he.2, htime]
      exact toCron_eq_of_activePart (activePart_eq_of_view_eq hview)
    · exact Or.inr (Or.inl (sameTimeDaily_of_told hd he h))
  · by_cases he : e.EveryDay
    · exact Or.inr (Or.inr (sameTimeDaily_of_told he hd h.symm))
    · left
      rw [told_of_not_everyDay hd, told_of_not_everyDay he] at h
      have hpart := activePart_eq_of_view_eq h
      rw [← d.toCron_orMonday, ← e.toCron_orMonday, toCron_eq_of_activePart hpart]

private theorem mem_moments_toCron {f : Fields} (h : d.fields? = some f) (m : Moment) :
    m ∈ moments d.toCron ↔ f.Admits m := by
  simp only [moments, Set.mem_ofPred_eq, ofText?_toCron h, Option.some.injEq, exists_eq_left']

private theorem EveryDay.fieldAdmits (h : d.EveryDay) (day : Fin 7) :
    FieldAdmits dayNumber ([','].intercalate d.selectedDays.numerals) day := by
  have hne : d.selectedDays.days ≠ [] := by simp [h.2, Weekday.all]
  obtain ⟨w, hw⟩ := Weekday.exists_cronNumber_eq day.isLt
  rw [fieldAdmits_list d.selectedDays.numerals_ne_nil
    fun _ => DaySelection.isNumeral_of_mem_numerals, exists_mem_numerals_iff,
    DaySelection.orMonday_of_ne_nil hne]
  refine ⟨w, ?_, hw⟩
  rw [← DaySelection.mem_days, h.2]
  exact w.mem_all

private theorem SameTimeDaily.moments_eq (h : d.SameTimeDaily e) :
    moments d.toCron = moments e.toCron := by
  obtain ⟨hd, he, hhour, hminute⟩ := h
  have hweekly : d.fields? = some ⟨(ofWord d.minute).toList, (ofWord d.hour).toList, ['*'], ['*'],
      [','].intercalate d.selectedDays.numerals⟩ := by simp only [fields?, hd.1]
  have hdaily : e.fields? = some ⟨(ofWord e.minute).toList, (ofWord e.hour).toList, ['*'], ['*'],
      ['*']⟩ := by simp only [fields?, he]
  ext m
  rw [mem_moments_toCron hweekly, mem_moments_toCron hdaily, hhour, hminute]
  simp only [Fields.Admits, hd.fieldAdmits m.dayOfWeek, FieldAdmits.star]

/-- Two schedules with hours of the clock and the same sentence have the same expression, or are the
two ways to say daily; in both cases they are due at the same moments. -/
theorem toCron_eq_of_sentence_eq (d e : Descriptor) (hd : d.hour ≤ 23) (he : e.hour ≤ 23)
    (h : d.sentence = e.sentence) :
    (d.toCron = e.toCron ∨ d.SameTimeDaily e ∨ e.SameTimeDaily d) ∧
      moments d.toCron = moments e.toCron := by
  have hcases := toCron_eq_or_sameTimeDaily (told_eq_of_sentence_eq hd he h)
  refine ⟨hcases, ?_⟩
  rcases hcases with hcron | hdaily | hdaily
  · rw [hcron]
  · exact hdaily.moments_eq
  · exact hdaily.moments_eq.symm

theorem toCron_eq_of_sentence_eq_noon :
    let d : Descriptor :=
      { frequency := .weekly, hour := 12, minute := 5, selectedDays := .ofDays Weekday.all }
    let e : Descriptor :=
      { frequency := .daily, hour := 12, minute := 5, dayOfMonth := 9, customCron := "@noon" }
    d.hour ≤ 23 ∧ e.hour ≤ 23 ∧ d.sentence = "Daily at 12:05 PM" ∧ d.sentence = e.sentence ∧
      d.toCron ≠ e.toCron ∧ d.SameTimeDaily e ∧ moments d.toCron = moments e.toCron := by
  intro d e
  have hd : d.hour ≤ 23 := by decide
  have he : e.hour ≤ 23 := by decide
  have h : d.sentence = e.sentence := by decide
  obtain ⟨-, hmoments⟩ := toCron_eq_of_sentence_eq d e hd he h
  exact ⟨hd, he, by decide, h, by decide, by decide, hmoments⟩

end Descriptor
end Recurrence
