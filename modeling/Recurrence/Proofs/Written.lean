import Recurrence.Proofs.DayList

/-!
# Written fields

The five fields of a structured descriptor. Its expression is these words with single spaces between
them, so the expression has five fields and they are these.
-/
namespace Recurrence

open Text

namespace Cron.Fields

/-- The fields in their order. -/
def words (f : Fields) : List (List Char) :=
  [f.minute, f.hour, f.dayOfMonth, f.month, f.dayOfWeek]

theorem ofText?_eq_some_iff {s : String} {f : Fields} :
    ofText? s = some f ↔ Text.words s.toList = f.words := by
  unfold ofText? words
  constructor
  · intro h
    split at h
    next hw =>
      obtain rfl := Option.some.inj h
      exact hw
    next => contradiction
  · intro h
    rw [h]

end Cron.Fields

namespace Descriptor

/-- The fields of a structured descriptor. -/
def fields? (d : Descriptor) : Option Cron.Fields :=
  match d.frequency with
  | .minute => some ⟨'*' :: '/' :: (ofWord d.minuteInterval).toList, ['*'], ['*'], ['*'], ['*']⟩
  | .hourly =>
    some ⟨(ofWord d.startingMinute).toList, '*' :: '/' :: (ofWord d.hourInterval).toList,
      ['*'], ['*'], ['*']⟩
  | .daily => some ⟨(ofWord d.minute).toList, (ofWord d.hour).toList, ['*'], ['*'], ['*']⟩
  | .weekly =>
    some ⟨(ofWord d.minute).toList, (ofWord d.hour).toList, ['*'], ['*'],
      [','].intercalate d.selectedDays.numerals⟩
  | .monthly =>
    some ⟨(ofWord d.minute).toList, (ofWord d.hour).toList, (ofWord d.dayOfMonth).toList,
      ['*'], ['*']⟩
  | .custom => none

theorem exists_fields? {d : Descriptor} (h : d.frequency ≠ .custom) :
    ∃ f, d.fields? = some f := by
  unfold fields?
  split <;> first | exact ⟨_, rfl⟩ | contradiction

theorem toList_toCron {d : Descriptor} {f : Cron.Fields} (h : d.fields? = some f) :
    d.toCron.toList = [' '].intercalate f.words := by
  unfold fields? at h
  unfold toCron
  cases hd : d.frequency <;> simp only [hd, Option.some.injEq, reduceCtorEq] at h <;> subst h <;>
    simp [Cron.Fields.words, DaySelection.toList_toCron, List.intercalate_cons_cons]

private theorem isWord_ofWord (n : UInt32) : IsWord (ofWord n).toList :=
  isWord_of_isNumeral (isNumeral_ofWord n)

private theorem isWord_star : IsWord ['*'] :=
  ⟨List.cons_ne_nil _ _, List.forall_mem_singleton.mpr (by decide)⟩

private theorem isWord_step (n : UInt32) : IsWord ('*' :: '/' :: (ofWord n).toList) := by
  refine ⟨by simp, ?_⟩
  simp only [List.forall_mem_cons]
  exact ⟨by decide, by decide, (isWord_ofWord n).2⟩

private theorem isWord_numerals (s : DaySelection) : IsWord ([','].intercalate s.numerals) :=
  isWord_intercalate_comma s.numerals_ne_nil fun _ => DaySelection.isNumeral_of_mem_numerals

theorem isWord_of_fields? {d : Descriptor} {f : Cron.Fields} (h : d.fields? = some f) :
    ∀ w ∈ f.words, IsWord w := by
  unfold fields? at h
  cases hd : d.frequency <;> simp only [hd, Option.some.injEq, reduceCtorEq] at h <;> subst h <;>
    simp only [Cron.Fields.words, List.forall_mem_cons, isWord_star, isWord_step, isWord_ofWord,
      isWord_numerals, List.not_mem_nil, false_implies, implies_true, and_self]

theorem ofText?_toCron {d : Descriptor} {f : Cron.Fields} (h : d.fields? = some f) :
    Cron.Fields.ofText? d.toCron = some f := by
  rw [Cron.Fields.ofText?_eq_some_iff, toList_toCron h]
  exact words_intercalate (isWord_of_fields? h)

end Descriptor
end Recurrence
