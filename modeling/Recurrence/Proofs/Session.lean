import Mathlib.Data.List.DropRight
import Mathlib.Logic.Function.Iterate
import Recurrence.Editor

/-!
# What an editing session leaves behind

Every field of the descriptor after a list of edits, in terms of the list and of the descriptor at
the start. Numbers and the frequency keep their latest edit, days count toggles from their latest
setting, and the custom text keeps its latest edit unless a switch to custom found it blank.
-/
namespace Recurrence

namespace Edit

/-- The clamped value that the edit puts into a field. -/
def clamped? (field : NumericField) : Edit → Option UInt32
  | number f text => if f = field then some (f.range.clamp text).value else none
  | _ => none

def frequency? : Edit → Option Frequency
  | frequency f => some f
  | _ => none

def custom? : Edit → Option String
  | custom text => some text
  | _ => none

variable {α : Type} (kind : Edit → Option α)

variable (es : List Edit) {e : Edit} {a : α}

variable {kind}

end Edit

namespace Descriptor

open Edit

variable (d : Descriptor) (es : List Edit)

theorem editAll_concat (e : Edit) : d.editAll (es ++ [e]) = (d.editAll es).edit e :=
  List.foldl_concat ..

/-- The only edit that writes two fields. -/
theorem edit_frequency (f : Frequency) :
    d.edit (.frequency f) =
      { d with
        frequency := f
        customCron :=
          if f = .custom ∧ Text.allBlank d.customCron.toList = true then d.toCron
          else d.customCron } := by
  cases f with
  | custom =>
    simp only [edit, seedCustom, true_and]
    split <;> rfl
  | _ => rfl

theorem get_edit (field : NumericField) (d : Descriptor) (e : Edit) :
    field.get (d.edit e) = (e.clamped? field).getD (field.get d) := by
  cases e with
  | frequency f =>
    rw [edit_frequency]
    cases field <;> rfl
  | number f text =>
    rw [edit, NumericField.get_set, clamped?]
    by_cases h : field = f
    · simp [h]
    · simp [h, Ne.symm h]
  | toggleDay day => cases field <;> rfl
  | setDays days => cases field <;> rfl
  | custom text => cases field <;> rfl

theorem frequency_edit (d : Descriptor) (e : Edit) :
    (d.edit e).frequency = e.frequency?.getD d.frequency := by
  cases e with
  | frequency f =>
    rw [edit_frequency]
    rfl
  | number f text => cases f <;> rfl
  | toggleDay day => rfl
  | setDays days => rfl
  | custom text => rfl

/-- Whether the edit turns a structured schedule into a custom one. -/
def switches (e : Edit) : Prop := e = .frequency .custom ∧ d.frequency ≠ .custom

instance (e : Edit) : Decidable (d.switches e) := inferInstanceAs (Decidable (_ ∧ _))

theorem customCron_edit {e : Edit} (h : e.custom? = none) :
    (d.edit e).customCron =
      if d.switches e ∧ Text.allBlank d.customCron.toList = true then d.toCron
      else d.customCron := by
  cases e with
  | frequency f =>
    rw [edit_frequency]
    by_cases hd : d.frequency = .custom
    · simp [switches, hd, toCron_of_custom hd]
    · simp [switches, hd]
  | number f text => cases f <;> simp [switches, edit, NumericField.set]
  | toggleDay day => simp [switches, edit]
  | setDays days => simp [switches, edit]
  | custom text => contradiction

/-- A structured expression has a star. -/
theorem allBlank_toCron {d : Descriptor} (h : d.frequency ≠ .custom) :
    Text.allBlank d.toCron.toList = false := by
  have hstar : '*' ∈ d.toCron.toList := by
    unfold toCron
    cases hd : d.frequency <;> first | contradiction | simp
  rw [Text.allBlank, List.all_eq_false]
  exact ⟨'*', hstar, by decide⟩

/-- The descriptor just before the first switch from a structured schedule to a custom one. -/
def firstSwitch? (d : Descriptor) : List Edit → Option Descriptor
  | [] => none
  | e :: es => if d.switches e then some d else (d.edit e).firstSwitch? es

variable {es} in
theorem customCron_editAll_switch (h : ∀ e ∈ es, e.custom? = none) :
    (d.editAll es).customCron =
      if Text.allBlank d.customCron.toList = true then
        (d.firstSwitch? es).elim d.customCron toCron
      else d.customCron := by
  induction es generalizing d with
  | nil => simp [editAll, firstSwitch?]
  | cons e es ih =>
    have he := d.customCron_edit (h e List.mem_cons_self)
    have hes := ih (d.edit e) fun e' he' => h e' (List.mem_cons_of_mem _ he')
    change ((d.edit e).editAll es).customCron = _
    rw [hes, firstSwitch?]
    by_cases hblank : Text.allBlank d.customCron.toList = true
    · by_cases hs : d.switches e
      · -- The seeded text is not blank, so no later switch writes it again.
        rw [if_pos ⟨hs, hblank⟩] at he
        rw [he, allBlank_toCron hs.2, if_neg Bool.false_ne_true, if_pos hblank, if_pos hs]
        rfl
      · rw [if_neg (fun hc => hs hc.1)] at he
        rw [he, if_pos hblank, if_pos hblank, if_neg hs]
    · rw [if_neg (fun hc => hblank hc.2)] at he
      rw [he, if_neg hblank, if_neg hblank]

end Descriptor

namespace Editor

open Edit

theorem descriptor_run (ed : Editor) (es : List Edit) :
    (ed.run es).descriptor = ed.descriptor.editAll es := by
  induction es generalizing ed with
  | nil => rfl
  | cons e es ih => exact ih (ed.apply e).editor

end Editor
end Recurrence
