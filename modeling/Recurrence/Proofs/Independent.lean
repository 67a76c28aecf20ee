import Mathlib.Data.List.Pairwise
import Recurrence.Proofs.DayList
import Recurrence.Proofs.Session

/-!
# Edits in any order

Edits that write different parts of a descriptor can be made in any order. The one edit that looks
beyond its own part is the switch to custom, which puts the expression in force into a blank custom
text; it has to find a text there, or to be left out.
-/
namespace Recurrence

namespace Edit

/-- What an edit writes. -/
inductive Part where
  | frequency
  | number (field : NumericField)
  | days
  | customCron
deriving DecidableEq, Repr

def part : Edit → Part
  | frequency _ => .frequency
  | number field _ => .number field
  | toggleDay _ => .days
  | setDays _ => .days
  | custom _ => .customCron

def isToggle : Edit → Bool
  | toggleDay _ => true
  | _ => false

/-- The edits write different parts, or each toggles a day, be it the same one or not. -/
def Independent (e e' : Edit) : Prop := e.part ≠ e'.part ∨ e.isToggle ∧ e'.isToggle

instance (e e' : Edit) : Decidable (e.Independent e') := inferInstanceAs (Decidable (_ ∨ _))

instance : Std.Symm Independent := ⟨fun _ _ h => h.imp Ne.symm And.symm⟩

end Edit

private theorem DaySelection.toggle_comm (s : DaySelection) (d e : Weekday) :
    (s.toggle d).toggle e = (s.toggle e).toggle d := by
  apply ext_contains
  intro day
  simp only [contains_toggle]
  split <;> split <;> rfl

private theorem NumericField.set_comm (d : Descriptor) (m n : UInt32) {f g : NumericField}
    (h : f ≠ g) :
    g.set (f.set d m) n = f.set (g.set d n) m := by
  cases f <;> cases g <;> first | rfl | contradiction

namespace Descriptor

open Edit

/-- What an edit does to its own part: a switch to custom takes no text over. -/
def write (d : Descriptor) : Edit → Descriptor
  | .frequency f => { d with frequency := f }
  | e => d.edit e

private theorem write_comm {e e' : Edit} (h : e.Independent e') (d : Descriptor) :
    (d.write e).write e' = (d.write e').write e := by
  rcases h with hpart | ⟨he, he'⟩
  · cases e with
    | number f text =>
      cases e' with
      | number g text' => exact NumericField.set_comm d _ _ fun h => hpart (congrArg Part.number h)
      | _ => cases f <;> rfl
    | _ =>
      cases e' with
      | number g text' => cases g <;> rfl
      | _ => first | rfl | contradiction
  · cases e with
    | toggleDay day =>
      cases e' with
      | toggleDay day' => simp only [write, edit, DaySelection.toggle_comm]
      | _ => contradiction
    | _ => contradiction

/-- No switch to custom among the edits, or no blank custom text for it to find. -/
def NeverSeeds (d : Descriptor) (es : List Edit) : Prop :=
  .frequency .custom ∉ es ∨
    Text.allBlank d.customCron.toList = false ∧
      ∀ text, .custom text ∈ es → Text.allBlank text.toList = false

namespace NeverSeeds

variable {d : Descriptor} {e : Edit} {es es' : List Edit}

private theorem perm (h : d.NeverSeeds es) (hperm : es.Perm es') : d.NeverSeeds es' := by
  simpa only [NeverSeeds, hperm.mem_iff] using h

private theorem edit_eq_write (h : d.NeverSeeds (e :: es)) : d.edit e = d.write e := by
  cases e with
  | frequency f =>
    have hseed : ¬(f = .custom ∧ Text.allBlank d.customCron.toList = true) := by
      rintro ⟨rfl, hblank⟩
      rcases h with h | ⟨htext, -⟩
      · exact h List.mem_cons_self
      · exact absurd (hblank.symm.trans htext) (by decide)
    rw [edit_frequency, if_neg hseed]
    rfl
  | _ => rfl

private theorem tail (h : d.NeverSeeds (e :: es)) : (d.write e).NeverSeeds es := by
  rcases h with h | ⟨htext, htexts⟩
  · exact .inl fun hes => h (List.mem_cons_of_mem e hes)
  · refine .inr ⟨?_, fun text hes => htexts text (List.mem_cons_of_mem e hes)⟩
    cases e with
    | custom text => exact htexts text List.mem_cons_self
    | number f text => cases f <;> exact htext
    | _ => exact htext

private theorem editAll_eq_foldl_write (h : d.NeverSeeds es) : d.editAll es = es.foldl write d := by
  induction es generalizing d with
  | nil => rfl
  | cons e es ih =>
    change (d.edit e).editAll es = es.foldl write (d.write e)
    rw [h.edit_eq_write, ih h.tail]

end NeverSeeds

private theorem editAll_perm {d : Descriptor} {es es' : List Edit} (hes : es.Pairwise Independent)
    (hseeds : d.NeverSeeds es) (hperm : es.Perm es') : d.editAll es = d.editAll es' := by
  rw [hseeds.editAll_eq_foldl_write, (hseeds.perm hperm).editAll_eq_foldl_write]
  refine hperm.foldl_eq' (fun e he e' he' d => ?_) d
  by_cases h : e = e'
  · rw [h]
  · exact write_comm (hes.forall he he' h) d

end Descriptor

namespace Editor

open Edit

/-- Independent edits lead to the same state in every order, unless a switch to custom among them
may find a blank text. -/
theorem run_perm (ed : Editor) {es es' : List Edit} (hes : es.Pairwise Independent)
    (hseeds : ed.descriptor.NeverSeeds es) (hperm : es.Perm es') :
    (ed.run es).descriptor = (ed.run es').descriptor ∧
      (ed.run es).expression = (ed.run es').expression ∧
      (ed.run es).preview = (ed.run es').preview := by
  have h : (ed.run es).descriptor = (ed.run es').descriptor := by
    rw [descriptor_run, descriptor_run]
    exact Descriptor.editAll_perm hes hseeds hperm
  exact ⟨h, congrArg Descriptor.toCron h, congrArg Descriptor.sentence h⟩

theorem run_perm_toggles :
    let ed := load "@daily"
    let es : List Edit :=
      [.toggleDay .sun, .frequency .custom, .number .hour "7", .toggleDay .mon,
        .custom "0 0 1,15 * *", .toggleDay .sun, .number .minute "75"]
    es.Pairwise Independent ∧ es.reverse ≠ es ∧
      (ed.run es).descriptor = (ed.run es.reverse).descriptor ∧
      (ed.run es.reverse).expression = "0 0 1,15 * *" := by
  intro ed es
  have hes : es.Pairwise Independent := by decide
  have htexts : ∀ text, .custom text ∈ es → Text.allBlank text.toList = false := by
    intro text h
    obtain rfl : text = "0 0 1,15 * *" := by simpa [es] using h
    decide
  obtain ⟨hsame, hexpression, -⟩ :=
    run_perm ed hes (.inr ⟨by decide, htexts⟩) (List.reverse_perm es).symm
  exact ⟨hes, by decide, hsame, hexpression.symm.trans (by decide)⟩

example : let ed := load ""
    (ed.run [.frequency .custom, .number .hour "7"]).expression = "0 0 * * *" ∧
      (ed.run [.number .hour "7", .frequency .custom]).expression = "0 7 * * *" := by
  decide

end Editor
end Recurrence
