import Mathlib.Data.List.Forall2
import Mathlib.Data.List.TakeDrop
import Recurrence.Edit
import Recurrence.Proofs.Attempt
import Recurrence.Proofs.DayList

/-!
# Edits survive their text

Days and frequencies are recognised by their names, with blanks around them and in capital or small
ASCII letters; no text names two of them. Fields are recognised by their names as they are.

What an edit is written as is read as that edit. The name in front of the first equals sign holds
none itself, so any text may stand behind it.
-/
namespace Recurrence

namespace Text

/-- The same character, or one ASCII letter in its two cases. -/
def SameLetter (a b : Char) : Prop :=
  a = b ∨ (a.isUpper = true ∧ b.toNat = a.toNat + 32) ∨ (b.isUpper = true ∧ a.toNat = b.toNat + 32)

/-- Between blanks stands the name, in capital or small letters. -/
def Names (cs : List Char) (name : String) : Prop :=
  List.Forall₂ SameLetter name.toList (trim cs)

private theorem isUpper_iff_toNat {c : Char} : c.isUpper = true ↔ 65 ≤ c.toNat ∧ c.toNat ≤ 90 := by
  change decide ('A'.val ≤ c.val ∧ c.val ≤ 'Z'.val) = true ↔ _
  rw [decide_eq_true_iff, UInt32.le_iff_toNat_le, UInt32.le_iff_toNat_le]
  rfl

private theorem toNat_toLower (c : Char) :
    c.toLower.toNat = if c.isUpper = true then c.toNat + 32 else c.toNat := by
  unfold Char.toLower
  split
  next h =>
    have hupper : c.isUpper = true := decide_eq_true h
    have hbound := (isUpper_iff_toNat.mp hupper).2
    rw [if_pos hupper]
    change (c.val + 32).toNat = c.val.toNat + 32
    have hval : c.val.toNat ≤ 90 := hbound
    rw [UInt32.toNat_add]
    exact Nat.mod_eq_of_lt (by change c.val.toNat + 32 < 2 ^ 32; omega)
  next h =>
    have hupper : ¬ c.isUpper = true := fun hc => h (of_decide_eq_true hc)
    rw [if_neg hupper]

private theorem sameLetter_iff {a b : Char} : SameLetter a b ↔ a.toLower = b.toLower := by
  rw [SameLetter, ← Char.toNat_inj, ← Char.toNat_inj, toNat_toLower, toNat_toLower]
  simp only [isUpper_iff_toNat]
  split <;> split <;> omega

private theorem names_iff {cs : List Char} {name : String} :
    Names cs name ↔ name.toList.map Char.toLower = (trim cs).map Char.toLower := by
  have hletter : SameLetter = fun a b => a.toLower = b.toLower := by
    funext a b
    exact propext sameLetter_iff
  rw [Names, hletter, ← List.forall₂_eq_eq_eq, List.forall₂_map_left_iff,
    List.forall₂_map_right_iff]

instance (cs : List Char) (name : String) : Decidable (Names cs name) :=
  decidable_of_iff _ names_iff.symm

end Text

open Text

section
variable {α κ : Type} [BEq κ] [LawfulBEq κ] {key : α → κ}

private theorem find?_key_eq_some_iff {all : List α} (hall : ∀ a, a ∈ all)
    (hkey : ∀ a b, key a = key b → a = b) {k : κ} {a : α} :
    all.find? (fun b => key b == k) = some a ↔ key a = k := by
  have hfound {b : α} (h : all.find? (fun b => key b == k) = some b) : key b = k := by
    simpa using List.find?_some h
  constructor
  · exact hfound
  · intro ha
    have hsome : (all.find? fun b => key b == k).isSome = true :=
      List.find?_isSome.mpr ⟨a, hall a, beq_iff_eq.mpr ha⟩
    obtain ⟨b, hb⟩ := Option.isSome_iff_exists.mp hsome
    rw [hb, hkey b a ((hfound hb).trans ha.symm)]

end

theorem NumericField.ofName?_eq_some_iff {name : String} {field : NumericField} :
    ofName? name = some field ↔ field.name = name :=
  find?_key_eq_some_iff (fun f => by cases f <;> decide) fun f g h =>
    Option.some.inj (by rw [← f.ofName?_name, h, g.ofName?_name])

private theorem Frequency.ofName?_eq_some_iff {name : String} {f : Frequency} :
    ofName? name = some f ↔ f.name = name :=
  find?_key_eq_some_iff mem_all fun f g h =>
    Option.some.inj (by rw [← f.ofName?_name, h, g.ofName?_name])

theorem Frequency.ofTyped?_eq_some_iff {s : String} {f : Frequency} :
    ofTyped? s = some f ↔ Names s.toList f.name := by
  have hsmall : f.name.toList.map Char.toLower = f.name.toList := by cases f <;> decide
  rw [ofTyped?, ofName?_eq_some_iff, names_iff, hsmall, ← String.toList_inj, String.toList_ofList]

theorem Weekday.ofTyped?_eq_some_iff {s : String} {d : Weekday} :
    ofTyped? s = some d ↔ Names s.toList d.shortName := by
  have hletters : ∀ d e : Weekday, d.shortName.toList.map Char.toLower =
      e.shortName.toList.map Char.toLower → d = e := by
    intro d e
    cases d <;> cases e <;> decide
  rw [names_iff]
  exact find?_key_eq_some_iff mem_all hletters

private theorem Frequency.ofText_name (f : Frequency) : ofText f.name = .ok f := by
  cases f <;> decide

private theorem Weekday.ofText_shortName (d : Weekday) : ofText d.shortName = .ok d := by
  cases d <;> decide

private theorem Weekday.shortName_plain (d : Weekday) :
    ',' ∉ d.shortName.toList ∧ allBlank d.shortName.toList = false := by
  cases d <;> decide

private theorem pieces_shortNames (ds : List Weekday) :
    ((",".intercalate (ds.map Weekday.shortName)).toList.splitOn ',').filter
        (fun p => !allBlank p) = ds.map fun d => d.shortName.toList := by
  have hnames : (ds.map Weekday.shortName).map String.toList = ds.map fun d => d.shortName.toList :=
    List.map_map
  rw [String.toList_intercalate, hnames]
  cases ds with
  | nil => rfl
  | cons d ds =>
    have hplain : ∀ p ∈ (d :: ds).map fun d => d.shortName.toList, ',' ∉ p :=
      List.forall_mem_map.mpr fun d _ => d.shortName_plain.1
    have hsplit := List.splitOn_intercalate ',' hplain (by simp)
    have hkeep : ∀ p ∈ (d :: ds).map fun d => d.shortName.toList, (!allBlank p) = true :=
      List.forall_mem_map.mpr fun d _ => by rw [d.shortName_plain.2, Bool.not_false]
    rw [show ",".toList = [','] from rfl, hsplit, List.filter_eq_self.mpr hkeep]

private theorem DaySelection.ofText_days (s : DaySelection) :
    ofText (",".intercalate (s.days.map Weekday.shortName)) = .ok s := by
  have hdays : (s.days.map fun d => d.shortName.toList).mapM
      (fun p => Weekday.ofText (String.ofList p)) = .ok s.days := by
    rw [mapM_eq_ok_iff, List.forall₂_map_left_iff, List.forall₂_same]
    intro d _
    rw [String.ofList_toList, d.ofText_shortName]
  simp only [ofText, pieces_shortNames, hdays]
  exact congrArg Except.ok s.ofDays_days

namespace Edit

private theorem fieldName_plain (e : Edit) :
    '=' ∉ e.fieldName.toList ∧ trim e.fieldName.toList = e.fieldName.toList := by
  cases e with
  | number field text =>
    simp only [fieldName]
    cases field <;> decide
  | _ => simp only [fieldName]; decide

private theorem ofField_value (e : Edit) : ofField e.fieldName e.value = .ok e := by
  cases e with
  | number field text =>
    unfold ofField
    rw [fieldName, field.ofName?_name]
    rfl
  | frequency f => exact congrArg (Except.map frequency) f.ofText_name
  | toggleDay day => exact congrArg (Except.map toggleDay) day.ofText_shortName
  | setDays days => exact congrArg (Except.map setDays) days.ofText_days
  | custom text => rfl

theorem ofText_eq_ofField {s : String} {name value : List Char}
    (hs : s.toList = name ++ '=' :: value) (hequals : '=' ∉ name) :
    ofText s = ofField (String.ofList (trim name)) (String.ofList value) := by
  have hname : ∀ c ∈ name, decide (c ≠ '=') = true := by
    intro c hc
    simpa using ne_of_mem_of_not_mem hc hequals
  have hspan : s.toList.span (· ≠ '=') = (name, '=' :: value) := by
    rw [hs, List.span_eq_takeWhile_dropWhile, List.takeWhile_append_of_pos hname,
      List.dropWhile_append_of_pos hname]
    simp
  unfold ofText
  rw [hspan]
  rfl

theorem toList_toText (e : Edit) :
    e.toText.toList = e.fieldName.toList ++ '=' :: e.value.toList := by
  simp [toText]

theorem ofText_toText (e : Edit) : ofText e.toText = .ok e := by
  obtain ⟨hequals, htrim⟩ := e.fieldName_plain
  rw [ofText_eq_ofField e.toList_toText hequals, htrim, String.ofList_toList, String.ofList_toList,
    ofField_value]

/-- Each edit is read from its own text. The text of an edit is therefore a normal form of all texts
that make it: it makes the same edit and is its own normal form, and only the texts of edits are
their own normal forms. -/
theorem toText_ofText_stable :
    (∀ e : Edit, ofText e.toText = .ok e) ∧
      (∀ s t, toText <$> ofText s = .ok t →
        ofText t = ofText s ∧ toText <$> ofText t = .ok t) ∧
      ∀ s, (∃ e : Edit, e.toText = s) ↔ toText <$> ofText s = .ok s := by
  refine ⟨ofText_toText, ?_, ?_⟩
  · intro s t h
    obtain ⟨e, he, rfl⟩ := map_eq_ok_iff.mp h
    rw [e.ofText_toText, he]
    exact ⟨rfl, rfl⟩
  · intro s
    constructor
    · rintro ⟨e, rfl⟩
      rw [e.ofText_toText]
      rfl
    · intro h
      obtain ⟨e, -, he⟩ := map_eq_ok_iff.mp h
      exact ⟨e, he⟩

theorem toText_ofText_stable_days :
    let s := " days = sun,,MON , sun"
    toText <$> ofText s = .ok "days=Mon,Sun" ∧ ofText "days=Mon,Sun" = ofText s ∧
      toText <$> ofText "days=Mon,Sun" = .ok "days=Mon,Sun" := by
  intro s
  obtain ⟨-, hstable, -⟩ := toText_ofText_stable
  have hs : toText <$> ofText s = .ok "days=Mon,Sun" := by decide
  exact ⟨hs, hstable s _ hs⟩

/-- What is behind the first equals sign is kept as it is. -/
example : toText <$> ofText "\thour = a=b,\n " = .ok "hour= a=b,\n " := by decide

end Edit
end Recurrence
