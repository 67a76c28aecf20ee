import Mathlib.Data.List.TakeWhile
import Recurrence.Proofs.EditText

/-!
# The grammar of edits

Which texts are edits, what edit each of them is, and why each of the others is refused. A list of
days may name them in any order and more than once, with blank pieces between: only the set of days
that it names counts.
-/
namespace Recurrence

open Text

section
variable {cs : List Char} {err : EditError}

private theorem Frequency.ofText_eq_ok_iff {f : Frequency} :
    ofText (String.ofList cs) = .ok f ↔ Names cs f.name := by
  have htyped : ofTyped? (String.ofList cs) = some f ↔ Names cs f.name := by
    rw [ofTyped?_eq_some_iff, String.toList_ofList]
  rw [← htyped, ofText]
  cases ofTyped? (String.ofList cs) <;> simp

private theorem Frequency.ofText_eq_error_iff :
    ofText (String.ofList cs) = .error err ↔
      (∀ f : Frequency, ¬ Names cs f.name) ∧ err = .unknownFrequency (String.ofList cs) := by
  simp only [← ofText_eq_ok_iff, ofText]
  cases ofTyped? (String.ofList cs) <;> simp [eq_comm]

private theorem Weekday.ofText_eq_ok_iff {d : Weekday} :
    ofText (String.ofList cs) = .ok d ↔ Names cs d.shortName := by
  have htyped : ofTyped? (String.ofList cs) = some d ↔ Names cs d.shortName := by
    rw [ofTyped?_eq_some_iff, String.toList_ofList]
  rw [← htyped, ofText]
  cases ofTyped? (String.ofList cs) <;> simp

private theorem Weekday.ofText_eq_error_iff :
    ofText (String.ofList cs) = .error err ↔
      (∀ d : Weekday, ¬ Names cs d.shortName) ∧ err = .unknownWeekday (String.ofList cs) := by
  simp only [← ofText_eq_ok_iff, ofText]
  cases ofTyped? (String.ofList cs) <;> simp [eq_comm]

private theorem not_names_of_allBlank (hcs : allBlank cs = true) (d : Weekday) :
    ¬ Names cs d.shortName := by
  have htrim : trim cs = [] := by
    have hdrop : cs.dropWhile isBlank = [] :=
      List.dropWhile_eq_nil_iff.mpr (List.all_eq_true.mp hcs)
    rw [trim, hdrop]
    rfl
  rw [Names, htrim, List.forall₂_nil_right_iff]
  cases d <;> decide

end

namespace Text

/-- The text is these pieces with commas between them. -/
structure ListOf (cs : List Char) (pieces : List (List Char)) : Prop where
  intercalate_eq : [','].intercalate pieces = cs
  plain : ∀ p ∈ pieces, ',' ∉ p
  ne_nil : pieces ≠ []

/-- The piece says nothing or names a day. -/
def IsDayPiece (p : List Char) : Prop := allBlank p = true ∨ ∃ d : Weekday, Names p d.shortName

instance (p : List Char) : Decidable (IsDayPiece p) :=
  decidable_of_iff (allBlank p = true ∨ ∃ d ∈ Weekday.all, Names p d.shortName)
    (by simp [IsDayPiece, Weekday.mem_all])

private theorem notMem_of_mem_splitOn {c : Char} {cs p : List Char} (hp : p ∈ cs.splitOn c) :
    c ∉ p := by
  induction cs generalizing p with
  | nil =>
    rw [List.splitOn_nil, List.mem_singleton] at hp
    simp [hp]
  | cons b cs ih =>
    obtain ⟨q, qs, hcs⟩ := List.exists_cons_of_ne_nil (List.splitOn_ne_nil c cs)
    rw [List.splitOn_cons_eq_if_modifyHead, hcs, List.modifyHead_cons] at hp
    rw [hcs] at ih
    split at hp
    next =>
      rcases List.mem_cons.mp hp with rfl | hp
      · exact List.not_mem_nil
      · exact ih hp
    next hb =>
      rcases List.mem_cons.mp hp with rfl | hp
      · have hne : c ≠ b := fun h => hb (beq_iff_eq.mpr h.symm)
        exact List.not_mem_cons_of_ne_of_not_mem hne (ih List.mem_cons_self)
      · exact ih (List.mem_cons_of_mem q hp)

private theorem listOf_iff {cs : List Char} {pieces : List (List Char)} :
    ListOf cs pieces ↔ cs.splitOn ',' = pieces := by
  constructor
  · rintro ⟨rfl, hplain, hne⟩
    exact List.splitOn_intercalate ',' hplain hne
  · rintro rfl
    exact ⟨List.intercalate_splitOn ',', fun p hp => notMem_of_mem_splitOn hp,
      List.splitOn_ne_nil _ _⟩

end Text

/-- Every piece can be read, and exactly the selected days are named by one. -/
structure DaySelection.NamedBy (days : DaySelection) (pieces : List (List Char)) : Prop where
  readable : ∀ p ∈ pieces, IsDayPiece p
  contains_iff (d : Weekday) : days.contains d = true ↔ ∃ p ∈ pieces, Names p d.shortName

namespace DaySelection

variable {cs : List Char} {pieces : List (List Char)} {days : DaySelection} {err : EditError}

private theorem NamedBy.unique {days' : DaySelection} (h : days.NamedBy pieces)
    (h' : days'.NamedBy pieces) : days = days' := by
  refine ext_contains fun d => ?_
  rw [Bool.eq_iff_iff, h.contains_iff, h'.contains_iff]

/-- The days of the pieces that are not blank. -/
private def readPieces (pieces : List (List Char)) : Except EditError (List Weekday) :=
  (pieces.filter fun p => !allBlank p).mapM fun p => Weekday.ofText (String.ofList p)

private theorem namedBy_of_readPieces {ds : List Weekday} (h : readPieces pieces = .ok ds) :
    (ofDays ds).NamedBy pieces where
  readable p hp := by
    by_cases hblank : allBlank p = true
    · exact Or.inl hblank
    · have hkept : p ∈ pieces.filter fun p => !allBlank p := by simp [hp, hblank]
      obtain ⟨d, hd⟩ := forall_exists_of_mapM h p hkept
      exact Or.inr ⟨d, Weekday.ofText_eq_ok_iff.mp hd⟩
  contains_iff d := by
    rw [contains_ofDays, mem_iff_of_mapM h]
    simp only [Weekday.ofText_eq_ok_iff, List.mem_filter, Bool.not_eq_true']
    constructor
    · rintro ⟨p, ⟨hp, -⟩, hd⟩
      exact ⟨p, hp, hd⟩
    · rintro ⟨p, hp, hd⟩
      refine ⟨p, ⟨hp, ?_⟩, hd⟩
      rw [Bool.eq_false_iff]
      exact fun hblank => not_names_of_allBlank hblank d hd

private theorem exists_readPieces (h : ∀ p ∈ pieces, IsDayPiece p) :
    ∃ ds, readPieces pieces = .ok ds := by
  refine exists_mapM_of_forall fun p hp => ?_
  obtain ⟨hp, hblank⟩ := List.mem_filter.mp hp
  rcases h p hp with hp | ⟨d, hd⟩
  · rw [hp] at hblank
    contradiction
  · exact ⟨d, Weekday.ofText_eq_ok_iff.mpr hd⟩

private theorem exists_namedBy (h : ∀ p ∈ pieces, IsDayPiece p) :
    ∃ days : DaySelection, days.NamedBy pieces := by
  obtain ⟨ds, hds⟩ := exists_readPieces h
  exact ⟨_, namedBy_of_readPieces hds⟩

private theorem readPieces_eq_error_iff :
    readPieces pieces = .error err ↔
      ∃ front bad back, pieces = front ++ bad :: back ∧ (∀ p ∈ front, IsDayPiece p) ∧
        ¬ IsDayPiece bad ∧ err = .unknownWeekday (String.ofList bad) := by
  rw [readPieces, mapM_eq_error_iff]
  simp only [Weekday.ofText_eq_ok_iff, Weekday.ofText_eq_error_iff]
  constructor
  · rintro ⟨front, bad, back, hkept, hfront, hnone, rfl⟩
    obtain ⟨before, behind, rfl, rfl, hbehind⟩ := List.filter_eq_append_iff.mp hkept
    obtain ⟨blanks, rest, rfl, hblanks, hnotBlank, -⟩ := List.filter_eq_cons_iff.mp hbehind
    refine ⟨before ++ blanks, bad, rest, (List.append_assoc _ _ _).symm, ?_, ?_, rfl⟩
    · intro p hp
      by_cases hblank : allBlank p = true
      · exact Or.inl hblank
      rcases List.mem_append.mp hp with hp | hp
      · exact Or.inr (hfront p (by simp [hp, hblank]))
      · exact absurd (hblanks p hp) (by simp [hblank])
    · rintro (hblank | ⟨d, hd⟩)
      · simp [hblank] at hnotBlank
      · exact hnone d hd
  · rintro ⟨front, bad, back, rfl, hfront, hbad, rfl⟩
    rw [IsDayPiece, not_or, not_exists, Bool.not_eq_true] at hbad
    refine ⟨front.filter fun p => !allBlank p, bad, back.filter fun p => !allBlank p, ?_, ?_,
      hbad.2, rfl⟩
    · rw [List.filter_append, List.filter_cons, hbad.1]
      rfl
    · intro p hp
      obtain ⟨hp, hblank⟩ := List.mem_filter.mp hp
      rcases hfront p hp with hp | hd
      · rw [hp] at hblank
        contradiction
      · exact hd

private theorem ofText_ofList :
    ofText (String.ofList cs) = ofDays <$> readPieces (cs.splitOn ',') := by
  rw [ofText, String.toList_ofList]
  rfl

private theorem ofText_eq_ok_iff :
    ofText (String.ofList cs) = .ok days ↔
      ∃ pieces, ListOf cs pieces ∧ days.NamedBy pieces := by
  simp only [listOf_iff, exists_eq_left', ofText_ofList, map_eq_ok_iff]
  constructor
  · rintro ⟨ds, hds, rfl⟩
    exact namedBy_of_readPieces hds
  · intro h
    obtain ⟨ds, hds⟩ := exists_readPieces h.readable
    exact ⟨ds, hds, (namedBy_of_readPieces hds).unique h⟩

private theorem ofText_eq_error_iff :
    ofText (String.ofList cs) = .error err ↔
      ∃ front bad back, ListOf cs (front ++ bad :: back) ∧ (∀ p ∈ front, IsDayPiece p) ∧
        ¬ IsDayPiece bad ∧ err = .unknownWeekday (String.ofList bad) := by
  simp only [listOf_iff, ← readPieces_eq_error_iff, ofText_ofList, map_eq_error_iff]

end DaySelection

private theorem NumericField.name_ne (field : NumericField) :
    field.name ≠ "frequency" ∧ field.name ≠ "toggle" ∧ field.name ≠ "days" := by
  cases field <;> decide

namespace Edit

/-- The value makes the edit: names are recognised, all other texts are taken as they are. -/
def SaysValue (value : List Char) : Edit → Prop
  | frequency f => Names value f.name
  | number _ text => text.toList = value
  | toggleDay day => Names value day.shortName
  | setDays days => ∃ pieces, ListOf value pieces ∧ days.NamedBy pieces
  | custom text => text.toList = value

def fieldNames : List String :=
  ["frequency", "minute_interval", "hour_interval", "starting_minute", "hour", "minute", "toggle",
    "days", "day_of_month", "custom"]

/-- What can be assigned to the field of this name. -/
structure Takes (name : String) (value : List Char) : Prop where
  known : name ∈ fieldNames
  frequency : name = "frequency" → ∃ f : Frequency, Names value f.name
  toggle : name = "toggle" → ∃ day : Weekday, Names value day.shortName
  days : name = "days" → ∃ pieces, ListOf value pieces ∧ ∀ p ∈ pieces, IsDayPiece p

/-- Why an assignment is refused. -/
inductive Refuses (name : String) (value : List Char) : EditError → Prop
  | field (h : name ∉ fieldNames) : Refuses name value (.unknownField name)
  | frequency (hname : name = "frequency") (h : ∀ f : Frequency, ¬ Names value f.name) :
      Refuses name value (.unknownFrequency (String.ofList value))
  | toggle (hname : name = "toggle") (h : ∀ day : Weekday, ¬ Names value day.shortName) :
      Refuses name value (.unknownWeekday (String.ofList value))
  | days (hname : name = "days") {front back : List (List Char)} {bad : List Char}
      (hpieces : ListOf value (front ++ bad :: back)) (hfront : ∀ p ∈ front, IsDayPiece p)
      (hbad : ¬ IsDayPiece bad) : Refuses name value (.unknownWeekday (String.ofList bad))

variable {name : String} {value : List Char} {e : Edit} {err : EditError}

theorem fieldName_mem (e : Edit) : e.fieldName ∈ fieldNames := by
  cases e with
  | number field text =>
    simp only [fieldName]
    cases field <;> decide
  | _ => simp only [fieldName]; decide

private theorem fieldNames_cases (h : name ∈ fieldNames) :
    (∃ field : NumericField, field.name = name) ∨ name = "frequency" ∨ name = "toggle" ∨
      name = "days" ∨ name = "custom" := by
  have hall : ∀ n ∈ fieldNames, n ∈ NumericField.all.map NumericField.name ∨ n = "frequency" ∨
      n = "toggle" ∨ n = "days" ∨ n = "custom" := by decide
  refine (hall name h).imp_left fun hmem => ?_
  obtain ⟨field, -, hfield⟩ := List.mem_map.mp hmem
  exact ⟨field, hfield⟩

private theorem takes_iff :
    Takes name value ↔ ∃ e : Edit, e.fieldName = name ∧ e.SaysValue value := by
  constructor
  · rintro ⟨hknown, hfrequency, htoggle, hdays⟩
    rcases fieldNames_cases hknown with ⟨field, rfl⟩ | rfl | rfl | rfl | rfl
    · exact ⟨number field (String.ofList value), rfl, String.toList_ofList⟩
    · obtain ⟨f, hf⟩ := hfrequency rfl
      exact ⟨frequency f, rfl, hf⟩
    · obtain ⟨day, hday⟩ := htoggle rfl
      exact ⟨toggleDay day, rfl, hday⟩
    · obtain ⟨pieces, hpieces, hread⟩ := hdays rfl
      obtain ⟨days, hnamed⟩ := DaySelection.exists_namedBy hread
      exact ⟨setDays days, rfl, pieces, hpieces, hnamed⟩
    · exact ⟨custom (String.ofList value), rfl, String.toList_ofList⟩
  · rintro ⟨e, rfl, h⟩
    have hknown := e.fieldName_mem
    cases e with
    | frequency f => exact ⟨hknown, fun _ => ⟨f, h⟩, by simp [fieldName], by simp [fieldName]⟩
    | number field text =>
      obtain ⟨hfrequency, htoggle, hdays⟩ := field.name_ne
      exact ⟨hknown, (absurd · hfrequency), (absurd · htoggle), (absurd · hdays)⟩
    | toggleDay day => exact ⟨hknown, by simp [fieldName], fun _ => ⟨day, h⟩, by simp [fieldName]⟩
    | setDays days =>
      obtain ⟨pieces, hpieces, hnamed⟩ := h
      exact ⟨hknown, by simp [fieldName], by simp [fieldName],
        fun _ => ⟨pieces, hpieces, hnamed.readable⟩⟩
    | custom text =>
      exact ⟨hknown, by simp [fieldName], by simp [fieldName], by simp [fieldName]⟩

section
variable {value : String}

private theorem ofField_frequency :
    ofField "frequency" value = frequency <$> Frequency.ofText value := rfl

private theorem ofField_toggle : ofField "toggle" value = toggleDay <$> Weekday.ofText value := rfl

private theorem ofField_days : ofField "days" value = setDays <$> DaySelection.ofText value := rfl

private theorem ofField_custom : ofField "custom" value = .ok (custom value) := rfl

private theorem ofField_number (field : NumericField) :
    ofField field.name value = .ok (number field value) := by
  rw [ofField, field.ofName?_name]

private theorem ofField_unknown (h : name ∉ fieldNames) :
    ofField name value = .error (.unknownField name) := by
  have hnumber : NumericField.ofName? name = none := by
    rw [Option.eq_none_iff_forall_ne_some]
    intro field hfield
    rw [NumericField.ofName?_eq_some_iff] at hfield
    exact h (hfield ▸ (number field value).fieldName_mem)
  have hother (n : String) (hn : n ∈ fieldNames) : name ≠ n := fun hne => h (hne ▸ hn)
  rw [ofField, hnumber]
  simp only [hother "frequency" (by decide), hother "toggle" (by decide),
    hother "days" (by decide), hother "custom" (by decide), if_false]

end

private theorem ofField_eq_ok_iff :
    ofField name (String.ofList value) = .ok e ↔ e.fieldName = name ∧ e.SaysValue value := by
  constructor
  · intro h
    by_cases hknown : name ∈ fieldNames
    · rcases fieldNames_cases hknown with ⟨field, rfl⟩ | rfl | rfl | rfl | rfl
      · rw [ofField_number] at h
        obtain rfl := Except.ok.inj h
        exact ⟨rfl, String.toList_ofList⟩
      · rw [ofField_frequency, map_eq_ok_iff] at h
        obtain ⟨f, hf, rfl⟩ := h
        exact ⟨rfl, Frequency.ofText_eq_ok_iff.mp hf⟩
      · rw [ofField_toggle, map_eq_ok_iff] at h
        obtain ⟨day, hday, rfl⟩ := h
        exact ⟨rfl, Weekday.ofText_eq_ok_iff.mp hday⟩
      · rw [ofField_days, map_eq_ok_iff] at h
        obtain ⟨days, hdays, rfl⟩ := h
        exact ⟨rfl, DaySelection.ofText_eq_ok_iff.mp hdays⟩
      · rw [ofField_custom] at h
        obtain rfl := Except.ok.inj h
        exact ⟨rfl, String.toList_ofList⟩
    · rw [ofField_unknown hknown] at h
      contradiction
  · rintro ⟨rfl, h⟩
    cases e with
    | frequency f =>
      rw [fieldName, ofField_frequency, map_eq_ok_iff]
      exact ⟨f, Frequency.ofText_eq_ok_iff.mpr h, rfl⟩
    | number field text =>
      obtain rfl : text.toList = value := h
      rw [String.ofList_toList, fieldName, ofField_number]
    | toggleDay day =>
      rw [fieldName, ofField_toggle, map_eq_ok_iff]
      exact ⟨day, Weekday.ofText_eq_ok_iff.mpr h, rfl⟩
    | setDays days =>
      rw [fieldName, ofField_days, map_eq_ok_iff]
      exact ⟨days, DaySelection.ofText_eq_ok_iff.mpr h, rfl⟩
    | custom text =>
      obtain rfl : text.toList = value := h
      rw [String.ofList_toList, fieldName, ofField_custom]

private theorem ofField_eq_error_iff :
    ofField name (String.ofList value) = .error err ↔ Refuses name value err := by
  constructor
  · intro h
    by_cases hknown : name ∈ fieldNames
    · rcases fieldNames_cases hknown with ⟨field, rfl⟩ | rfl | rfl | rfl | rfl
      · rw [ofField_number] at h
        contradiction
      · rw [ofField_frequency, map_eq_error_iff, Frequency.ofText_eq_error_iff] at h
        obtain ⟨hnone, rfl⟩ := h
        exact .frequency rfl hnone
      · rw [ofField_toggle, map_eq_error_iff, Weekday.ofText_eq_error_iff] at h
        obtain ⟨hnone, rfl⟩ := h
        exact .toggle rfl hnone
      · rw [ofField_days, map_eq_error_iff, DaySelection.ofText_eq_error_iff] at h
        obtain ⟨front, bad, back, hpieces, hfront, hbad, rfl⟩ := h
        exact .days rfl hpieces hfront hbad
      · rw [ofField_custom] at h
        contradiction
    · rw [ofField_unknown hknown] at h
      obtain rfl := Except.error.inj h
      exact .field hknown
  · intro h
    cases h with
    | field h => exact ofField_unknown h
    | frequency hname h =>
      rw [hname, ofField_frequency, map_eq_error_iff, Frequency.ofText_eq_error_iff]
      exact ⟨h, rfl⟩
    | toggle hname h =>
      rw [hname, ofField_toggle, map_eq_error_iff, Weekday.ofText_eq_error_iff]
      exact ⟨h, rfl⟩
    | days hname hpieces hfront hbad =>
      rw [hname, ofField_days, map_eq_error_iff, DaySelection.ofText_eq_error_iff]
      exact ⟨_, _, _, hpieces, hfront, hbad, rfl⟩

/-- The text is the name and the value with the first equals sign between them. -/
structure Assigns (s : String) (name value : List Char) : Prop where
  toList_eq : s.toList = name ++ '=' :: value
  notMem : '=' ∉ name

private theorem exists_assigns {s : String} (h : '=' ∈ s.toList) :
    ∃ name value, Assigns s name value := by
  obtain ⟨name, value, hs, hname⟩ := List.eq_append_cons_of_mem h
  exact ⟨name, value, hs, hname⟩

private theorem Assigns.ofText_eq {s : String} {name value : List Char} (h : Assigns s name value) :
    ofText s = ofField (String.ofList (trim name)) (String.ofList value) :=
  ofText_eq_ofField h.toList_eq h.notMem

private theorem ofText_of_notMem {s : String} (h : '=' ∉ s.toList) :
    ofText s = .error (.noEquals s) := by
  have hall : ∀ c ∈ s.toList, decide (c ≠ '=') = true := by
    intro c hc
    simpa using ne_of_mem_of_not_mem hc h
  have hdrop : s.toList.dropWhile (fun c => decide (c ≠ '=')) = [] :=
    List.dropWhile_eq_nil_iff.mpr hall
  rw [ofText, List.span_eq_takeWhile_dropWhile, hdrop]

variable {s : String}

theorem ofText_eq_ok_iff :
    ofText s = .ok e ↔
      ∃ name value, Assigns s name value ∧ e.fieldName = String.ofList (trim name) ∧
        e.SaysValue value := by
  constructor
  · intro h
    by_cases hequals : '=' ∈ s.toList
    · obtain ⟨name, value, hs⟩ := exists_assigns hequals
      rw [hs.ofText_eq, ofField_eq_ok_iff] at h
      exact ⟨name, value, hs, h⟩
    · rw [ofText_of_notMem hequals] at h
      contradiction
  · rintro ⟨name, value, hs, h⟩
    rw [hs.ofText_eq, ofField_eq_ok_iff]
    exact h

private theorem ofText_eq_error_iff :
    ofText s = .error err ↔
      ('=' ∉ s.toList ∧ err = .noEquals s) ∨
        ∃ name value, Assigns s name value ∧ Refuses (String.ofList (trim name)) value err := by
  constructor
  · intro h
    by_cases hequals : '=' ∈ s.toList
    · obtain ⟨name, value, hs⟩ := exists_assigns hequals
      rw [hs.ofText_eq, ofField_eq_error_iff] at h
      exact Or.inr ⟨name, value, hs, h⟩
    · rw [ofText_of_notMem hequals] at h
      exact Or.inl ⟨hequals, (Except.error.inj h).symm⟩
  · rintro (⟨hequals, rfl⟩ | ⟨name, value, hs, h⟩)
    · exact ofText_of_notMem hequals
    · rw [hs.ofText_eq, ofField_eq_error_iff]
      exact h

/-- A text is an edit exactly if it has an equals sign, the name in front of the first one is that
of a field and what is behind is a value that the field takes. The edit holds the value, names of
days and frequencies by what they name, and every other text is refused for its first fault, as an
invalid edit. Lists that name the same days make the same edit. -/
theorem ofText_grammar (s : String) :
    ((∃ e, ofText s = .ok e) ↔
        ∃ name value, Assigns s name value ∧ Takes (String.ofList (trim name)) value) ∧
      (∀ e, ofText s = .ok e ↔
        ∃ name value, Assigns s name value ∧ e.fieldName = String.ofList (trim name) ∧
          e.SaysValue value) ∧
      (∀ err, ofText s = .error err ↔
        ('=' ∉ s.toList ∧ err = .noEquals s) ∨
          ∃ name value, Assigns s name value ∧ Refuses (String.ofList (trim name)) value err) ∧
      (∀ err, ofText s = .error err → ∃ detail, err.message = "invalid edit: " ++ detail) ∧
      ∀ value value' pieces pieces', ListOf value pieces → ListOf value' pieces' →
        (∀ p ∈ pieces ++ pieces', IsDayPiece p) →
        (∀ d : Weekday, (∃ p ∈ pieces, Names p d.shortName) ↔ ∃ p ∈ pieces', Names p d.shortName) →
        ∃ days, ofText ("days=" ++ String.ofList value) = .ok (setDays days) ∧
          ofText ("days=" ++ String.ofList value') = .ok (setDays days) := by
  refine ⟨?_, fun e => ofText_eq_ok_iff, fun err => ofText_eq_error_iff, fun err _ => ⟨_, rfl⟩, ?_⟩
  · simp only [ofText_eq_ok_iff, takes_iff]
    constructor
    · rintro ⟨e, name, value, hs, he⟩
      exact ⟨name, value, hs, e, he⟩
    · rintro ⟨name, value, hs, e, he⟩
      exact ⟨e, name, value, hs, he⟩
  · intro value value' pieces pieces' hvalue hvalue' hpieces hsame
    have hassigns (cs : List Char) : Assigns ("days=" ++ String.ofList cs) "days".toList cs :=
      ⟨by simp, by decide⟩
    have hname : "days" = String.ofList (trim "days".toList) := by decide
    have hread : ∀ p ∈ pieces, IsDayPiece p := fun p hp => hpieces p (List.mem_append_left _ hp)
    have hread' : ∀ p ∈ pieces', IsDayPiece p := fun p hp => hpieces p (List.mem_append_right _ hp)
    obtain ⟨days, hdays⟩ := DaySelection.exists_namedBy hread
    have hdays' : days.NamedBy pieces' := ⟨hread', fun d => (hdays.contains_iff d).trans (hsame d)⟩
    refine ⟨days, ?_, ?_⟩
    · exact ofText_eq_ok_iff.mpr ⟨_, value, hassigns value, hname, pieces, hvalue, hdays⟩
    · exact ofText_eq_ok_iff.mpr ⟨_, value', hassigns value', hname, pieces', hvalue', hdays'⟩

theorem ofText_grammar_sameDays :
    let pieces := ["Mon".toList, "Sun".toList]
    let pieces' := [" sun".toList, [], "MON ".toList, "\u3000".toList, "mon".toList]
    ListOf "Mon,Sun".toList pieces ∧ ListOf " sun,,MON ,\u3000,mon".toList pieces' ∧
      (∀ p ∈ pieces ++ pieces', IsDayPiece p) ∧
      (∀ d : Weekday, (∃ p ∈ pieces, Names p d.shortName) ↔ ∃ p ∈ pieces', Names p d.shortName) ∧
      ∃ days, ofText "days=Mon,Sun" = .ok (setDays days) ∧
        ofText "days= sun,,MON ,\u3000,mon" = .ok (setDays days) := by
  intro pieces pieces'
  obtain ⟨-, -, -, -, hsets⟩ := ofText_grammar "days=Mon,Sun"
  have hvalue : ListOf "Mon,Sun".toList pieces := listOf_iff.mpr (by decide)
  have hvalue' : ListOf " sun,,MON ,\u3000,mon".toList pieces' := listOf_iff.mpr (by decide)
  have hpieces : ∀ p ∈ pieces ++ pieces', IsDayPiece p := by decide
  have hsame : ∀ d : Weekday,
      (∃ p ∈ pieces, Names p d.shortName) ↔ ∃ p ∈ pieces', Names p d.shortName := by
    intro d
    cases d <;> decide
  exact ⟨hvalue, hvalue', hpieces, hsame, hsets _ _ _ _ hvalue hvalue' hpieces hsame⟩

/-- Case counts in the name of a field. -/
example : ofText "Hour=1" = .error (.unknownField "Hour") := by decide

end Edit

end Recurrence
