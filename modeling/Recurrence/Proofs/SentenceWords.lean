import Recurrence.Proofs.ActivePart

/-!
# The words of a sentence

A sentence tells a view of the schedule: Monday for a week without a day, a daily time for a week
with all its days. The view gives the words, and from the words the view can be told again as long
as its hour is one of the clock.
-/
namespace Recurrence

open Text

namespace Text

private theorem ofWord_injective {m n : UInt32} (h : (ofWord m).toList = (ofWord n).toList) :
    m = n := by
  have hm := word?_ofWord m
  rw [h, word?_ofWord] at hm
  exact (Option.some.inj hm).symm

private theorem isNumeral_twoDigits (n : Nat) : isNumeral (twoDigits n).toList = true := by
  obtain ⟨hne, hd⟩ := isNumeral_iff.mp (isNumeral_repr n)
  rw [isNumeral_iff]
  unfold twoDigits
  split
  · rw [String.toList_append]
    refine ⟨by simp, ?_⟩
    intro c hc
    rcases List.mem_append.mp hc with hc | hc
    · obtain rfl := List.mem_singleton.mp hc
      rfl
    · exact hd c hc
  · exact ⟨hne, hd⟩

private theorem numeralValue_twoDigits (n : Nat) : numeralValue (twoDigits n).toList = n := by
  have hn := numeralValue_repr n
  unfold twoDigits
  split
  · rw [String.toList_append]
    exact hn
  · exact hn

private theorem twoDigits_injective {m n : UInt32}
    (h : (twoDigits m.toNat).toList = (twoDigits n.toNat).toList) : m = n := by
  rw [← UInt32.toNat_inj, ← numeralValue_twoDigits m.toNat, h, numeralValue_twoDigits]

/-- What stands behind a numeral shows where it ends. -/
private theorem numeral_append_inj {m n s t : List Char} (hm : isNumeral m = true)
    (hn : isNumeral n = true)
    (hs : ∀ c ∈ s.head?, c.isDigit = false) (ht : ∀ c ∈ t.head?, c.isDigit = false)
    (h : m ++ s = n ++ t) : m = n ∧ s = t := by
  obtain ⟨hms, hs'⟩ := takeWhile_isDigit_append hm hs
  obtain ⟨hnt, ht'⟩ := takeWhile_isDigit_append hn ht
  rw [h] at hms hs'
  exact ⟨hms.symm.trans hnt, hs'.symm.trans ht'⟩

end Text

private theorem exists_toList_ordinal (n : UInt32) :
    ∃ c cs, (ordinal n).toList = (ofWord n).toList ++ c :: cs ∧ c.isDigit = false ∧
      IsWord (c :: cs) := by
  unfold ordinal
  rw [String.toList_append]
  split
  · exact ⟨'t', ['h'], rfl, by decide, by decide⟩
  split
  · exact ⟨'s', ['t'], rfl, by decide, by decide⟩
  split
  · exact ⟨'n', ['d'], rfl, by decide, by decide⟩
  split
  · exact ⟨'r', ['d'], rfl, by decide, by decide⟩
  · exact ⟨'t', ['h'], rfl, by decide, by decide⟩

private theorem ordinal_injective {m n : UInt32} (h : (ordinal m).toList = (ordinal n).toList) :
    m = n := by
  obtain ⟨c, cs, hm, hc, -⟩ := exists_toList_ordinal m
  obtain ⟨e, es, hn, he, -⟩ := exists_toList_ordinal n
  rw [hm, hn] at h
  refine ofWord_injective (numeral_append_inj (isNumeral_ofWord m) (isNumeral_ofWord n) ?_ ?_ h).1
  · simpa using hc
  · simpa using he

namespace TimeOfDay

/-- The hour on the face of a clock. -/
def faceHour (t : TimeOfDay) : UInt32 := if t.hour % 12 = 0 then 12 else t.hour % 12

/-- The half of the day. -/
def half (t : TimeOfDay) : String := if t.hour % 24 < 12 then "AM" else "PM"

/-- The two words of a time. -/
def words (t : TimeOfDay) : List (List Char) :=
  [(ofWord t.faceHour).toList ++ ':' :: (twoDigits t.minute.toNat).toList, t.half.toList]

private theorem isWord_of_mem_words {t : TimeOfDay} {w : List Char} (h : w ∈ t.words) :
    IsWord w := by
  simp only [words, List.mem_cons, List.not_mem_nil, or_false] at h
  rcases h with rfl | rfl
  · have hhour := isWord_of_isNumeral (isNumeral_ofWord t.faceHour)
    have hminute := isWord_of_isNumeral (isNumeral_twoDigits t.minute.toNat)
    refine ⟨by simp, ?_⟩
    intro c hc
    simp only [List.mem_append, List.mem_cons] at hc
    rcases hc with hc | rfl | hc
    · exact hhour.2 c hc
    · decide
    · exact hminute.2 c hc
  · unfold half
    split <;> decide

private theorem toList_clock (t : TimeOfDay) : t.clock.toList = [' '].intercalate t.words := by
  simp [clock, words, faceHour, half, List.intercalate_cons_cons]

private theorem toNat_faceHour (t : TimeOfDay) :
    t.faceHour.toNat = if t.hour.toNat % 12 = 0 then 12 else t.hour.toNat % 12 := by
  unfold faceHour
  simp only [← UInt32.toNat_inj, apply_ite UInt32.toNat, UInt32.toNat_mod]
  rfl

private theorem half_eq_iff {t u : TimeOfDay} :
    t.half.toList = u.half.toList ↔ (t.hour.toNat % 24 < 12 ↔ u.hour.toNat % 24 < 12) := by
  have hlt (w : UInt32) : w % 24 < 12 ↔ w.toNat % 24 < 12 := by
    rw [UInt32.lt_iff_toNat_lt, UInt32.toNat_mod]
    rfl
  simp only [half, hlt]
  by_cases ht : t.hour.toNat % 24 < 12 <;> by_cases hu : u.hour.toNat % 24 < 12 <;> simp [ht, hu]

private theorem words_injective {t u : TimeOfDay} (ht : t.hour ≤ 23) (hu : u.hour ≤ 23)
    (h : t.words = u.words) : t = u := by
  simp only [words, List.cons.injEq, and_true] at h
  obtain ⟨hface, hhalf⟩ := h
  obtain ⟨hfaceHour, hrest⟩ :=
    numeral_append_inj (isNumeral_ofWord _) (isNumeral_ofWord _) (by simp) (by simp) hface
  have hminute := twoDigits_injective (List.cons.inj hrest).2
  have hhour : t.hour = u.hour := by
    have ht' : t.hour.toNat ≤ 23 := UInt32.le_iff_toNat_le.mp ht
    have hu' : u.hour.toNat ≤ 23 := UInt32.le_iff_toNat_le.mp hu
    have hmod := congrArg UInt32.toNat (ofWord_injective hfaceHour)
    rw [toNat_faceHour, toNat_faceHour] at hmod
    rw [half_eq_iff] at hhalf
    rw [← UInt32.toNat_inj]
    split at hmod <;> split at hmod <;> omega
  cases t
  cases u
  exact congr (congrArg TimeOfDay.mk hhour) hminute

end TimeOfDay

/-- The words of a list of days: each but the last has a comma at its end. -/
def dayWords : List Weekday → List (List Char)
  | [] => []
  | [d] => [d.shortName.toList]
  | d :: e :: ds => (d.shortName.toList ++ [',']) :: dayWords (e :: ds)

private theorem intercalate_dayWords (ds : List Weekday) :
    [' '].intercalate (dayWords ds) =
      [',', ' '].intercalate (ds.map fun d => d.shortName.toList) := by
  match ds with
  | [] => rfl
  | [d] => rfl
  | d :: e :: ds =>
    have hrest := intercalate_dayWords (e :: ds)
    have hne : dayWords (e :: ds) ≠ [] := by cases ds <;> simp [dayWords]
    obtain ⟨w, ws, hw⟩ := List.exists_cons_of_ne_nil hne
    rw [dayWords, hw, List.intercalate_cons_cons, ← hw, hrest]
    simp [List.intercalate_cons_cons]

private theorem take_shortName (d : Weekday) (cs : List Char) :
    (d.shortName.toList ++ cs).take 3 = d.shortName.toList := by
  cases d <;> rfl

/-- A day name has three letters, which the comma behind it does not change. -/
private theorem map_take_dayWords (ds : List Weekday) :
    (dayWords ds).map (List.take 3) = ds.map fun d => d.shortName.toList := by
  match ds with
  | [] => rfl
  | [d] =>
    have hd := take_shortName d []
    rw [List.append_nil] at hd
    simp [dayWords, hd]
  | d :: e :: ds =>
    rw [dayWords, List.map_cons, map_take_dayWords (e :: ds), take_shortName]
    rfl

private theorem dayWords_injective {ds es : List Weekday} (h : dayWords ds = dayWords es) :
    ds = es := by
  have hname (d e : Weekday) (hde : d.shortName.toList = e.shortName.toList) : d = e := by
    have hd := Weekday.ofShortName?_shortName d
    rw [String.toList_inj.mp hde, Weekday.ofShortName?_shortName] at hd
    exact (Option.some.inj hd).symm
  have hnames := congrArg (List.map (List.take 3)) h
  rw [map_take_dayWords, map_take_dayWords] at hnames
  exact (List.map_inj_right hname).mp hnames

theorem Weekday.isWord_shortName (d : Weekday) : IsWord d.shortName.toList := by
  cases d <;> decide

private theorem isWord_of_mem_dayWords {ds : List Weekday} {w : List Char} (h : w ∈ dayWords ds) :
    IsWord w := by
  have hcomma (d : Weekday) : IsWord (d.shortName.toList ++ [',']) := by cases d <;> decide
  match ds with
  | [] => simp [dayWords] at h
  | [d] =>
    obtain rfl := List.mem_singleton.mp h
    exact d.isWord_shortName
  | d :: e :: ds =>
    rcases List.mem_cons.mp h with rfl | h
    · exact hcomma d
    · exact isWord_of_mem_dayWords h

/-- The words of the sentence that tells a view. -/
def View.words : View → List (List Char)
  | .everyMinutes n =>
    ["Every".toList, (ofWord n).toList, ("minute" ++ if n = 1 then "" else "s").toList]
  | .everyHours n m =>
    ["Every".toList, (ofWord n).toList, ("hour" ++ if n = 1 then "" else "s").toList, "at".toList,
      ':' :: (twoDigits m.toNat).toList]
  | .daily t => ["Daily".toList, "at".toList] ++ t.words
  | .weekly t ds => ["Every".toList] ++ dayWords ds ++ ["at".toList] ++ t.words
  | .monthly t n =>
    ["Monthly".toList, "on".toList, "the".toList, (ordinal n).toList, "at".toList] ++ t.words
  | .custom text => ["Custom".toList, "schedule:".toList] ++ Text.words text.toList

/-- What the sentence of a descriptor tells: Monday for a week without a day, and a week with all
its days as a daily time. -/
def Descriptor.told (d : Descriptor) : View :=
  if d.frequency = .weekly ∧ d.selectedDays.days = Weekday.all then .daily d.time
  else d.orMonday.view

private theorem dayWords_ne_nil {ds : List Weekday} (h : ds ≠ []) : dayWords ds ≠ [] := by
  match ds with
  | [] => contradiction
  | [d] => simp [dayWords]
  | d :: e :: ds => simp [dayWords]

private theorem words_ne_nil (t : TimeOfDay) : t.words ≠ [] := by simp [TimeOfDay.words]

private theorem toList_daily (t : TimeOfDay) :
    ("Daily at " ++ t.clock).toList = [' '].intercalate (View.daily t).words := by
  rw [View.words, intercalate_append (by simp) (words_ne_nil t), ← t.toList_clock]
  simp [List.intercalate_cons_cons]

private theorem toList_weekly (t : TimeOfDay) {ds : List Weekday} (h : ds ≠ []) :
    ("Every " ++ ", ".intercalate (ds.map Weekday.shortName) ++ " at " ++ t.clock).toList =
      [' '].intercalate (View.weekly t ds).words := by
  have hnames : (", ".intercalate (ds.map Weekday.shortName)).toList =
      [' '].intercalate (dayWords ds) := by
    rw [intercalate_dayWords, String.toList_intercalate, List.map_map]
    rfl
  rw [View.words, intercalate_append (by simp) (words_ne_nil t), ← t.toList_clock,
    intercalate_append (by simp) (by simp), intercalate_append (by simp) (dayWords_ne_nil h),
    ← hnames]
  simp

private theorem toList_monthly (t : TimeOfDay) (n : UInt32) :
    ("Monthly on the " ++ ordinal n ++ " at " ++ t.clock).toList =
      [' '].intercalate (View.monthly t n).words := by
  rw [View.words, intercalate_append (by simp) (words_ne_nil t), ← t.toList_clock]
  simp [List.intercalate_cons_cons]

/-- A structured sentence is the words of what it tells with single spaces between them. -/
theorem Descriptor.toList_sentence {d : Descriptor} (h : d.frequency ≠ .custom) :
    d.sentence.toList = [' '].intercalate d.told.words := by
  unfold sentence told
  cases hd : d.frequency with
  | minute => simp [orMonday, view, hd, View.words, everyUnits, List.intercalate_cons_cons]
  | hourly => simp [orMonday, view, hd, View.words, everyUnits, List.intercalate_cons_cons]
  | daily =>
    have hview : d.orMonday.view = .daily d.time := by simp only [view, orMonday, hd, time]
    simpa [hview] using toList_daily d.time
  | weekly =>
    by_cases hall : d.selectedDays.days = Weekday.all
    · simpa [hall] using toList_daily d.time
    · have hview : d.orMonday.view = .weekly d.time d.selectedDays.daysOrMonday := by
        simp only [view, orMonday, hd, time, DaySelection.days_orMonday]
      simpa [hall, hview] using toList_weekly d.time d.selectedDays.daysOrMonday_ne_nil
  | monthly =>
    have hview : d.orMonday.view = .monthly d.time d.dayOfMonth := by
      simp only [view, orMonday, hd, time]
    simpa [hview] using toList_monthly d.time d.dayOfMonth
  | custom => contradiction

private theorem isWord_units {unit : String} (h : IsWord unit.toList) (n : UInt32) :
    IsWord (unit ++ if n = 1 then "" else "s").toList := by
  rw [String.toList_append]
  refine ⟨by simp [h.1], ?_⟩
  intro c hc
  rcases List.mem_append.mp hc with hc | hc
  · exact h.2 c hc
  · split at hc
    · contradiction
    · obtain rfl := List.mem_singleton.mp hc
      decide

private theorem isWord_ordinal (n : UInt32) : IsWord (ordinal n).toList := by
  obtain ⟨c, cs, hn, -, hending⟩ := exists_toList_ordinal n
  rw [hn]
  refine ⟨by simp, ?_⟩
  intro e he
  rcases List.mem_append.mp he with he | he
  · exact (isWord_of_isNumeral (isNumeral_ofWord n)).2 e he
  · exact hending.2 e he

private theorem isWord_offset (n : Nat) : IsWord (':' :: (twoDigits n).toList) := by
  have hn := isWord_of_isNumeral (isNumeral_twoDigits n)
  exact ⟨by simp, List.forall_mem_cons.mpr ⟨by decide, hn.2⟩⟩

theorem View.isWord_of_mem_words {v : View} (h : v.frequency ≠ .custom) :
    ∀ w ∈ v.words, IsWord w := by
  have hevery : IsWord "Every".toList := by decide
  have hat : IsWord "at".toList := by decide
  have htime (t : TimeOfDay) : ∀ w ∈ t.words, IsWord w := fun w => TimeOfDay.isWord_of_mem_words
  have hnumber (n : UInt32) := isWord_of_isNumeral (isNumeral_ofWord n)
  cases v with
  | everyMinutes n =>
    simp only [words, List.forall_mem_cons]
    exact ⟨hevery, hnumber n, isWord_units (by decide) n, nofun⟩
  | everyHours n m =>
    simp only [words, List.forall_mem_cons]
    exact ⟨hevery, hnumber n, isWord_units (by decide) n, hat, isWord_offset _, nofun⟩
  | daily t =>
    simp only [words, List.forall_mem_append]
    exact ⟨by decide, htime t⟩
  | weekly t ds =>
    simp only [words, List.forall_mem_append]
    exact ⟨⟨⟨by decide, fun w => isWord_of_mem_dayWords⟩, by decide⟩, htime t⟩
  | monthly t n =>
    simp only [words, List.forall_mem_append, List.forall_mem_cons]
    exact ⟨⟨by decide, by decide, by decide, isWord_ordinal n, hat, nofun⟩, htime t⟩
  | custom text => exact absurd rfl h

namespace Descriptor

theorem frequency_told (d : Descriptor) :
    d.told.frequency =
      if d.frequency = .weekly ∧ d.selectedDays.days = Weekday.all then .daily
      else d.frequency := by
  unfold told
  split
  · rfl
  · exact d.orMonday.frequency_view

theorem frequency_told_eq_custom_iff {d : Descriptor} :
    d.told.frequency = .custom ↔ d.frequency = .custom := by
  rw [frequency_told]
  split
  next h => simp [h.1]
  next => rfl

theorem told_of_custom {d : Descriptor} (h : d.frequency = .custom) :
    d.told = .custom d.customCron := by
  simp only [told, h, reduceCtorEq, false_and, if_false, view, orMonday]

theorem told_ne_weekly_nil (d : Descriptor) (t : TimeOfDay) : d.told ≠ .weekly t [] := by
  unfold told
  split
  · simp
  · rw [view_orMonday]
    split
    next => simp
    next hempty =>
      intro h
      have hweekly : d.frequency = .weekly := by rw [← frequency_view, h]; rfl
      simp only [view, hweekly, View.weekly.injEq] at h
      exact hempty ⟨hweekly, h.2⟩

end Descriptor

theorem Descriptor.words_sentence (d : Descriptor) :
    Text.words d.sentence.toList = d.told.words := by
  by_cases h : d.frequency = .custom
  · have htext : d.sentence.toList =
        "Custom".toList ++ ' ' :: ("schedule:".toList ++ ' ' :: d.customCron.toList) := by
      simp [sentence_of_custom h]
    have hcustom : IsWord "Custom".toList := by decide
    have hschedule : IsWord "schedule:".toList := by decide
    rw [told_of_custom h, htext, hcustom.words_append, hschedule.words_append]
    rfl
  · have htold : d.told.frequency ≠ .custom := by rwa [ne_eq, frequency_told_eq_custom_iff]
    rw [toList_sentence h, words_intercalate (View.isWord_of_mem_words htold)]

/-- The shape that the words of a sentence show. -/
def View.shapeOf (ws : List (List Char)) : Frequency :=
  if ws.head? = some "Daily".toList then .daily
  else if ws.head? = some "Monthly".toList then .monthly
  else if ws.head? = some "Custom".toList then .custom
  else if ws[1]?.any isNumeral then (if ws.length = 3 then .minute else .hourly)
  else .weekly

private theorem not_isNumeral_dayWords {ds : List Weekday} {w : List Char} (h : w ∈ dayWords ds) :
    isNumeral w = false := by
  have hmem : w.take 3 ∈ ds.map fun d => d.shortName.toList := by
    rw [← map_take_dayWords]
    exact List.mem_map_of_mem h
  obtain ⟨d, -, hd⟩ := List.mem_map.mp hmem
  have hletter : (d.shortName.toList.any fun c => !c.isDigit) = true := by cases d <;> decide
  obtain ⟨c, hc, hdigit⟩ := List.any_eq_true.mp hletter
  rw [Bool.not_eq_true'] at hdigit
  rw [Bool.eq_false_iff]
  intro hw
  rw [hd] at hc
  exact notMem_of_isNumeral hw hdigit (List.mem_of_mem_take hc)

theorem View.shapeOf_words {v : View} (h : ∀ t, v ≠ .weekly t []) :
    shapeOf v.words = v.frequency := by
  cases v with
  | everyMinutes n => simp [shapeOf, words, isNumeral_ofWord, frequency]
  | everyHours n m => simp [shapeOf, words, isNumeral_ofWord, frequency]
  | daily t => rfl
  | weekly t ds =>
    have hne : dayWords ds ≠ [] := dayWords_ne_nil fun hds => h t (hds ▸ rfl)
    obtain ⟨w, ws, hw⟩ := List.exists_cons_of_ne_nil hne
    have hletter := not_isNumeral_dayWords (hw ▸ List.mem_cons_self : w ∈ dayWords ds)
    simp [shapeOf, words, hw, hletter, frequency]
  | monthly t n => rfl
  | custom text => rfl

/-- The hour is one of the clock, where the view has one. -/
def View.OnClock : View → Prop
  | .daily t => t.hour ≤ 23
  | .weekly t _ => t.hour ≤ 23
  | .monthly t _ => t.hour ≤ 23
  | _ => True

theorem View.words_injective {v w : View} (hv : v.OnClock) (hw : w.OnClock)
    (hv' : ∀ t, v ≠ .weekly t []) (hw' : ∀ t, w ≠ .weekly t [])
    (hstructured : v.frequency ≠ .custom) (h : v.words = w.words) : v = w := by
  have hfrequency : v.frequency = w.frequency := by
    rw [← shapeOf_words hv', h, shapeOf_words hw']
  cases v <;> cases w <;> try contradiction
  case everyMinutes n m =>
    simp only [words, List.cons.injEq] at h
    rw [ofWord_injective h.2.1]
  case everyHours n m n' m' =>
    simp only [words, List.cons.injEq] at h
    rw [ofWord_injective h.2.1, twoDigits_injective h.2.2.2.2.1.2]
  case daily t u =>
    rw [TimeOfDay.words_injective hv hw (List.append_cancel_left h)]
  case weekly t ds u es =>
    obtain ⟨hdays, htime⟩ := List.append_inj' h rfl
    have hds := List.append_cancel_left (List.append_cancel_right hdays)
    rw [TimeOfDay.words_injective hv hw htime, dayWords_injective hds]
  case monthly t n u m =>
    obtain ⟨hday, htime⟩ := List.append_inj' h rfl
    simp only [List.cons.injEq] at hday
    rw [TimeOfDay.words_injective hv hw htime, ordinal_injective hday.2.2.2.1]

end Recurrence
