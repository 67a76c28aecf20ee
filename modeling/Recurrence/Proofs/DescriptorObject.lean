import Recurrence.Descriptor.Json
import Recurrence.NumericField
import Recurrence.Proofs.JsonMembers

/-!
# Which objects are descriptors

An object is read as a descriptor if it has a frequency, gives no field twice and every field it
gives has a value of the right form. Fields that are not given have their defaults. The order of the
members does not matter, nor does anything that stands under other names.
-/
namespace Recurrence

open Json

/-- An array with one truth value for each day, Monday first. -/
def Json.Tree.IsSelection (t : Tree) (s : DaySelection) : Prop :=
  t = .array (s.marks.map .bool) none

theorem DaySelection.ofTree_eq_ok_iff {t : Tree} {s : DaySelection} :
    ofTree t = .ok s ↔ t.IsSelection s := by
  simp only [ofTree, map_eq_ok_iff, Tree.arrayOf_truth_eq_ok_iff, Tree.IsSelection]
  constructor
  · rintro ⟨bs, ⟨rfl, hlength⟩, rfl⟩
    match bs, hlength with
    | [_, _, _, _, _, _, _], _ => rfl
  · rintro rfl
    exact ⟨s.marks, ⟨rfl, rfl⟩, rfl⟩

theorem Frequency.ofTree_eq_ok_iff {t : Tree} {f : Frequency} :
    ofTree t = .ok f ↔ t.IsVariant f.name := by
  simp only [ofTree, bind_eq_ok_iff, Tree.plainVariant_eq_ok_iff, List.mem_map]
  constructor
  · rintro ⟨_, ⟨hname, g, -, rfl⟩, h⟩
    have hg : g = f := by simpa [ofName?_name, pure, Except.pure] using h
    rwa [← hg]
  · intro hname
    refine ⟨f.name, ⟨hname, f, mem_all f, rfl⟩, ?_⟩
    simp [ofName?_name, pure, Except.pure]

namespace NumericField

/-- The member that holds the field. -/
def member : NumericField → String
  | minuteInterval => "minuteInterval"
  | hourInterval => "hourInterval"
  | startingMinute => "startingMinute"
  | hour => "hour"
  | minute => "minute"
  | dayOfMonth => "dayOfMonth"

/-- The number of the field where none is given. -/
def unset : NumericField → UInt32
  | minuteInterval => 5
  | hourInterval => 6
  | startingMinute => 0
  | hour => 0
  | minute => 0
  | dayOfMonth => 1

/-- The number that has been read for the field so far. -/
def part (p : Descriptor.Parts) : NumericField → Option UInt32
  | minuteInterval => p.minuteInterval
  | hourInterval => p.hourInterval
  | startingMinute => p.startingMinute
  | hour => p.hour
  | minute => p.minute
  | dayOfMonth => p.dayOfMonth

private theorem mem_all (f : NumericField) : f ∈ all := by cases f <;> decide

end NumericField

namespace Descriptor

/-- The names of the fields. -/
def memberNames : List String :=
  ["frequency", "selectedDays", "customCron"] ++ NumericField.all.map NumericField.member

/-- No field is given twice. -/
def GivenOnce (ms : List (String × Tree)) : Prop :=
  ∀ name ∈ memberNames, (given ms name).length ≤ 1

/-- The values that are given for fields have the right form. -/
structure WellTyped (ms : List (String × Tree)) : Prop where
  frequency : ∀ t ∈ given ms "frequency", ∃ f : Frequency, t.IsVariant f.name
  number : ∀ f : NumericField, ∀ t ∈ given ms f.member, ∃ n, t.IsWord n
  selectedDays : ∀ t ∈ given ms "selectedDays", ∃ s, t.IsSelection s
  customCron : ∀ t ∈ given ms "customCron", ∃ s, t.IsString s

/-- The descriptor holds what the members say, and defaults for what they do not say. -/
structure SaidBy (ms : List (String × Tree)) (d : Descriptor) : Prop where
  frequency : ∃ t, given ms "frequency" = [t] ∧ t.IsVariant d.frequency.name
  number : ∀ f : NumericField, SaysOr Tree.IsWord f.unset (given ms f.member) (f.get d)
  selectedDays : SaysOr Tree.IsSelection (.ofDays [.mon]) (given ms "selectedDays") d.selectedDays
  customCron : SaysOr Tree.IsString "" (given ms "customCron") d.customCron

variable {s : String} {ms ms' : List (String × Tree)} {d : Descriptor}

private theorem slot_frequency : record.Slot "frequency" Parts.frequency Frequency.ofTree where
  exists_set := ⟨_, rfl, fun _ _ => rfl⟩
  get_of_ne := by simp [record, Record.Field.slot, map_eq_ok_iff]

private theorem slot_number (f : NumericField) :
    record.Slot f.member (NumericField.part · f) Tree.word where
  exists_set := by cases f <;> exact ⟨_, rfl, fun _ _ => rfl⟩
  get_of_ne := by
    cases f <;>
      simp [record, Record.Field.slot, map_eq_ok_iff, NumericField.member, NumericField.part]

private theorem slot_selectedDays :
    record.Slot "selectedDays" Parts.selectedDays DaySelection.ofTree where
  exists_set := ⟨_, rfl, fun _ _ => rfl⟩
  get_of_ne := by simp [record, Record.Field.slot, map_eq_ok_iff]

private theorem slot_customCron : record.Slot "customCron" Parts.customCron Tree.text where
  exists_set := ⟨_, rfl, fun _ _ => rfl⟩
  get_of_ne := by simp [record, Record.Field.slot, map_eq_ok_iff]

private theorem Parts.descriptor_eq_ok_iff {p : Parts} :
    p.descriptor = .ok d ↔
      p.frequency = some d.frequency ∧
        (∀ f : NumericField, (f.part p).getD f.unset = f.get d) ∧
        p.selectedDays.getD (.ofDays [.mon]) = d.selectedDays ∧
        p.customCron.getD "" = d.customCron := by
  simp only [Parts.descriptor, bind_eq_ok_iff]
  constructor
  · rintro ⟨frequency, hfrequency, h⟩
    obtain rfl := Except.ok.inj h
    refine ⟨?_, fun f => by cases f <;> rfl, rfl, rfl⟩
    cases hp : p.frequency with
    | none => simp [hp, need] at hfrequency
    | some f => simpa [hp, need] using hfrequency
  · rintro ⟨hfrequency, hnumber, hdays, hcustom⟩
    refine ⟨d.frequency, by rw [hfrequency]; rfl, ?_⟩
    have hminuteInterval := hnumber .minuteInterval
    have hhourInterval := hnumber .hourInterval
    have hstartingMinute := hnumber .startingMinute
    have hhour := hnumber .hour
    have hminute := hnumber .minute
    have hdayOfMonth := hnumber .dayOfMonth
    simp only [NumericField.part, NumericField.unset, NumericField.get] at *
    simp only [*]
    rfl

private theorem SaidBy.filled (h : SaidBy ms d) {f : Record.Field Parts} (hf : f ∈ record.fields) :
    record.Filled record.start ms f := by
  have hfrequency : ∃ o, Fills Frequency.ofTree (given ms "frequency") none o := by
    obtain ⟨t, hgiven, hvariant⟩ := h.frequency
    rw [hgiven]
    exact ⟨_, .once (Frequency.ofTree_eq_ok_iff.mpr hvariant)⟩
  have hnumber (f : NumericField) := (h.number f).exists_fills fun _ _ => Tree.word_eq_ok_iff
  have hdays := h.selectedDays.exists_fills fun _ _ => DaySelection.ofTree_eq_ok_iff
  have hcustom := h.customCron.exists_fills fun _ _ => Tree.text_eq_ok_iff
  simp only [record, List.mem_cons, List.not_mem_nil, or_false] at hf
  rcases hf with rfl | rfl | rfl | rfl | rfl | rfl | rfl | rfl | rfl
  · exact ⟨_, _, _, slot_frequency, hfrequency⟩
  · exact ⟨_, _, _, slot_number .minuteInterval, hnumber .minuteInterval⟩
  · exact ⟨_, _, _, slot_number .hourInterval, hnumber .hourInterval⟩
  · exact ⟨_, _, _, slot_number .startingMinute, hnumber .startingMinute⟩
  · exact ⟨_, _, _, slot_number .hour, hnumber .hour⟩
  · exact ⟨_, _, _, slot_number .minute, hnumber .minute⟩
  · exact ⟨_, _, _, slot_selectedDays, hdays⟩
  · exact ⟨_, _, _, slot_number .dayOfMonth, hnumber .dayOfMonth⟩
  · exact ⟨_, _, _, slot_customCron, hcustom⟩

private theorem descriptor_eq_ok_iff_saidBy {p : Parts}
    (h : record.collect record.start ms = .ok p) :
    p.descriptor = .ok d ↔ SaidBy ms d := by
  have hfrequency := (slot_frequency.fills h).eq_some_iff (b := d.frequency)
    fun _ _ => Frequency.ofTree_eq_ok_iff
  have hnumber (f : NumericField) : (f.part p).getD f.unset = f.get d ↔
      SaysOr Tree.IsWord f.unset (given ms f.member) (f.get d) := by
    have hfills := (slot_number f).fills h
    cases f <;> exact hfills.getD_eq_iff fun _ _ => Tree.word_eq_ok_iff
  have hdays := (slot_selectedDays.fills h).getD_eq_iff (a := .ofDays [.mon])
    (b := d.selectedDays) fun _ _ => DaySelection.ofTree_eq_ok_iff
  have hcustom := (slot_customCron.fills h).getD_eq_iff (a := "") (b := d.customCron)
    fun _ _ => Tree.text_eq_ok_iff
  rw [Parts.descriptor_eq_ok_iff, hfrequency, forall_congr' hnumber, hdays, hcustom]
  exact ⟨fun ⟨hf, hn, hd, hc⟩ => ⟨hf, hn, hd, hc⟩, fun ⟨hf, hn, hd, hc⟩ => ⟨hf, hn, hd, hc⟩⟩

private theorem read_object_eq_ok_iff {raw : List (Tree × Tree)} (hraw : Named raw ms)
    (hskip : ∀ m ∈ ms, m.2.skip = .ok ()) :
    record.read .illFormed (.object raw none) = .ok d ↔ SaidBy ms d := by
  rw [Record.read, Record.ofMembers_eq_ok_iff hraw]
  constructor
  · rintro ⟨p, hcollect, hp⟩
    exact (descriptor_eq_ok_iff_saidBy hcollect).mp hp
  · intro h
    obtain ⟨p, hcollect⟩ := Record.exists_collect (fun f => h.filled) hskip
    exact ⟨p, hcollect, (descriptor_eq_ok_iff_saidBy hcollect).mpr h⟩

private theorem ofJson_eq_ok_iff (h : IsObject s ms) : ofJson s = .ok d ↔ SaidBy ms d := by
  obtain ⟨raw, htext, hraw⟩ := h
  rw [ofJson, htext.decodeText_eq, read_object_eq_ok_iff hraw (htext.forall_skip hraw)]

private theorem SaidBy.givenOnce (h : SaidBy ms d) : GivenOnce ms := by
  intro name hname
  simp only [memberNames, List.mem_append, List.mem_cons, List.not_mem_nil, or_false,
    List.mem_map] at hname
  rcases hname with (rfl | rfl | rfl) | ⟨f, -, rfl⟩
  · obtain ⟨t, hgiven, -⟩ := h.frequency
    simp [hgiven]
  · exact h.selectedDays.length_le
  · exact h.customCron.length_le
  · exact (h.number f).length_le

private theorem SaidBy.wellTyped (h : SaidBy ms d) : WellTyped ms where
  frequency := by
    obtain ⟨t, hgiven, hvariant⟩ := h.frequency
    simpa [hgiven] using ⟨d.frequency, hvariant⟩
  number f := (h.number f).forall_exists
  selectedDays := h.selectedDays.forall_exists
  customCron := h.customCron.forall_exists

private theorem exists_saidBy (hfrequency : given ms "frequency" ≠ []) (honce : GivenOnce ms)
    (htyped : WellTyped ms) : ∃ d, SaidBy ms d := by
  have hlength (f : NumericField) : (given ms f.member).length ≤ 1 :=
    honce f.member (List.mem_append_right _ (List.mem_map_of_mem f.mem_all))
  choose n hn using fun f : NumericField => exists_saysOr f.unset (hlength f) (htyped.number f)
  obtain ⟨days, hdays⟩ :=
    exists_saysOr (.ofDays [.mon]) (honce "selectedDays" (by decide)) htyped.selectedDays
  obtain ⟨text, htext⟩ := exists_saysOr "" (honce "customCron" (by decide)) htyped.customCron
  obtain ⟨t, hgiven⟩ : ∃ t, given ms "frequency" = [t] :=
    List.length_eq_one_iff.mp (Nat.le_antisymm (honce "frequency" (by decide))
      (List.length_pos_iff.mpr hfrequency))
  obtain ⟨f, hf⟩ := htyped.frequency t (by simp [hgiven])
  exact ⟨⟨f, n .minuteInterval, n .hourInterval, n .startingMinute, n .hour, n .minute, days,
    n .dayOfMonth, text⟩, ⟨t, hgiven, hf⟩, fun g => by cases g <;> exact hn _, hdays, htext⟩

private theorem SaidBy.perm (h : SaidBy ms d)
    (hperm : (ms.filter (·.1 ∈ memberNames)).Perm (ms'.filter (·.1 ∈ memberNames))) :
    SaidBy ms' d where
  frequency := by
    obtain ⟨t, hgiven, hvariant⟩ := h.frequency
    have hgiven' : (given ms "frequency").Perm (given ms' "frequency") :=
      perm_given hperm (by decide)
    rw [hgiven, List.singleton_perm] at hgiven'
    exact ⟨t, hgiven'.symm, hvariant⟩
  number f := (h.number f).perm
    (perm_given hperm (List.mem_append_right _ (List.mem_map_of_mem f.mem_all)))
  selectedDays := h.selectedDays.perm (perm_given hperm (by decide))
  customCron := h.customCron.perm (perm_given hperm (by decide))

/-- An object is a descriptor if it has a frequency, no field is given twice and the values that are
given are of the right form. The descriptor holds these values, and the defaults otherwise. It stays
the same when the members change their order or others come and go. -/
theorem ofJson_object (h : IsObject s ms) :
    ((∃ d, ofJson s = .ok d) ↔ given ms "frequency" ≠ [] ∧ GivenOnce ms ∧ WellTyped ms) ∧
      (∀ d, ofJson s = .ok d ↔ SaidBy ms d) ∧
      ∀ s' ms', IsObject s' ms' →
        (ms.filter (·.1 ∈ memberNames)).Perm (ms'.filter (·.1 ∈ memberNames)) →
        (ofJson s').toOption = (ofJson s).toOption := by
  refine ⟨⟨?_, ?_⟩, fun d => ofJson_eq_ok_iff h, ?_⟩
  · rintro ⟨d, hd⟩
    have hsaid := (ofJson_eq_ok_iff h).mp hd
    obtain ⟨t, hgiven, -⟩ := hsaid.frequency
    exact ⟨by simp [hgiven], hsaid.givenOnce, hsaid.wellTyped⟩
  · rintro ⟨hfrequency, honce, htyped⟩
    obtain ⟨d, hd⟩ := exists_saidBy hfrequency honce htyped
    exact ⟨d, (ofJson_eq_ok_iff h).mpr hd⟩
  · intro s' ms' h' hperm
    have hok (d : Descriptor) : ofJson s' = .ok d ↔ ofJson s = .ok d := by
      rw [ofJson_eq_ok_iff h', ofJson_eq_ok_iff h]
      exact ⟨fun hd => hd.perm hperm.symm, fun hd => hd.perm hperm⟩
    refine Option.ext fun d => ?_
    rw [toOption_eq_some_iff, toOption_eq_some_iff, hok]

/-- The name of a field may be spelled with an escape. Numbers that are too large and surrogates
without partner are passed over where nobody asks for them. -/
theorem ofJson_object_wordy :
    ofJson ("\x7b \"note\":[-1.5e999 ,\x7b\"hour\":\"\\ud800\"\x7d], \"\\u0068our\" :\t7 ,\n" ++
      "\"frequency\":\x7b\"daily\":null\x7d \x7d") = .ok { frequency := .daily, hour := 7 } ∧
      ofJson "\x7b\"frequency\":\x7b\"daily\":null\x7d,\"hour\":7\x7d" =
        .ok { frequency := .daily, hour := 7 } := by
  have hgap (cs : List Char) (h : cs.all isSpace = true) : IsGap cs := by simpa [IsGap] using h
  let daily : Tree := .object [(.string (quoted "daily"), .null)] none
  have hdaily : (Phrase.value daily).SpelledAs _ :=
    .object (.oneMember (named_spelledAs "daily" .nullWord))
  let seven : Tree := .number ⟨false, ['7'], [], none⟩
  have hseven : (Phrase.value seven).SpelledAs ['7'] :=
    .number (.mk false rfl (by decide) .none .none)
  let hour : Quoted := ⟨[.unit 0x68, .char 'o', .char 'u', .char 'r'], none⟩
  have hhour : SpelledPieces hour.pieces (['\\', 'u', '0', '0', '6', '8'] ++ _) :=
    .unit rfl (spelledPieces_quoted "our")
  have hhourName : (Tree.string hour).IsString "hour" :=
    ⟨_, rfl, .unit rfl rfl (.char (.char (.char .nil)))⟩
  have hlone : SpelledPieces [.unit 0xD800] ['\\', 'u', 'd', '8', '0', '0'] := .unit rfl .nil
  let note : Tree := .array [.number ⟨true, ['1'], ['5'], some (false, ['9', '9', '9'])⟩,
    .object [(.string (quoted "hour"), .string ⟨[.unit 0xD800], none⟩)] none] none
  have hnote : (Phrase.value note).SpelledAs _ :=
    .array (.moreElements
      (.padded isGap_nil (.number (.mk true rfl (by decide) (.digits rfl) (.plain (.inl rfl) rfl)))
        (hgap [' '] rfl))
      (.oneElement (.padded isGap_nil
        (.object (.oneMember (named_spelledAs "hour" (.string hlone)))) isGap_nil)))
  have hplain : IsObject "\x7b\"frequency\":\x7b\"daily\":null\x7d,\"hour\":7\x7d"
      [("frequency", daily), ("hour", seven)] := by
    refine ⟨[(.string (quoted "frequency"), daily), (.string (quoted "hour"), seven)], ?_,
      .cons ⟨isString_quoted "frequency", rfl⟩ (.cons ⟨isString_quoted "hour", rfl⟩ .nil)⟩
    have hmembers := Phrase.SpelledAs.moreMembers (named_spelledAs "frequency" hdaily)
      (.oneMember (named_spelledAs "hour" hseven))
    exact .padded isGap_nil (.object hmembers) isGap_nil
  have hwordy : IsObject
      ("\x7b \"note\":[-1.5e999 ,\x7b\"hour\":\"\\ud800\"\x7d], \"\\u0068our\" :\t7 ,\n" ++
        "\"frequency\":\x7b\"daily\":null\x7d \x7d")
      [("note", note), ("hour", seven), ("frequency", daily)] := by
    refine ⟨[(.string (quoted "note"), note), (.string hour, seven),
      (.string (quoted "frequency"), daily)], ?_, .cons ⟨isString_quoted "note", rfl⟩
      (.cons ⟨hhourName, rfl⟩ (.cons ⟨isString_quoted "frequency", rfl⟩ .nil))⟩
    have hmembers := Phrase.SpelledAs.moreMembers
      (.named (hgap [' '] rfl) (spelledPieces_quoted "note") isGap_nil
        (.padded isGap_nil hnote isGap_nil))
      (.moreMembers
        (.named (hgap [' '] rfl) hhour (hgap [' '] rfl)
          (.padded (hgap ['\t'] rfl) hseven (hgap [' '] rfl)))
        (.oneMember (.named (hgap ['\n'] rfl) (spelledPieces_quoted "frequency") isGap_nil
          (.padded isGap_nil hdaily (hgap [' '] rfl)))))
    exact .padded isGap_nil (.object hmembers) isGap_nil
  obtain ⟨-, hsaid, hsame⟩ := ofJson_object hwordy
  have hd := (hsaid { frequency := .daily, hour := 7 }).mpr {
    frequency := ⟨daily, rfl, .inr ⟨_, rfl, isString_quoted "daily"⟩⟩
    number := fun f => by
      cases f with
      | hour => exact .given ⟨_, rfl, rfl⟩
      | _ => exact .absent
    selectedDays := .absent
    customCron := .absent }
  refine ⟨hd, ?_⟩
  rw [← toOption_eq_some_iff, hsame _ _ hplain (.swap _ _ _), hd]
  rfl

end Descriptor
end Recurrence
