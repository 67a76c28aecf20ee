import Recurrence.Proofs.JsonMembers
import Recurrence.Proofs.JsonValue
import Recurrence.View.Json

/-!
# Views survive their JSON

A view is decoded from its own text as it was, in either layout. The members of its objects may also
stand in another order: the tag is found wherever it is.
-/
namespace Recurrence

open Json

namespace Json

mutual

/-- The same value, with the members of its objects in any order. -/
inductive Value.Reordered : Value → Value → Prop where
  | same (v : Value) : Value.Reordered v v
  | array {vs ws : List Value} (h : ReorderedItems vs ws) :
      Value.Reordered (.array vs) (.array ws)
  | object {ms ms' ns : List (String × Value)} (h : ReorderedMembers ms ms') (hperm : ms'.Perm ns) :
      Value.Reordered (.object ms) (.object ns)

inductive ReorderedItems : List Value → List Value → Prop where
  | nil : ReorderedItems [] []
  | cons {v w : Value} {vs ws : List Value} (h : Value.Reordered v w) (hvs : ReorderedItems vs ws) :
      ReorderedItems (v :: vs) (w :: ws)

inductive ReorderedMembers : List (String × Value) → List (String × Value) → Prop where
  | nil : ReorderedMembers [] []
  | cons (name : String) {v w : Value} {ms ns : List (String × Value)} (h : Value.Reordered v w)
      (hms : ReorderedMembers ms ns) : ReorderedMembers ((name, v) :: ms) ((name, w) :: ns)

end

private theorem ReorderedMembers.refl (ms : List (String × Value)) : ReorderedMembers ms ms := by
  induction ms with
  | nil => exact .nil
  | cons m ms ih => exact .cons m.1 (.same m.2) ih

private theorem ReorderedMembers.exists_single {name : String} {v : Value}
    {ns : List (String × Value)}
    (h : ReorderedMembers [(name, v)] ns) : ∃ w, ns = [(name, w)] ∧ v.Reordered w := by
  cases h with
  | cons _ hw hrest =>
    cases hrest
    exact ⟨_, rfl, hw⟩

private theorem ReorderedMembers.exists_pair {name name' : String} {v v' : Value}
    {ns : List (String × Value)} (h : ReorderedMembers [(name, v), (name', v')] ns) :
    ∃ w w', ns = [(name, w), (name', w')] ∧ v.Reordered w ∧ v'.Reordered w' := by
  cases h with
  | cons _ hw hrest =>
    obtain ⟨w', rfl, hw'⟩ := hrest.exists_single
    exact ⟨_, w', rfl, hw, hw'⟩

private theorem Value.Reordered.exists_members {ms : List (String × Value)} {w : Value}
    (h : (Value.object ms).Reordered w) :
    ∃ ms' ns, w = .object ns ∧ ReorderedMembers ms ms' ∧ ms'.Perm ns := by
  cases h with
  | same => exact ⟨ms, ms, rfl, .refl ms, .refl ms⟩
  | object h hperm => exact ⟨_, _, rfl, h, hperm⟩

private theorem Value.Reordered.number_eq {n : Nat} {w : Value} (h : (Value.number n).Reordered w) :
    w = .number n := by
  cases h
  rfl

private theorem Value.Reordered.string_eq {s : String} {w : Value}
    (h : (Value.string s).Reordered w) :
    w = .string s := by
  cases h
  rfl

private theorem ReorderedItems.strings_eq {ss : List String} {ws : List Value}
    (h : ReorderedItems (ss.map .string) ws) : ws = ss.map .string := by
  induction ss generalizing ws with
  | nil =>
    cases h
    rfl
  | cons s ss ih =>
    cases h with
    | cons hw hws => rw [hw.string_eq, ih hws, List.map_cons]

private theorem Value.Reordered.strings_eq {ss : List String} {w : Value}
    (h : (Value.array (ss.map .string)).Reordered w) : w = .array (ss.map .string) := by
  cases h with
  | same => rfl
  | array h => rw [h.strings_eq]

private theorem check_string (room : Nat) (s : String) :
    (Value.string s).tree.check room = .ok () := by
  simp [Value.tree, Tree.check, text_quoted, Except.map]

private theorem check_word (room : Nat) (n : UInt32) :
    (Value.number n.toNat).tree.check room = .ok () := by
  have hscalar := Tree.scalar_of_numeralValue (Text.numeralValue_toDigits n.toNat)
  simp [Value.tree, Tree.check, hscalar, Except.map]

private theorem check_array {room : Nat} {vs : List Value}
    (h : ∀ v ∈ vs, v.tree.check room = .ok ()) :
    (Value.array vs).tree.check (room + 1) = .ok () := by
  have hitems : Tree.checkItems room (itemTrees vs) = .ok () := by
    induction vs with
    | nil => rfl
    | cons v vs ih =>
      obtain ⟨hv, hvs⟩ := List.forall_mem_cons.mp h
      rw [itemTrees, Tree.checkItems, hv]
      exact ih hvs
  rw [Value.tree, Tree.check, hitems]
  rfl

private theorem check_object {room : Nat} {ms : List (String × Value)}
    (h : ∀ m ∈ ms, m.2.tree.check room = .ok ()) :
    (Value.object ms).tree.check (room + 1) = .ok () := by
  have hmembers : Tree.checkMembers room (memberTrees ms) = .ok () := by
    induction ms with
    | nil => rfl
    | cons m ms ih =>
      obtain ⟨hm, hms⟩ := List.forall_mem_cons.mp h
      rw [memberTrees, Tree.checkMembers, memberTree, Tree.checkMember, Tree.memberName,
        text_quoted, hm]
      exact ih hms
  rw [Value.tree, Tree.check, hmembers]
  rfl

end Json

private theorem TimeOfDay.apart : record.Apart :=
  List.pairwise_pair.mpr
    (Record.Field.slots_apart (fun _ _ => rfl) (fun _ _ => rfl) fun _ _ _ => rfl)

private theorem TimeOfDay.ofMembers_toJson (t : TimeOfDay) :
    record.ofMembers
      (memberTrees [("hour", .number t.hour.toNat), ("minute", .number t.minute.toNat)]) none =
        .ok t := by
  simp only [memberTrees, memberTree, Record.ofMembers]
  rw [Record.addMembers_slot rfl rfl (word_tree_number t.hour),
    Record.addMembers_slot rfl rfl (word_tree_number t.minute)]
  rfl

namespace View

/-- The value passes the check, and then `b` is read from it. -/
structure Holds {β : Type} (read : Tree → Decoded β) (b : β) (w : Value) : Prop where
  check : w.tree.check nestingLimit = .ok ()
  read : read w.tree = .ok b

private theorem holds_word {n : UInt32} {w : Value} (h : (Value.number n.toNat).Reordered w) :
    Holds Tree.word n w := by
  rw [h.number_eq]
  exact ⟨check_word _ n, word_tree_number n⟩

private theorem holds_text {s : String} {w : Value} (h : (Value.string s).Reordered w) :
    Holds Tree.text s w := by
  rw [h.string_eq]
  exact ⟨check_string _ s, text_tree_string s⟩

private theorem holds_time {t : TimeOfDay} {w : Value} (h : t.toJson.Reordered w) :
    Holds (TimeOfDay.record.read .tooLong) t w := by
  obtain ⟨ms, ns, rfl, hms, hperm⟩ := h.exists_members
  obtain ⟨hour, minute, rfl, hhour, hminute⟩ := hms.exists_pair
  rw [hhour.number_eq, hminute.number_eq] at hperm
  refine ⟨check_object fun m hm => ?_, ?_⟩
  · rw [← hperm.mem_iff] at hm
    have hword : m.2 = .number t.hour.toNat ∨ m.2 = .number t.minute.toNat := by
      rcases List.mem_pair.mp hm with rfl | rfl <;> simp
    rcases hword with hm | hm <;> rw [hm, check_word]
  · exact TimeOfDay.apart.ofMembers_perm hperm (by simp) t.ofMembers_toJson

private theorem dayOfTree_shortName (d : Weekday) :
    dayOfTree (Value.string d.shortName).tree = .ok d := by
  have hname : (Value.string d.shortName).tree.variantName (Weekday.all.map Weekday.shortName) =
      .ok d.shortName :=
    Tree.variantName_eq_ok_iff.mpr ⟨isString_quoted _, List.mem_map_of_mem d.mem_all⟩
  refine bind_eq_ok_iff.mpr ⟨_, hname, ?_⟩
  simp only [Weekday.ofShortName?_shortName]
  rfl

private theorem holds_days {ds : List Weekday} {w : Value}
    (h : (Value.array (ds.map Weekday.toJson)).Reordered w) : Holds daysOfTree ds w := by
  have hnames : ds.map Weekday.toJson = (ds.map Weekday.shortName).map .string := by
    rw [List.map_map]
    rfl
  rw [hnames] at h
  rw [h.strings_eq]
  constructor
  · refine check_array fun v hv => ?_
    obtain ⟨s, -, rfl⟩ := List.mem_map.mp hv
    exact check_string _ s
  · rw [tree_array, daysOfTree, List.map_map, List.map_map]
    rw [mapM_eq_ok_iff, List.forall₂_map_left_iff, List.forall₂_same]
    exact fun d _ => dayOfTree_shortName d

private theorem apart (f : Frequency) : (record f).Apart := by
  cases f with
  | minute | daily | custom => exact List.pairwise_singleton _ _
  | hourly | weekly | monthly =>
    exact List.pairwise_pair.mpr
      (Record.Field.slots_apart (fun _ _ => rfl) (fun _ _ => rfl) fun _ _ _ => rfl)

/-- The member is not the tag, and its value passes the check. -/
def Untagged (m : String × Value) : Prop :=
  m.1 ≠ "frequency" ∧ m.2.tree.check nestingLimit = .ok ()

/-- The members beside the tag make the view. -/
structure Makes (ms : List (String × Value)) (v : View) : Prop where
  nodup : (ms.map Prod.fst).Nodup
  untagged : ∀ m ∈ ms, Untagged m
  ofMembers : (record v.frequency).ofMembers (memberTrees ms) none = .ok v

private theorem makes_members {v : View} {ms : List (String × Value)}
    (h : ReorderedMembers v.members ms) :
    Makes ms v := by
  cases v with
  | everyMinutes interval =>
    obtain ⟨_, rfl, hinterval⟩ := h.exists_single
    have hinterval := holds_word hinterval
    refine ⟨by simp, by simp [Untagged, hinterval.check], ?_⟩
    simp only [memberTrees, memberTree, Record.ofMembers]
    rw [Record.addMembers_slot rfl rfl hinterval.read]
    rfl
  | everyHours interval startingMinute =>
    obtain ⟨_, _, rfl, hinterval, hstarting⟩ := h.exists_pair
    have hinterval := holds_word hinterval
    have hstarting := holds_word hstarting
    refine ⟨by simp, by simp [Untagged, hinterval.check, hstarting.check], ?_⟩
    simp only [memberTrees, memberTree, Record.ofMembers]
    rw [Record.addMembers_slot rfl rfl hinterval.read,
      Record.addMembers_slot rfl rfl hstarting.read]
    rfl
  | daily time =>
    obtain ⟨_, rfl, htime⟩ := h.exists_single
    have htime := holds_time htime
    refine ⟨by simp, by simp [Untagged, htime.check], ?_⟩
    simp only [memberTrees, memberTree, Record.ofMembers]
    rw [Record.addMembers_slot rfl rfl htime.read]
    rfl
  | weekly time days =>
    obtain ⟨_, _, rfl, htime, hdays⟩ := h.exists_pair
    have htime := holds_time htime
    have hdays := holds_days hdays
    refine ⟨by simp, by simp [Untagged, htime.check, hdays.check], ?_⟩
    simp only [memberTrees, memberTree, Record.ofMembers]
    rw [Record.addMembers_slot rfl rfl htime.read, Record.addMembers_slot rfl rfl hdays.read]
    rfl
  | monthly time dayOfMonth =>
    obtain ⟨_, _, rfl, htime, hday⟩ := h.exists_pair
    have htime := holds_time htime
    have hday := holds_word hday
    refine ⟨by simp, by simp [Untagged, htime.check, hday.check], ?_⟩
    simp only [memberTrees, memberTree, Record.ofMembers]
    rw [Record.addMembers_slot rfl rfl htime.read, Record.addMembers_slot rfl rfl hday.read]
    rfl
  | custom expression =>
    obtain ⟨_, rfl, htext⟩ := h.exists_single
    have htext := holds_text htext
    refine ⟨by simp, by simp [Untagged, htext.check], ?_⟩
    simp only [memberTrees, memberTree, Record.ofMembers]
    rw [Record.addMembers_slot rfl rfl htext.read]
    rfl

private theorem tagOfTree_name (f : Frequency) : tagOfTree (Value.string f.name).tree = .ok f := by
  have hname : (Value.string f.name).tree.variantName (Frequency.all.map Frequency.name) =
      .ok f.name :=
    Tree.variantName_eq_ok_iff.mpr ⟨isString_quoted _, List.mem_map_of_mem f.mem_all⟩
  refine bind_eq_ok_iff.mpr ⟨_, hname, ?_⟩
  simp only [Frequency.ofName?_name]
  rfl

private theorem splitTag_untagged {ms : List (String × Value)} (h : ∀ m ∈ ms, Untagged m)
    (tag : Option Frequency) : splitTag tag (memberTrees ms) = .ok (tag, memberTrees ms) := by
  induction ms with
  | nil => rfl
  | cons m ms ih =>
    obtain ⟨name, v⟩ := m
    obtain ⟨⟨hname, hcheck⟩, hms⟩ := List.forall_mem_cons.mp h
    simp only [memberTrees, memberTree, splitTag, Tree.memberName, text_quoted, ofFault_ok, bind,
      Except.bind, if_neg hname, hcheck, ih hms]
    rfl

private theorem splitTag_tagged {as bs : List (String × Value)} (h : ∀ m ∈ as ++ bs, Untagged m)
    (f : Frequency) :
    splitTag none (memberTrees (as ++ ("frequency", .string f.name) :: bs)) =
      .ok (some f, memberTrees (as ++ bs)) := by
  induction as with
  | nil =>
    simp only [List.nil_append, memberTrees, memberTree, splitTag, Tree.memberName, text_quoted,
      ofFault_ok, bind, Except.bind, if_true, tagOfTree_name]
    exact splitTag_untagged h _
  | cons m as ih =>
    obtain ⟨name, v⟩ := m
    obtain ⟨⟨hname, hcheck⟩, has⟩ := List.forall_mem_cons.mp h
    simp only [List.cons_append, memberTrees, memberTree, splitTag, Tree.memberName, text_quoted,
      ofFault_ok, bind, Except.bind, if_neg hname, hcheck, ih has]
    rfl

private theorem ofTree_tagged {v : View} {ms as bs : List (String × Value)} (h : Makes ms v)
    (hperm : ms.Perm (as ++ bs)) :
    ofTree (Value.object (as ++ ("frequency", .string v.frequency.name) :: bs)).tree = .ok v := by
  have huntagged : ∀ m ∈ as ++ bs, Untagged m := fun m hm => h.untagged m (hperm.mem_iff.mpr hm)
  have hread := (apart v.frequency).ofMembers_perm hperm h.nodup h.ofMembers
  simp only [Value.tree, ofTree, splitTag_tagged huntagged, bind, Except.bind, hread]
  rfl

private theorem ofTree_of_reordered {v : View} {w : Value} (h : v.toJson.Reordered w) :
    ofTree w.tree = .ok v := by
  obtain ⟨ms, ns, rfl, hms, hperm⟩ := h.exists_members
  -- The tag may stand anywhere among the members; what is left of them are the fields.
  obtain ⟨⟩ | ⟨_, htag, hms⟩ := hms
  rw [htag.string_eq] at hperm
  obtain ⟨as, bs, rfl⟩ := List.append_of_mem (hperm.subset List.mem_cons_self)
  exact ofTree_tagged (makes_members hms) (hperm.trans List.perm_middle).cons_inv

/-- A view is decoded from its own text as it was. The text says its frequency and nothing else
under that name, and the members of its objects may be written in any other order. -/
theorem ofJson_reordered (v : View) (l : Layout) :
    ofJson (v.toJson.render l) = .ok v ∧
      (∃ ms, Value.ofText? (v.toJson.render l) = some (.object ms) ∧
        ∀ u, ("frequency", u) ∈ ms ↔ u = .string v.frequency.name) ∧
      ∀ w, v.toJson.Reordered w → ofJson (w.render l) = .ok v := by
  have hnone : "".toList.all isSpace = true := rfl
  have hread (w : Value) (h : v.toJson.Reordered w) : ofJson (w.render l) = .ok v := by
    have htext := decodeText_render ofTree w l hnone
    rw [String.append_empty] at htext
    rw [ofJson, htext, ofTree_of_reordered h]
  refine ⟨hread _ (.same _), ⟨_, Value.ofText?_render v.toJson l, fun u => ?_⟩, hread⟩
  have hms : ("frequency", u) ∉ v.members := fun hm =>
    ((makes_members (.refl v.members)).untagged _ hm).1 rfl
  simp [hms]

theorem ofJson_reordered_tagLast :
    let v : View := .weekly ⟨9, 30⟩ [.sun, .mon, .sun]
    let w : Value := .object
      [("days", .array [.string "Sun", .string "Mon", .string "Sun"]),
        ("time", .object [("minute", .number 30), ("hour", .number 9)]),
        ("frequency", .string "weekly")]
    v.toJson.Reordered w ∧ ofJson (w.render .compact) = .ok v := by
  intro v w
  have htime : (TimeOfDay.toJson ⟨9, 30⟩).Reordered
      (.object [("minute", .number 30), ("hour", .number 9)]) :=
    .object (.refl _) (.swap _ _ _)
  have hmembers := ReorderedMembers.cons "frequency" (.same (.string "weekly"))
    (.cons "time" htime
      (.cons "days" (.same (.array [.string "Sun", .string "Mon", .string "Sun"])) .nil))
  have hw : v.toJson.Reordered w := .object hmembers (List.reverse_perm _).symm
  exact ⟨hw, (ofJson_reordered v .compact).2.2 w hw⟩

end View
end Recurrence
