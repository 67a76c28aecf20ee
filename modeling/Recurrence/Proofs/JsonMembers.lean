import Mathlib.Data.List.Pairwise
import Recurrence.Json.Record
import Recurrence.Proofs.JsonMeaning

/-!
# The members of a record

A record takes each field from the member of that name, of which there may be one at most. The order
of the members makes no difference to it, nor do members of other names.
-/
namespace Recurrence.Json

/-- The members say their names, none of which has a surrogate without partner. -/
def Named (raw : List (Tree × Tree)) (ms : List (String × Tree)) : Prop :=
  List.Forall₂ (fun r m => r.1.IsString m.1 ∧ r.2 = m.2) raw ms

/-- The text is a JSON object with these members, in this order. -/
def IsObject (s : String) (ms : List (String × Tree)) : Prop :=
  ∃ raw, IsText s (.object raw none) ∧ Named raw ms

private theorem named_memberTrees (ms : List (String × Value)) :
    Named (memberTrees ms) (ms.map fun m => (m.1, m.2.tree)) := by
  induction ms with
  | nil => exact .nil
  | cons m ms ih =>
    obtain ⟨name, v⟩ := m
    rw [memberTrees, memberTree]
    exact .cons ⟨isString_quoted name, rfl⟩ ih

/-- The values that stand under a name. -/
def given (ms : List (String × Tree)) (name : String) : List Tree :=
  (ms.filter fun m => m.1 = name).map Prod.snd

private theorem given_cons_self (ms : List (String × Tree)) (name : String) (t : Tree) :
    given ((name, t) :: ms) name = t :: given ms name := by
  simp [given]

private theorem given_cons_ne {name name' : String} (h : name' ≠ name) (ms : List (String × Tree))
    (t : Tree) : given ((name', t) :: ms) name = given ms name := by
  simp [given, h]

/-- Members of other names can be added and taken away, and the order of the members can change. -/
theorem perm_given {names : List String} {ms ms' : List (String × Tree)}
    (h : (ms.filter (·.1 ∈ names)).Perm (ms'.filter (·.1 ∈ names))) {name : String}
    (hname : name ∈ names) : (given ms name).Perm (given ms' name) := by
  have hkept (ms : List (String × Tree)) :
      given (ms.filter (·.1 ∈ names)) name = given ms name := by
    rw [given, given, List.filter_filter]
    refine congrArg _ (List.filter_congr fun m _ => ?_)
    by_cases hm : m.1 = name <;> simp [hm, hname]
  rw [← hkept ms, ← hkept ms']
  exact (h.filter _).map _

/-- What the values under a name make of the content of a field: nothing if there is none, and one
value fills the field if it is empty. -/
inductive Fills {β : Type} (read : Tree → Decoded β) : List Tree → Option β → Option β → Prop where
  | absent (o : Option β) : Fills read [] o o
  | once {t : Tree} {b : β} (h : read t = .ok b) : Fills read [t] none (some b)

theorem IsText.forall_skip {s : String} {raw : List (Tree × Tree)} {ms : List (String × Tree)}
    (h : IsText s (.object raw none)) (hraw : Named raw ms) : ∀ m ∈ ms, m.2.skip = .ok () := by
  have hskips : (Tree.object raw none).skip = .ok () := h.skips
  rw [Tree.skip] at hskips
  obtain ⟨_, hmembers, -⟩ := bind_eq_ok_iff.mp hskips
  clear h hskips
  induction hraw with
  | nil => simp
  | @cons r m raw ms hm _ ih =>
    obtain ⟨⟨ps, hkey, -⟩, hvalue⟩ := hm
    rw [Tree.skipMembers] at hmembers
    obtain ⟨_, hmember, hrest⟩ := bind_eq_ok_iff.mp hmembers
    obtain ⟨key, t⟩ := r
    subst hkey hvalue
    rw [Tree.skipMember] at hmember
    obtain ⟨_, -, hskip⟩ := bind_eq_ok_iff.mp hmember
    exact List.forall_mem_cons.mpr ⟨hskip, ih hrest⟩

/-- The only value says `b`, or there is no value and `b` is the default `a`. -/
inductive SaysOr {β : Type} (Says : Tree → β → Prop) (a : β) : List Tree → β → Prop where
  | given {t : Tree} {b : β} (h : Says t b) : SaysOr Says a [t] b
  | absent : SaysOr Says a [] a

section
variable {β : Type} {Says : Tree → β → Prop} {a b : β} {ts ts' : List Tree}

theorem SaysOr.length_le (h : SaysOr Says a ts b) : ts.length ≤ 1 := by
  cases h <;> simp

theorem SaysOr.forall_exists (h : SaysOr Says a ts b) : ∀ t ∈ ts, ∃ b, Says t b := by
  cases h with
  | given hb => simpa using ⟨b, hb⟩
  | absent => simp

theorem exists_saysOr (a : β) (hlength : ts.length ≤ 1) (h : ∀ t ∈ ts, ∃ b, Says t b) :
    ∃ b, SaysOr Says a ts b := by
  match ts, hlength with
  | [], _ => exact ⟨a, .absent⟩
  | [t], _ =>
    obtain ⟨b, hb⟩ := h t List.mem_cons_self
    exact ⟨b, .given hb⟩

theorem SaysOr.perm (h : SaysOr Says a ts b) (hperm : ts.Perm ts') :
    SaysOr Says a ts' b := by
  cases h with
  | given hb =>
    obtain rfl := List.singleton_perm.mp hperm
    exact .given hb
  | absent =>
    obtain rfl := List.nil_perm.mp hperm
    exact .absent

variable {read : Tree → Decoded β} {o : Option β}

theorem Fills.getD_eq_iff (h : Fills read ts none o) (hread : ∀ t b, read t = .ok b ↔ Says t b) :
    o.getD a = b ↔ SaysOr Says a ts b := by
  cases h with
  | absent =>
    constructor
    · rintro rfl
      exact .absent
    · rintro ⟨⟩
      rfl
  | once h =>
    constructor
    · rintro rfl
      exact .given ((hread _ _).mp h)
    · rintro ⟨hb⟩
      exact Except.ok.inj (h.symm.trans ((hread _ _).mpr hb))

theorem Fills.eq_some_iff (h : Fills read ts none o) (hread : ∀ t b, read t = .ok b ↔ Says t b) :
    o = some b ↔ ∃ t, ts = [t] ∧ Says t b := by
  cases h with
  | absent => simp
  | once h => simp [← hread, h]

theorem SaysOr.exists_fills (h : SaysOr Says a ts b)
    (hread : ∀ t b, read t = .ok b ↔ Says t b) : ∃ o, Fills read ts none o := by
  cases h with
  | given h => exact ⟨_, .once ((hread _ _).mpr h)⟩
  | absent => exact ⟨_, .absent none⟩

end

namespace Record

variable {σ α β : Type} {r : Record σ α} {ms : List (String × Tree)} {s s' : σ}

/-- Collects the members one by one. -/
def collect (r : Record σ α) (s : σ) (ms : List (String × Tree)) : Decoded σ :=
  ms.foldlM (fun s m => r.addMember s m.1 m.2) s

private theorem addMembers_eq_collect {raw : List (Tree × Tree)} (h : Named raw ms) (s : σ) :
    r.addMembers s raw = r.collect s ms := by
  induction h generalizing s with
  | nil => rfl
  | @cons a m raw ms hm _ ih =>
    obtain ⟨key, t⟩ := a
    obtain ⟨name, t'⟩ := m
    obtain ⟨hname, rfl⟩ := hm
    have hname : key.memberName = .ok name := Tree.memberName_eq_ok_iff.mpr hname
    simp only [addMembers, collect, List.foldlM_cons, hname]
    exact bind_congr fun s => ih s

theorem ofMembers_eq_ok_iff {raw : List (Tree × Tree)} (h : Named raw ms) {a : α} :
    r.ofMembers raw none = .ok a ↔ ∃ s, r.collect r.start ms = .ok s ∧ r.finish s = .ok a := by
  rw [ofMembers, addMembers_eq_collect h, bind_eq_ok_iff]
  refine exists_congr fun s => and_congr_right fun _ => ?_
  cases r.finish s <;> simp [ofFault, noFault, Except.mapError, bind, Except.bind]

private theorem addMember_unknown {name : String}
    (hfind : r.fields.find? (fun f => f.name == name) = none)
    {t : Tree} : r.addMember s name t = .ok s' ↔ t.skip = .ok () ∧ s = s' := by
  rw [addMember, hfind]
  cases t.skip <;> simp [ofFault, Except.mapError, Except.map]

private theorem addMember_known {name : String} {f : Field σ}
    (hfind : r.fields.find? (fun f => f.name == name) = some f) {t : Tree} :
    r.addMember s name t = .ok s' ↔ f.isGiven s = false ∧ f.read t s = .ok s' := by
  rw [addMember, hfind]
  cases hgiven : f.isGiven s <;> simp [hgiven, mismatch]

/-- A field is a part of the state that reading it sets and that the other fields leave alone. -/
structure Slot (r : Record σ α) (name : String) (get : σ → Option β) (read : Tree → Decoded β) :
    Prop where
  exists_set : ∃ set, r.fields.find? (fun f => f.name == name) = some (.slot name get set read) ∧
    ∀ s b, get (set s b) = some b
  get_of_ne : ∀ f ∈ r.fields, f.name ≠ name → ∀ t s s', f.read t s = .ok s' → get s' = get s

section
variable {name : String} {get : σ → Option β} {read : Tree → Decoded β} {t : Tree}

private theorem Slot.addMember_self (h : r.Slot name get read)
    (hadd : r.addMember s name t = .ok s') :
    get s = none ∧ ∃ b, read t = .ok b ∧ get s' = some b := by
  obtain ⟨set, hfind, hget⟩ := h.exists_set
  obtain ⟨hnone, hread⟩ := (addMember_known hfind).mp hadd
  obtain ⟨b, hb, rfl⟩ := map_eq_ok_iff.mp hread
  exact ⟨by simpa [Field.slot] using hnone, b, hb, hget s b⟩

private theorem Slot.exists_addMember_self (h : r.Slot name get read) (hnone : get s = none) {b : β}
    (hb : read t = .ok b) : ∃ s', r.addMember s name t = .ok s' := by
  obtain ⟨set, hfind, -⟩ := h.exists_set
  have hempty : (get s).isSome = false := by rw [hnone]; rfl
  exact ⟨set s b, (addMember_known hfind).mpr ⟨hempty, map_eq_ok_iff.mpr ⟨b, hb, rfl⟩⟩⟩

private theorem Slot.addMember_of_ne (h : r.Slot name get read) {name' : String}
    (hne : name' ≠ name)
    (hadd : r.addMember s name' t = .ok s') : get s' = get s := by
  cases hfind : r.fields.find? (fun f => f.name == name') with
  | none =>
    obtain ⟨-, rfl⟩ := (addMember_unknown hfind).mp hadd
    rfl
  | some f =>
    obtain ⟨-, hread⟩ := (addMember_known hfind).mp hadd
    have hname := List.find?_some hfind
    obtain rfl : f.name = name' := beq_iff_eq.mp hname
    exact h.get_of_ne f (List.mem_of_find?_eq_some hfind) hne t s s' hread

theorem Slot.fills (h : r.Slot name get read) (hcollect : r.collect s ms = .ok s') :
    Fills read (given ms name) (get s) (get s') := by
  induction ms generalizing s with
  | nil =>
    obtain rfl := Except.ok.inj hcollect
    exact .absent _
  | cons m ms ih =>
    obtain ⟨name', t⟩ := m
    obtain ⟨s₁, hadd, hrest⟩ := bind_eq_ok_iff.mp hcollect
    have hfills := ih hrest
    by_cases hname : name' = name
    · subst hname
      obtain ⟨hnone, b, hb, hsome⟩ := h.addMember_self hadd
      rw [hsome] at hfills
      rw [given_cons_self, hnone]
      generalize given ms name' = ts at hfills
      generalize get s' = o at hfills
      cases hfills with
      | absent => exact .once hb
    · rw [given_cons_ne hname]
      rwa [h.addMember_of_ne hname hadd] at hfills

end

/-- A field of the record that the values under its name fill. -/
def Filled (r : Record σ α) (s : σ) (ms : List (String × Tree)) (f : Field σ) : Prop :=
  ∃ (β : Type) (get : σ → Option β) (read : Tree → Decoded β),
    r.Slot f.name get read ∧ ∃ o, Fills read (given ms f.name) (get s) o

private theorem Filled.tail {m : String × Tree} {f : Field σ} (h : r.Filled s (m :: ms) f)
    (hadd : r.addMember s m.1 m.2 = .ok s') : r.Filled s' ms f := by
  obtain ⟨name, t⟩ := m
  obtain ⟨β, get, read, hslot, o, hfills⟩ := h
  refine ⟨β, get, read, hslot, ?_⟩
  by_cases hname : name = f.name
  · subst hname
    rw [given_cons_self] at hfills
    generalize given ms f.name = ts at hfills ⊢
    generalize get s = content at hfills
    cases hfills with
    | once hb => exact ⟨_, .absent _⟩
  · rw [given_cons_ne hname] at hfills
    rw [hslot.addMember_of_ne hname hadd]
    exact ⟨o, hfills⟩

/-- Members are collected if each field is filled by what stands under its name and all others can
be passed over. -/
theorem exists_collect (hfields : ∀ f ∈ r.fields, r.Filled s ms f)
    (hskip : ∀ m ∈ ms, m.2.skip = .ok ()) : ∃ s', r.collect s ms = .ok s' := by
  induction ms generalizing s with
  | nil => exact ⟨s, rfl⟩
  | cons m ms ih =>
    obtain ⟨s₁, hadd⟩ : ∃ s₁, r.addMember s m.1 m.2 = .ok s₁ := by
      cases hfind : r.fields.find? (fun f => f.name == m.1) with
      | none => exact ⟨s, (addMember_unknown hfind).mpr ⟨hskip m List.mem_cons_self, rfl⟩⟩
      | some f =>
        obtain ⟨name, t⟩ := m
        have hname := List.find?_some hfind
        obtain rfl : f.name = name := beq_iff_eq.mp hname
        obtain ⟨β, get, read, hslot, o, hfills⟩ := hfields f (List.mem_of_find?_eq_some hfind)
        rw [given_cons_self] at hfills
        generalize given ms f.name = ts at hfills
        generalize hs : get s = content at hfills
        cases hfills with
        | once hb => exact hslot.exists_addMember_self hs hb
    obtain ⟨s', hs'⟩ := ih (fun f hf => (hfields f hf).tail hadd)
      fun m hm => hskip m (List.mem_cons_of_mem _ hm)
    exact ⟨s', bind_eq_ok_iff.mpr ⟨s₁, hadd, hs'⟩⟩

section
variable {name : String} {get : σ → Option β} {set : σ → β → σ} {read : Tree → Decoded β}
  {t : Tree} {b : β}

theorem addMembers_slot
    (hfind : r.fields.find? (fun f => f.name == name) = some (.slot name get set read))
    (hnone : get s = none) (hread : read t = .ok b) (ms : List (Tree × Tree)) :
    r.addMembers s ((.string (quoted name), t) :: ms) = r.addMembers (set s b) ms := by
  have hadd : r.addMember s name t = .ok (set s b) := by
    simp only [addMember, hfind, Field.slot, hnone, hread, Option.isSome_none]
    rfl
  simp only [addMembers, Tree.memberName, text_quoted, ofFault_ok, bind, Except.bind, hadd]

end

/-- Reading `f` has no bearing on whether `g` is given, and what is read of `f` and then of `g` can
be read the other way round. -/
structure Field.YieldsTo (f g : Field σ) : Prop where
  isGiven_eq : ∀ t s s', f.read t s = .ok s' → g.isGiven s' = g.isGiven s
  exists_swap : ∀ t u s s₁ s₂, f.read t s = .ok s₁ → g.read u s₁ = .ok s₂ →
    ∃ s₃, g.read u s = .ok s₃ ∧ f.read t s₃ = .ok s₂

/-- No field of the record is in the way of another. -/
def Apart (r : Record σ α) : Prop := r.fields.Pairwise fun f g => f.YieldsTo g ∧ g.YieldsTo f

section
variable {γ : Type} {name name' : String} {get : σ → Option β} {get' : σ → Option γ}
  {set : σ → β → σ} {set' : σ → γ → σ} {read : Tree → Decoded β} {read' : Tree → Decoded γ}

private theorem Field.slot_yieldsTo (hget : ∀ s b, get' (set s b) = get' s)
    (hset : ∀ s b c, set' (set s b) c = set (set' s c) b) :
    (Field.slot name get set read).YieldsTo (.slot name' get' set' read') where
  isGiven_eq := by
    intro t s s' h
    obtain ⟨b, -, rfl⟩ := map_eq_ok_iff.mp h
    simp only [Field.slot, hget]
  exists_swap := by
    intro t u s s₁ s₂ hf hg
    obtain ⟨b, hb, rfl⟩ := map_eq_ok_iff.mp hf
    obtain ⟨c, hc, rfl⟩ := map_eq_ok_iff.mp hg
    exact ⟨set' s c, map_eq_ok_iff.mpr ⟨c, hc, rfl⟩, map_eq_ok_iff.mpr ⟨b, hb, (hset s b c).symm⟩⟩

/-- Two slots are apart if each leaves the content of the other alone and they can be set in either
order. -/
theorem Field.slots_apart (hget : ∀ s b, get' (set s b) = get' s)
    (hget' : ∀ s c, get (set' s c) = get s) (hset : ∀ s b c, set' (set s b) c = set (set' s c) b) :
    (Field.slot name get set read).YieldsTo (.slot name' get' set' read') ∧
      (Field.slot name' get' set' read').YieldsTo (.slot name get set read) :=
  ⟨slot_yieldsTo hget hset, slot_yieldsTo hget' fun s c b => (hset s b c).symm⟩

end

private theorem Apart.yieldsTo (h : r.Apart) {f g : Field σ} (hf : f ∈ r.fields) (hg : g ∈ r.fields)
    (hne : f ≠ g) : f.YieldsTo g ∧ g.YieldsTo f := by
  have : Std.Symm fun f g : Field σ => f.YieldsTo g ∧ g.YieldsTo f := ⟨fun _ _ => And.symm⟩
  exact List.Pairwise.forall h hf hg hne

private theorem Apart.exists_addMember_swap (h : r.Apart) {m n : String × Tree} (hne : m.1 ≠ n.1)
    {s₁ s₂ : σ} (hm : r.addMember s m.1 m.2 = .ok s₁) (hn : r.addMember s₁ n.1 n.2 = .ok s₂) :
    ∃ s₃, r.addMember s n.1 n.2 = .ok s₃ ∧ r.addMember s₃ m.1 m.2 = .ok s₂ := by
  cases hfind : r.fields.find? (fun f => f.name == m.1) with
  | none =>
    obtain ⟨hskip, rfl⟩ := (addMember_unknown hfind).mp hm
    exact ⟨s₂, hn, (addMember_unknown hfind).mpr ⟨hskip, rfl⟩⟩
  | some f =>
    cases hfind' : r.fields.find? (fun f => f.name == n.1) with
    | none =>
      obtain ⟨hskip, rfl⟩ := (addMember_unknown hfind').mp hn
      exact ⟨s, (addMember_unknown hfind').mpr ⟨hskip, rfl⟩, hm⟩
    | some g =>
      obtain ⟨hf, hread⟩ := (addMember_known hfind).mp hm
      obtain ⟨hg, hread'⟩ := (addMember_known hfind').mp hn
      have hf_name := List.find?_some hfind
      have hg_name := List.find?_some hfind'
      have hfields : f ≠ g := by
        rintro rfl
        exact hne ((beq_iff_eq.mp hf_name).symm.trans (beq_iff_eq.mp hg_name))
      obtain ⟨hfg, hgf⟩ :=
        h.yieldsTo (List.mem_of_find?_eq_some hfind) (List.mem_of_find?_eq_some hfind') hfields
      obtain ⟨s₃, hs₃, hs₂⟩ := hfg.exists_swap _ _ _ _ _ hread hread'
      rw [hfg.isGiven_eq _ _ _ hread] at hg
      rw [← hgf.isGiven_eq _ _ _ hs₃] at hf
      exact ⟨s₃, (addMember_known hfind').mpr ⟨hg, hs₃⟩, (addMember_known hfind).mpr ⟨hf, hs₂⟩⟩

private theorem Apart.collect_perm (h : r.Apart) {ns : List (String × Tree)} (hperm : ms.Perm ns)
    (hnodup : (ms.map Prod.fst).Nodup) (hcollect : r.collect s ms = .ok s') :
    r.collect s ns = .ok s' := by
  induction hperm generalizing s with
  | nil => exact hcollect
  | cons m _ ih =>
    obtain ⟨s₁, hm, hrest⟩ := bind_eq_ok_iff.mp hcollect
    exact bind_eq_ok_iff.mpr ⟨s₁, hm, ih hnodup.of_cons hrest⟩
  | swap m n ms =>
    obtain ⟨s₁, hn, hcollect⟩ := bind_eq_ok_iff.mp hcollect
    obtain ⟨s₂, hm, hrest⟩ := bind_eq_ok_iff.mp hcollect
    have hne : n.1 ≠ m.1 := by
      rintro heq
      simp [heq] at hnodup
    obtain ⟨s₃, hm, hn⟩ := h.exists_addMember_swap hne hn hm
    exact bind_eq_ok_iff.mpr ⟨s₃, hm, bind_eq_ok_iff.mpr ⟨s₂, hn, hrest⟩⟩
  | trans hperm _ ih ih' =>
    exact ih' ((hperm.map Prod.fst).nodup_iff.mp hnodup) (ih hnodup hcollect)

theorem Apart.ofMembers_perm (h : r.Apart) {ms ns : List (String × Value)}
    (hperm : ms.Perm ns) (hnodup : (ms.map Prod.fst).Nodup) {a : α}
    (hread : r.ofMembers (memberTrees ms) none = .ok a) :
    r.ofMembers (memberTrees ns) none = .ok a := by
  obtain ⟨s, hcollect, hfinish⟩ := (ofMembers_eq_ok_iff (named_memberTrees ms)).mp hread
  refine (ofMembers_eq_ok_iff (named_memberTrees ns)).mpr ⟨s, ?_, hfinish⟩
  exact h.collect_perm (hperm.map _) (by rwa [List.map_map]) hcollect

end Record
end Recurrence.Json
