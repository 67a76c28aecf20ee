import Mathlib.Data.List.Forall2

/-!
# Reading that may fail

When a reader succeeds that is made of others: one behind the other, one of which the result is
changed, or one that is tried on each element of a list.
-/
namespace Recurrence

variable {ε α β : Type} {read : α → Except ε β} {as : List α}

theorem bind_eq_ok_iff {r : Except ε α} {f : α → Except ε β} {b : β} :
    r >>= f = .ok b ↔ ∃ a, r = .ok a ∧ f a = .ok b := by
  cases r <;> simp [bind, Except.bind]

theorem map_eq_ok_iff {f : α → β} {r : Except ε α} {b : β} :
    f <$> r = .ok b ↔ ∃ a, r = .ok a ∧ f a = b := by
  cases r <;> simp [Functor.map, Except.map]

theorem map_eq_error_iff {f : α → β} {r : Except ε α} {e : ε} :
    f <$> r = .error e ↔ r = .error e := by
  cases r <;> simp [Functor.map, Except.map]

theorem toOption_eq_some_iff {r : Except ε α} {a : α} : r.toOption = some a ↔ r = .ok a := by
  cases r <;> simp [Except.toOption]

theorem mapM_eq_ok_iff {bs : List β} :
    as.mapM read = .ok bs ↔ List.Forall₂ (fun a b => read a = .ok b) as bs := by
  induction as generalizing bs with
  | nil =>
    rw [List.mapM_nil, List.forall₂_nil_left_iff]
    exact ⟨fun h => (Except.ok.inj h).symm, fun h => congrArg Except.ok h.symm⟩
  | cons a as ih =>
    rw [List.mapM_cons, List.forall₂_cons_left_iff]
    constructor
    · intro h
      cases ha : read a with
      | error e => simp [ha, bind, Except.bind] at h
      | ok b =>
        cases has : as.mapM read with
        | error e => simp [ha, has, bind, Except.bind] at h
        | ok cs =>
          rw [ha, has] at h
          exact ⟨b, cs, rfl, ih.mp has, (Except.ok.inj h).symm⟩
    · rintro ⟨b, cs, ha, has, rfl⟩
      rw [ha, ih.mpr has]
      rfl

theorem forall_exists_of_mapM {bs : List β} (h : as.mapM read = .ok bs) :
    ∀ a ∈ as, ∃ b, read a = .ok b := by
  rw [mapM_eq_ok_iff] at h
  induction h with
  | nil => simp
  | cons ha _ ih => exact List.forall_mem_cons.mpr ⟨⟨_, ha⟩, ih⟩

theorem mem_iff_of_mapM {bs : List β} (h : as.mapM read = .ok bs) (b : β) :
    b ∈ bs ↔ ∃ a ∈ as, read a = .ok b := by
  rw [mapM_eq_ok_iff] at h
  induction h with
  | nil => simp
  | cons ha _ ih => rw [List.mem_cons, List.exists_mem_cons_iff, ih, ha, Except.ok.injEq, eq_comm]

theorem mapM_eq_error_iff {e : ε} :
    as.mapM read = .error e ↔
      ∃ front a back, as = front ++ a :: back ∧ (∀ x ∈ front, ∃ b, read x = .ok b) ∧
        read a = .error e := by
  induction as with
  | nil =>
    constructor
    · intro h
      contradiction
    · rintro ⟨front, a, back, h, -⟩
      simp at h
  | cons a as ih =>
    have hrest (b : β) (ha : read a = .ok b) :
        (a :: as).mapM read = .error e ↔ as.mapM read = .error e := by
      rw [List.mapM_cons, ha]
      cases has : as.mapM read <;> simp [bind, Except.bind, pure, Except.pure]
    constructor
    · intro h
      cases ha : read a with
      | error e' =>
        rw [List.mapM_cons, ha] at h
        obtain rfl := Except.error.inj h
        exact ⟨[], a, as, rfl, nofun, ha⟩
      | ok b =>
        obtain ⟨front, c, back, rfl, hfront, hc⟩ := ih.mp ((hrest b ha).mp h)
        exact ⟨a :: front, c, back, rfl, List.forall_mem_cons.mpr ⟨⟨b, ha⟩, hfront⟩, hc⟩
    · rintro ⟨front, c, back, happend, hfront, hc⟩
      cases front with
      | nil =>
        obtain ⟨rfl, rfl⟩ := List.cons.inj happend
        rw [List.mapM_cons, hc]
        rfl
      | cons x front =>
        obtain ⟨rfl, rfl⟩ := List.cons.inj happend
        obtain ⟨⟨b, ha⟩, hfront⟩ := List.forall_mem_cons.mp hfront
        exact (hrest b ha).mpr (ih.mpr ⟨front, c, back, rfl, hfront, hc⟩)

theorem exists_mapM_of_forall (h : ∀ a ∈ as, ∃ b, read a = .ok b) :
    ∃ bs, as.mapM read = .ok bs := by
  cases hbs : as.mapM read with
  | ok bs => exact ⟨bs, rfl⟩
  | error e =>
    obtain ⟨front, a, back, rfl, -, ha⟩ := mapM_eq_error_iff.mp hbs
    obtain ⟨b, hb⟩ := h a (by simp)
    rw [ha] at hb
    contradiction

end Recurrence
