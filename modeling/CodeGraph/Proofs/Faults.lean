import Mathlib.Data.List.Basic

/-! What lies behind the result of a computation that may end with a fault. -/
namespace CodeGraph

variable {ε α β : Type}

theorem bind_eq_ok_iff {x : Except ε α} {f : α → Except ε β} {b : β} :
    (x >>= f) = .ok b ↔ ∃ a, x = .ok a ∧ f a = .ok b := by
  cases x with
  | error fault => exact iff_of_false nofun (by simp)
  | ok a => exact ⟨fun h => ⟨a, rfl, h⟩, fun ⟨_, ha, h⟩ => Except.ok.inj ha ▸ h⟩

/-- For results that can be compared where faults cannot. -/
theorem eq_ok_of_toOption {x : Except ε α} {a : α} (h : x.toOption = some a) : x = .ok a := by
  cases x with
  | error fault => cases h
  | ok b => exact congrArg Except.ok (Option.some.inj h)

theorem mapError_eq_ok_iff {ε' : Type} {x : Except ε α} {f : ε → ε'} {a : α} :
    x.mapError f = .ok a ↔ x = .ok a := by
  cases x with
  | error fault => exact iff_of_false nofun nofun
  | ok b => exact ⟨fun h => congrArg _ (Except.ok.inj h), fun h => congrArg _ (Except.ok.inj h)⟩

theorem mapM_map_eq_ok_map {γ : Type} {write : α → β} {read : β → Except ε γ} {f : α → γ}
    {items : List α} (h : ∀ a ∈ items, read (write a) = .ok (f a)) :
    (items.map write).mapM read = .ok (items.map f) := by
  induction items with
  | nil => rfl
  | cons a items ih =>
    rw [List.map_cons, List.mapM_cons, h a List.mem_cons_self,
      ih fun b hb => h b (List.mem_cons_of_mem _ hb)]
    rfl

/-- Items that are read back one by one from what was written of each. -/
theorem mapM_map_eq_ok {write : α → β} {read : β → Except ε α} {items : List α}
    (h : ∀ a ∈ items, read (write a) = .ok a) : (items.map write).mapM read = .ok items := by
  rw [mapM_map_eq_ok_map (f := id) h, List.map_id]

theorem exists_of_mapM_eq_ok {read : α → Except ε β} {items : List α} {found : List β}
    (h : items.mapM read = .ok found) : ∀ b ∈ found, ∃ a ∈ items, read a = .ok b := by
  induction items generalizing found with
  | nil =>
    obtain rfl : [] = found := Except.ok.inj h
    simp
  | cons a items ih =>
    rw [List.mapM_cons, bind_eq_ok_iff] at h
    obtain ⟨b, hb, h⟩ := h
    obtain ⟨rest, hrest, h⟩ := bind_eq_ok_iff.mp h
    obtain rfl : b :: rest = found := Except.ok.inj h
    intro c hc
    rcases List.mem_cons.mp hc with rfl | hc
    · exact ⟨a, List.mem_cons_self, hb⟩
    · obtain ⟨a', ha', hread⟩ := ih hrest c hc
      exact ⟨a', List.mem_cons_of_mem _ ha', hread⟩

theorem mem_of_mapM_eq_ok {read : α → Except ε β} {items : List α} {found : List β}
    (h : items.mapM read = .ok found) {a : α} (ha : a ∈ items) {b : β} (hb : read a = .ok b) :
    b ∈ found := by
  induction items generalizing found with
  | nil => cases ha
  | cons a' items ih =>
    rw [List.mapM_cons, bind_eq_ok_iff] at h
    obtain ⟨b', hb', h⟩ := h
    obtain ⟨rest, hrest, h⟩ := bind_eq_ok_iff.mp h
    obtain rfl : b' :: rest = found := Except.ok.inj h
    rcases List.mem_cons.mp ha with rfl | ha
    · obtain rfl := Except.ok.inj (hb.symm.trans hb')
      exact List.mem_cons_self
    · exact List.mem_cons_of_mem _ (ih hrest ha)

theorem ok_of_mapM_eq_ok {read : α → Except ε β} {items : List α} {found : List β}
    (h : items.mapM read = .ok found) : ∀ a ∈ items, ∃ b, read a = .ok b := by
  induction items generalizing found with
  | nil => simp
  | cons a items ih =>
    rw [List.mapM_cons, bind_eq_ok_iff] at h
    obtain ⟨b, hb, h⟩ := h
    obtain ⟨rest, hrest, -⟩ := bind_eq_ok_iff.mp h
    exact List.forall_mem_cons.mpr ⟨⟨b, hb⟩, ih hrest⟩

theorem exists_of_mapM_eq_error {read : α → Except ε β} {items : List α} {fault : ε}
    (h : items.mapM read = .error fault) : ∃ a ∈ items, read a = .error fault := by
  induction items with
  | nil => cases h
  | cons a items ih =>
    rw [List.mapM_cons] at h
    cases ha : read a with
    | error fault' =>
      rw [ha] at h
      obtain rfl : fault' = fault := Except.error.inj h
      exact ⟨a, List.mem_cons_self, ha⟩
    | ok b =>
      cases hrest : items.mapM read with
      | ok rest =>
        rw [ha, hrest] at h
        cases h
      | error fault' =>
        rw [ha, hrest] at h
        obtain ⟨a', ha', hread⟩ := ih (hrest.trans h)
        exact ⟨a', List.mem_cons_of_mem _ ha', hread⟩

end CodeGraph
