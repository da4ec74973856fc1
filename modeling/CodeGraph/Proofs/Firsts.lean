import Mathlib.Data.List.Nodup

/-! Lists that keep the first item of each key, in order of arrival. -/
namespace CodeGraph

section

variable {α β : Type} [DecidableEq β] (key : α → β)

/-- The known items, then every further one whose key is new. -/
def addFirsts (known items : List α) : List α :=
  items.foldl (fun as a => if key a ∈ as.map key then as else as ++ [a]) known

@[simp] theorem addFirsts_nil (known : List α) : addFirsts key known [] = known := rfl

theorem addFirsts_append (known as bs : List α) :
    addFirsts key known (as ++ bs) = addFirsts key (addFirsts key known as) bs :=
  List.foldl_append

theorem addFirsts_cons (known : List α) (a : α) (as : List α) :
    addFirsts key known (a :: as) = addFirsts key (addFirsts key known [a]) as := rfl

theorem addFirsts_old {known : List α} {a : α} (h : key a ∈ known.map key) :
    addFirsts key known [a] = known := if_pos h

theorem addFirsts_new {known : List α} {a : α} (h : key a ∉ known.map key) :
    addFirsts key known [a] = known ++ [a] := if_neg h

theorem addFirsts_sublist (known items : List α) :
    (addFirsts key known items).Sublist (known ++ items) := by
  induction items generalizing known with
  | nil => simp
  | cons a as ih =>
    rw [addFirsts_cons]
    refine (ih _).trans ?_
    by_cases ha : key a ∈ known.map key
    · rw [addFirsts_old key ha]
      exact (List.Sublist.refl known).append (List.sublist_cons_self a as)
    · rw [addFirsts_new key ha, List.append_assoc]
      exact List.Sublist.refl _

theorem prefix_addFirsts (known items : List α) : known <+: addFirsts key known items := by
  induction items generalizing known with
  | nil => exact List.prefix_refl known
  | cons a as ih =>
    rw [addFirsts_cons]
    refine List.IsPrefix.trans ?_ (ih _)
    by_cases ha : key a ∈ known.map key
    · exact ⟨[], by rw [addFirsts_old key ha, List.append_nil]⟩
    · exact ⟨[a], (addFirsts_new key ha).symm⟩

theorem mem_map_addFirsts (known items : List α) (k : β) :
    k ∈ (addFirsts key known items).map key ↔ k ∈ known.map key ∨ k ∈ items.map key := by
  induction items generalizing known with
  | nil => simp
  | cons a as ih =>
    rw [addFirsts_cons, ih]
    by_cases ha : key a ∈ known.map key
    · rw [addFirsts_old key ha, List.map_cons, List.mem_cons]
      constructor
      · rintro (h | h)
        · exact Or.inl h
        · exact Or.inr (Or.inr h)
      · rintro (h | rfl | h)
        · exact Or.inl h
        · exact Or.inl ha
        · exact Or.inr h
    · rw [addFirsts_new key ha]
      simp only [List.map_append, List.map_cons, List.map_nil, List.mem_append, List.mem_cons,
        List.not_mem_nil, or_false, or_assoc]

theorem addFirsts_eq_nil_iff (items : List α) : addFirsts key [] items = [] ↔ items = [] := by
  refine ⟨fun h => ?_, fun h => by rw [h, addFirsts_nil]⟩
  rw [List.eq_nil_iff_forall_not_mem]
  intro a ha
  have hmem := (mem_map_addFirsts key [] items (key a)).mpr (Or.inr (List.mem_map_of_mem ha))
  rw [h] at hmem
  exact List.not_mem_nil hmem

theorem nodup_map_addFirsts {known : List α} (h : (known.map key).Nodup) (items : List α) :
    ((addFirsts key known items).map key).Nodup := by
  induction items generalizing known with
  | nil => exact h
  | cons a as ih =>
    rw [addFirsts_cons]
    apply ih
    by_cases ha : key a ∈ known.map key
    · rwa [addFirsts_old key ha]
    · rw [addFirsts_new key ha, List.map_append, List.nodup_append]
      refine ⟨h, List.nodup_singleton _, ?_⟩
      rintro k hk _ hb rfl
      exact ha (List.mem_singleton.mp hb ▸ hk)

/-- The item kept for a key is the first that has it. -/
theorem find?_addFirsts (known items : List α) (k : β) :
    (addFirsts key known items).find? (key · = k) =
      (known.find? (key · = k)).or (items.find? (key · = k)) := by
  induction items generalizing known with
  | nil => simp
  | cons a as ih =>
    rw [addFirsts_cons, ih]
    by_cases ha : key a ∈ known.map key
    · rw [addFirsts_old key ha]
      by_cases hk : key a = k
      · subst hk
        obtain ⟨b, hb, hab⟩ := List.mem_map.mp ha
        have hsome : (known.find? (key · = key a)).isSome :=
          List.find?_isSome.mpr ⟨b, hb, by simpa using hab⟩
        obtain ⟨c, hc⟩ := Option.isSome_iff_exists.mp hsome
        simp [hc]
      · simp [hk]
    · rw [addFirsts_new key ha, List.find?_append, Option.or_assoc]
      by_cases hk : key a = k <;> simp [hk]

/-- Where keys differ, looking for a key finds the item that has it. -/
theorem find?_key_eq_some_iff {items : List α} (h : (items.map key).Nodup) (k : β) (a : α) :
    items.find? (key · = k) = some a ↔ a ∈ items ∧ key a = k := by
  constructor
  · intro ha
    exact ⟨List.mem_of_find?_eq_some ha, by simpa using List.find?_some ha⟩
  · rintro ⟨ha, rfl⟩
    have hsome : (items.find? (key · = key a)).isSome :=
      List.find?_isSome.mpr ⟨a, ha, by simp⟩
    obtain ⟨b, hb⟩ := Option.isSome_iff_exists.mp hsome
    have hab : key b = key a := by simpa using List.find?_some hb
    rw [hb, List.inj_on_of_nodup_map h (List.mem_of_find?_eq_some hb) ha hab]

/-- Where keys differ, one item at most has a key, whatever else is asked of it. -/
theorem countP_key_eq {items : List α} (h : (items.map key).Nodup) {a : α} (ha : a ∈ items)
    (test : α → Bool) :
    items.countP (fun b => key b = key a && test b) = if test a then 1 else 0 := by
  obtain ⟨before, after, rfl⟩ := List.append_of_mem ha
  rw [List.map_append, List.map_cons, List.nodup_append, List.nodup_cons] at h
  obtain ⟨-, ⟨hafter, -⟩, hbefore⟩ := h
  have hleft : before.countP (fun b => key b = key a && test b) = 0 := by
    rw [List.countP_eq_zero]
    intro b hb
    have hne := hbefore (key b) (List.mem_map_of_mem hb) (key a) List.mem_cons_self
    simp [hne]
  have hright : after.countP (fun b => key b = key a && test b) = 0 := by
    rw [List.countP_eq_zero]
    intro b hb
    have hne : key b ≠ key a := fun heq => hafter (heq ▸ List.mem_map_of_mem hb)
    simp [hne]
  rw [List.countP_append, List.countP_cons, hleft, hright]
  simp

/-- An item with a new key is kept, whatever follows. -/
theorem mem_addFirsts_of_new {before after : List α} {a : α} (h : key a ∉ before.map key) :
    a ∈ addFirsts key [] (before ++ a :: after) := by
  have hnew : key a ∉ (addFirsts key [] before).map key := by
    rw [mem_map_addFirsts]
    simpa using h
  rw [addFirsts_append, addFirsts_cons, addFirsts_new key hnew]
  exact (prefix_addFirsts key _ after).subset (by simp)

theorem addFirsts_of_nodup {known items : List α} (h : ((known ++ items).map key).Nodup) :
    addFirsts key known items = known ++ items := by
  induction items generalizing known with
  | nil => simp
  | cons a as ih =>
    have hnew : key a ∉ known.map key := by
      rw [List.map_append, List.map_cons, List.nodup_append] at h
      exact fun hmem => h.2.2 (key a) hmem (key a) List.mem_cons_self rfl
    rw [List.append_cons] at h ⊢
    rw [addFirsts_cons, addFirsts_new key hnew, ih h]

theorem map_addFirsts (known items : List α) :
    (addFirsts key known items).map key = addFirsts id (known.map key) (items.map key) := by
  induction items generalizing known with
  | nil => rfl
  | cons a as ih =>
    rw [addFirsts_cons, ih, List.map_cons, addFirsts_cons id]
    by_cases ha : key a ∈ known.map key
    · rw [addFirsts_old key ha, addFirsts_old id (by simpa using ha)]
    · rw [addFirsts_new key ha, addFirsts_new id (by simpa using ha), List.map_append]
      rfl

theorem mem_addFirsts_nil_iff (items : List α) (a : α) :
    a ∈ addFirsts key [] items ↔ items.find? (key · = key a) = some a := by
  have hnodup : ((addFirsts key [] items).map key).Nodup :=
    nodup_map_addFirsts key (by simp) items
  have hfind := find?_addFirsts key [] items (key a)
  rw [List.find?_nil, Option.none_or] at hfind
  rw [← hfind, find?_key_eq_some_iff key hnodup]
  simp

end

section

variable {α : Type} [DecidableEq α]

theorem mem_addFirsts (known items : List α) (a : α) :
    a ∈ addFirsts id known items ↔ a ∈ known ∨ a ∈ items := by
  simpa using mem_map_addFirsts id known items a

theorem nodup_addFirsts {known : List α} (h : known.Nodup) (items : List α) :
    (addFirsts id known items).Nodup := by
  simpa using nodup_map_addFirsts id (by simpa using h) items

end

section

variable {α : Type} [DecidableEq α] [BEq α] [LawfulBEq α]

theorem addFirsts_eq_append (known items : List α) :
    addFirsts id known items = known ++ (items.filter (· ∉ known)).eraseDups := by
  induction items generalizing known with
  | nil => simp
  | cons a as ih =>
    rw [addFirsts_cons, ih]
    by_cases ha : a ∈ known
    · rw [addFirsts_old id (by simpa using ha), List.filter_cons_of_neg (by simpa using ha)]
    · have hrest : as.filter (· ∉ known ++ [a]) =
          (as.filter (· ∉ known)).filter fun b => !b == a := by
        rw [List.filter_filter]
        apply List.filter_congr
        intro b _
        by_cases hb : b = a <;> simp [hb]
      rw [addFirsts_new id (by simpa using ha), List.filter_cons_of_pos (by simpa using ha),
        List.eraseDups_cons, hrest, List.append_assoc]
      rfl

theorem addFirsts_nil_eq (items : List α) : addFirsts id [] items = items.eraseDups := by
  simp [addFirsts_eq_append]

end
end CodeGraph
