import CodeGraph.Json.Basic
import Mathlib.Data.List.Basic
import Mathlib.Data.List.Nodup

/-! Fields of an object: what stands under a key, and what setting keys does that are new. -/
namespace CodeGraph.Fields

variable {α : Type} {key : Text} {v : α} {fs gs : Fields α}

@[simp] theorem get?_nil : get? key ([] : Fields α) = none := rfl

theorem get?_cons (f : Text × α) :
    get? key (f :: fs) = if f.1 = key then some f.2 else get? key fs := rfl

theorem keys_append : keys (fs ++ gs) = keys fs ++ keys gs :=
  List.map_append

theorem get?_append : get? key (fs ++ gs) = (get? key fs).or (get? key gs) := by
  induction fs with
  | nil => rfl
  | cons f fs ih =>
    rw [List.cons_append, get?_cons, get?_cons, ih]
    split_ifs <;> rfl

theorem get?_eq_none_iff : get? key fs = none ↔ key ∉ keys fs := by
  induction fs with
  | nil => simp [keys]
  | cons f fs ih =>
    rw [get?_cons]
    by_cases h : f.1 = key
    · simp [h, keys]
    · rw [if_neg h, ih]
      simp [keys, Ne.symm h]

theorem mem_of_get?_eq_some (h : get? key fs = some v) : (key, v) ∈ fs := by
  induction fs with
  | nil => cases h
  | cons f fs ih =>
    rw [get?_cons] at h
    split_ifs at h with hkey
    · obtain rfl := Option.some.inj h
      exact hkey ▸ List.mem_cons_self
    · exact List.mem_cons_of_mem _ (ih h)

theorem nodup_keys_append (hfs : (keys fs).Nodup) (hgs : (keys gs).Nodup)
    (hnew : ∀ f ∈ gs, f.1 ∉ keys fs) : (keys (fs ++ gs)).Nodup := by
  rw [keys_append]
  refine hfs.append hgs fun key hkey hkey' => ?_
  obtain ⟨f, hf, rfl⟩ := List.mem_map.mp hkey'
  exact hnew f hf hkey

/-- A new key comes last. -/
theorem set_of_notMem (h : key ∉ keys fs) : set key v fs = fs ++ [(key, v)] := by
  induction fs with
  | nil => rfl
  | cons f fs ih =>
    have hne : f.1 ≠ key := fun heq => h (by simp [keys, heq])
    have hmem : key ∉ keys fs := fun hmem => h (List.mem_cons_of_mem _ hmem)
    rw [set, if_neg hne, ih hmem, List.cons_append]

theorem keys_set_of_mem (h : key ∈ keys fs) : keys (set key v fs) = keys fs := by
  induction fs with
  | nil => cases h
  | cons f fs ih =>
    rw [set]
    split_ifs with hkey
    · exact congrArg (· :: keys fs) hkey.symm
    · exact congrArg (f.1 :: ·) (ih ((List.mem_cons.mp h).resolve_left (Ne.symm hkey)))

theorem keys_set (fs : Fields α) :
    keys (set key v fs) = keys fs ++ if key ∈ keys fs then [] else [key] := by
  by_cases h : key ∈ keys fs
  · rw [keys_set_of_mem h, if_pos h, List.append_nil]
  · rw [set_of_notMem h, keys_append, if_neg h]
    rfl

theorem keys_erase (fs : Fields α) : keys (erase key fs) = (keys fs).filter (· ≠ key) := by
  unfold keys erase
  rw [List.filter_map]
  rfl

/-- A value that is there already is set in vain. -/
theorem set_eq_self (h : get? key fs = some v) : set key v fs = fs := by
  induction fs with
  | nil => cases h
  | cons f fs ih =>
    rw [get?_cons] at h
    rw [set]
    split_ifs at h ⊢ with hkey
    · rw [← hkey, ← Option.some.inj h]
    · rw [ih h]

theorem erase_eq_self (h : get? key fs = none) : erase key fs = fs := by
  refine List.filter_eq_self.mpr fun f hf => decide_eq_true fun heq => ?_
  exact get?_eq_none_iff.mp h (heq ▸ List.mem_map_of_mem hf)

theorem mem_set {f : Text × α} (h : f ∈ set key v fs) : f = (key, v) ∨ f ∈ fs := by
  induction fs with
  | nil => exact Or.inl (List.mem_singleton.mp h)
  | cons g fs ih =>
    rw [set] at h
    split_ifs at h
    · exact (List.mem_cons.mp h).imp_right (List.mem_cons_of_mem _)
    · rcases List.mem_cons.mp h with rfl | h
      · exact Or.inr List.mem_cons_self
      · exact (ih h).imp_right (List.mem_cons_of_mem _)

/-- A known key keeps its place among the others. -/
theorem set_append_cons (h : key ∉ keys fs) (w : α) :
    set key v (fs ++ (key, w) :: gs) = fs ++ (key, v) :: gs := by
  induction fs with
  | nil => rw [List.nil_append, List.nil_append, set, if_pos rfl]
  | cons f fs ih =>
    have hne : f.1 ≠ key := fun heq => h (by simp [keys, heq])
    have hmem : key ∉ keys fs := fun hmem => h (List.mem_cons_of_mem _ hmem)
    rw [List.cons_append, set, if_neg hne, ih hmem, List.cons_append]

theorem get?_set (key' : Text) :
    get? key (set key' v fs) = if key' = key then some v else get? key fs := by
  induction fs with
  | nil => rfl
  | cons f fs ih =>
    rw [set]
    by_cases hset : f.1 = key'
    · rw [if_pos hset, get?_cons, get?_cons, hset]
      split_ifs <;> rfl
    · rw [if_neg hset, get?_cons, get?_cons, ih]
      by_cases hkey : f.1 = key
      · rw [if_pos hkey, if_pos hkey, if_neg fun heq => hset (hkey.trans heq.symm)]
      · rw [if_neg hkey, if_neg hkey]

theorem get?_erase (key' : Text) :
    get? key (erase key' fs) = if key' = key then none else get? key fs := by
  induction fs with
  | nil => simp [erase]
  | cons f fs ih =>
    rw [get?_cons]
    by_cases herase : f.1 = key'
    · have hrest : erase key' (f :: fs) = erase key' fs := by simp [erase, herase]
      rw [hrest, ih, herase]
      split_ifs <;> rfl
    · have hrest : erase key' (f :: fs) = f :: erase key' fs := by simp [erase, herase]
      rw [hrest, get?_cons, ih]
      by_cases hkey : f.1 = key
      · rw [if_pos hkey, if_pos hkey, if_neg fun heq => herase (hkey.trans heq.symm)]
      · rw [if_neg hkey, if_neg hkey]

/-- Of several new values for a key the last one counts. -/
theorem get?_update (new : Fields α) :
    get? key (update fs new) = (get? key new.reverse).or (get? key fs) := by
  induction new generalizing fs with
  | nil => rfl
  | cons f new ih =>
    change get? key (update (set f.1 f.2 fs) new) = _
    rw [ih, get?_set, List.reverse_cons, get?_append, Option.or_assoc, get?_cons]
    split_ifs <;> rfl

theorem update_append (new more : Fields α) :
    update fs (new ++ more) = update (update fs new) more :=
  List.foldl_append

/-- Fields with new keys come behind the others. -/
theorem update_of_new {new : Fields α} (hnodup : (keys new).Nodup)
    (hnew : ∀ f ∈ new, f.1 ∉ keys fs) : update fs new = fs ++ new := by
  induction new generalizing fs with
  | nil => exact (List.append_nil fs).symm
  | cons f new ih =>
    obtain ⟨hf, hnodup⟩ := List.nodup_cons.mp hnodup
    have hset : set f.1 f.2 fs = fs ++ [f] := set_of_notMem (hnew f List.mem_cons_self)
    have hnew' : ∀ g ∈ new, g.1 ∉ keys (fs ++ [f]) := by
      intro g hg
      rw [keys_append, List.mem_append, not_or]
      refine ⟨hnew g (List.mem_cons_of_mem _ hg), fun heq => hf ?_⟩
      rw [← List.mem_singleton.mp heq]
      exact List.mem_map_of_mem hg
    change update (set f.1 f.2 fs) new = _
    rw [hset, ih hnodup hnew', List.append_assoc, List.singleton_append]

theorem ofPairs_of_nodup (h : (keys fs).Nodup) : ofPairs fs = fs :=
  update_of_new h fun f _ => List.not_mem_nil (a := f.1)

/-- None of the keys stands in the fields. -/
def Foreign (avoided : List Text) (fs : Fields α) : Prop :=
  ∀ f ∈ fs, f.1 ∉ avoided

variable {avoided : List Text}

theorem foreign_nil (avoided : List Text) : Foreign avoided ([] : Fields α) :=
  nofun

theorem foreign_filter (avoided : List Text) (fs : Fields α) :
    Foreign avoided (fs.filter fun f => !avoided.contains f.1) := by
  intro f hf
  simpa using (List.mem_filter.mp hf).2

/-- Taking out other keys leaves what stands under this one. -/
theorem get?_filter_foreign (h : key ∉ avoided) :
    get? key (fs.filter fun f => !avoided.contains f.1) = get? key fs := by
  induction fs with
  | nil => rfl
  | cons f fs ih =>
    rw [get?_cons, ← ih]
    by_cases hf : f.1 ∈ avoided
    · have hne : f.1 ≠ key := fun heq => h (heq ▸ hf)
      rw [if_neg hne, List.filter_cons_of_neg (by simpa using hf)]
    · rw [List.filter_cons_of_pos (by simpa using hf), get?_cons]

theorem Foreign.filter_eq (h : Foreign avoided fs) :
    (fs.filter fun f => !avoided.contains f.1) = fs := by
  refine List.filter_eq_self.mpr fun f hf => ?_
  simpa using h f hf

theorem Foreign.notMem_keys (h : Foreign avoided fs) (hkey : key ∈ avoided) : key ∉ keys fs := by
  intro hmem
  obtain ⟨f, hf, rfl⟩ := List.mem_map.mp hmem
  exact h f hf hkey

theorem Foreign.get?_eq_none (h : Foreign avoided fs) (hkey : key ∈ avoided) :
    get? key fs = none :=
  get?_eq_none_iff.mpr (h.notMem_keys hkey)

end CodeGraph.Fields
