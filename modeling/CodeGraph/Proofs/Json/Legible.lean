import CodeGraph.Decimal.Literal
import CodeGraph.Proofs.Json.Fields

/-! Values that text can hold without a doubt, and how they are put together. -/
namespace CodeGraph.Json

/-- No doubles, no numbers too long to be read, and no key twice. -/
inductive Legible : Json → Prop
  | null : Legible .null
  | bool (b : Bool) : Legible (.bool b)
  | int {n : Int} (h : (Nat.toDigits 10 n.natAbs).length ≤ Literal.digitLimit) : Legible (.int n)
  | str (t : Text) : Legible (.str t)
  | arr {items : List Json} (h : ∀ v ∈ items, Legible v) : Legible (.arr items)
  | obj {fs : Fields} (hkeys : fs.keys.Nodup) (h : ∀ f ∈ fs, Legible f.2) : Legible (.obj fs)

theorem legible_obj_iff {fs : Fields} :
    Legible (.obj fs) ↔ fs.keys.Nodup ∧ ∀ f ∈ fs, Legible f.2 :=
  ⟨fun h => by cases h; exact ⟨‹_›, ‹_›⟩, fun h => .obj h.1 h.2⟩

theorem legible_nil : Legible (.obj []) :=
  .obj List.nodup_nil (List.forall_mem_nil _)

variable {fs gs : Fields}

theorem Legible.of_get? (h : Legible (.obj fs)) {key : Text} {v : Json}
    (hv : fs.get? key = some v) : v.Legible :=
  (legible_obj_iff.mp h).2 _ (Fields.mem_of_get?_eq_some hv)

theorem Legible.of_sublist (h : Legible (.obj fs)) (hgs : gs.Sublist fs) : Legible (.obj gs) := by
  obtain ⟨hkeys, hvalues⟩ := legible_obj_iff.mp h
  exact .obj (hkeys.sublist (hgs.map _)) fun f hf => hvalues f (hgs.subset hf)

theorem Legible.of_perm (h : Legible (.obj fs)) (hgs : gs.Perm fs) : Legible (.obj gs) := by
  obtain ⟨hkeys, hvalues⟩ := legible_obj_iff.mp h
  exact .obj ((hgs.map _).nodup_iff.mpr hkeys) fun f hf => hvalues f (hgs.subset hf)

theorem Legible.append (hfs : Legible (.obj fs)) (hgs : Legible (.obj gs))
    (hnew : ∀ f ∈ gs, f.1 ∉ fs.keys) : Legible (.obj (fs ++ gs)) := by
  obtain ⟨hkeys, hvalues⟩ := legible_obj_iff.mp hfs
  obtain ⟨hkeys', hvalues'⟩ := legible_obj_iff.mp hgs
  exact .obj (Fields.nodup_keys_append hkeys hkeys' hnew) fun f hf =>
    (List.mem_append.mp hf).elim (hvalues f) (hvalues' f)

theorem Legible.set (h : Legible (.obj fs)) (key : Text) {v : Json} (hv : v.Legible) :
    Legible (.obj (fs.set key v)) := by
  obtain ⟨hkeys, hvalues⟩ := legible_obj_iff.mp h
  refine .obj ?_ fun f hf => ?_
  · by_cases hkey : key ∈ fs.keys
    · rw [Fields.keys_set_of_mem hkey]
      exact hkeys
    · rw [Fields.set_of_notMem hkey, Fields.keys_append]
      exact hkeys.append (List.nodup_singleton _) (List.disjoint_singleton.mpr hkey)
  · rcases Fields.mem_set hf with rfl | hf
    · exact hv
    · exact hvalues f hf

theorem Legible.erase (h : Legible (.obj fs)) (key : Text) : Legible (.obj (fs.erase key)) :=
  h.of_sublist List.filter_sublist

end CodeGraph.Json
