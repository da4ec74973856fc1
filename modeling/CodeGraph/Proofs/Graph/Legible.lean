import CodeGraph.Proofs.Graph.Reload
import CodeGraph.Proofs.Json.ValueText

/-! Nodes, edges and graphs whose fields are legible as text, and therefore come back from it. -/
namespace CodeGraph

namespace Node

variable {n : Node} {others : Fields} {note : Option Json}

theorem legible_ownFields (h : n.extension.Legible) : (Json.obj n.ownFields).Legible := by
  refine .obj ?_ fun f hf => ?_
  · unfold ownFields basicFields extensionFields
    split_ifs <;> simp [Fields.keys]
  · rcases List.mem_append.mp hf with hf | hf
    · have hstr : ∃ t, f.2 = .str t := by
        simp only [basicFields, List.mem_cons, List.not_mem_nil, or_false] at hf
        rcases hf with rfl | rfl | rfl | rfl <;> exact ⟨_, rfl⟩
      obtain ⟨t, ht⟩ := hstr
      rw [ht]
      exact .str t
    · unfold extensionFields at hf
      split_ifs at hf
      · cases hf
      · rw [List.mem_singleton.mp hf]
        exact h

theorem legible_noted {v : Json} (h : v.Legible) : (Json.obj (noted v)).Legible :=
  .obj (List.nodup_singleton _) (List.forall_mem_singleton.mpr h)

theorem legible_doubt (h : ∀ v ∈ note, v.Legible) : (Json.obj (doubt note)).Legible := by
  cases note with
  | none => exact Json.legible_nil
  | some v =>
    unfold doubt
    dsimp only
    split_ifs
    · exact Json.legible_nil
    · exact legible_noted (h v rfl)

/-- A node is legible if all is that it keeps. -/
theorem Keeps.legible_toFields (h : n.Keeps others note) (hothers : (Json.obj others).Legible)
    (hnote : ∀ v ∈ note, v.Legible) (hextension : n.extension.Legible) :
    (Json.obj n.toFields).Legible := by
  obtain ⟨ahead, behind, hlayers, hnotes⟩ := h.layers
  have hlegible : (Json.obj (ahead ++ behind)).Legible := by
    rw [hnotes]
    split_ifs
    · exact legible_noted (.bool true)
    · exact legible_doubt hnote
  have hown : (Json.obj (n.ownFields ++ (ahead ++ behind))).Legible := by
    refine (legible_ownFields hextension).append hlegible fun f hf => ?_
    rw [hlayers.notes f hf]
    exact n.hasDb_notMem_ownFields
  refine (hothers.append hown fun f hf => ?_).of_perm hlayers.perm
  refine h.foreign.notMem_keys ?_
  rcases List.mem_append.mp hf with hf | hf
  · exact (n.ownFields_keys f hf).1
  · rw [hlayers.notes f hf]
    decide

/-- Legible fields give a node whose fields are legible. -/
theorem legible_toFields_ofFields {fs : Fields} (h : (Json.obj fs).Legible) :
    (Json.obj (ofFields fs).toFields).Legible := by
  refine (keeps_ofFields fs (ofFields fs).hasDb).legible_toFields
    (h.of_sublist List.filter_sublist) (fun v hv => h.of_get? hv) ?_
  change ((fs.get? "extension").getD .null).Legible
  cases hextension : fs.get? "extension" with
  | none => exact .null
  | some v => exact h.of_get? hextension

end Node

namespace Edge

theorem Settled.legible_toFields {e : Edge} (h : e.Settled)
    (hmetadata : (Json.obj e.metadata).Legible) : (Json.obj e.toFields).Legible := by
  have hown : (Json.obj e.ownFields).Legible := by
    refine .obj (by simp [ownFields, Fields.keys]) fun f hf => ?_
    simp only [ownFields, List.mem_cons, List.not_mem_nil, or_false] at hf
    rcases hf with rfl | rfl | rfl <;> exact .str _
  rw [h.toFields_eq]
  exact hmetadata.append hown fun f hf => h.notMem_keys (e.ownFields_keys f hf)

theorem legible_toFields_ofFields {fs : Fields} (h : (Json.obj fs).Legible) :
    (Json.obj (ofFields fs).toFields).Legible :=
  (settled_ofFields fs).legible_toFields (h.of_sublist List.filter_sublist)

end Edge

theorem Json.Legible.elements {v : Json} (h : v.Legible) {items : List Json}
    (hitems : v.elements = .ok items) : ∀ item ∈ items, item.Legible := by
  cases h with
  | arr h =>
    obtain rfl := Except.ok.inj hitems
    exact h
  | obj hkeys h =>
    obtain rfl := Except.ok.inj hitems
    exact List.forall_mem_map.mpr fun key _ => .str key
  | str t =>
    obtain rfl := Except.ok.inj hitems
    exact List.forall_mem_map.mpr fun c _ => .str [c]
  | _ => cases hitems

namespace Graph

theorem legible_toFields {g : Graph} (hnodes : ∀ n ∈ g.nodes, (Json.obj n.toFields).Legible)
    (hedges : ∀ e ∈ g.edges, (Json.obj e.toFields).Legible) : (Json.obj g.toFields).Legible := by
  refine .obj (by simp [toFields, Fields.keys]) fun f hf => ?_
  simp only [toFields, List.mem_cons, List.not_mem_nil, or_false] at hf
  rcases hf with rfl | rfl
  · exact .arr (List.forall_mem_map.mpr hnodes)
  · exact .arr (List.forall_mem_map.mpr hedges)

theorem legible_of_ofFields {fs : Fields} (h : (Json.obj fs).Legible) {g : Graph}
    (hg : ofFields fs = .ok g) : (Json.obj g.toFields).Legible := by
  have hitems {key : Text} {items : List Json}
      (hkey : ((fs.get? key).getD (.arr [])).elements = .ok items) : ∀ v ∈ items, v.Legible := by
    refine Json.Legible.elements ?_ hkey
    cases hv : fs.get? key with
    | none => exact .arr (List.forall_mem_nil _)
    | some v => exact h.of_get? hv
  unfold ofFields at hg
  obtain ⟨nodeItems, hnodeItems, hg⟩ := bind_eq_ok_iff.mp hg
  obtain ⟨nodes, hnodes, hg⟩ := bind_eq_ok_iff.mp hg
  obtain ⟨edgeItems, hedgeItems, hg⟩ := bind_eq_ok_iff.mp hg
  obtain ⟨edges, hedges, hg⟩ := bind_eq_ok_iff.mp hg
  obtain rfl : { nodes, edges } = g := Except.ok.inj hg
  refine legible_toFields (fun n hn => ?_) fun e he => ?_
  · obtain ⟨v, hv, hn⟩ := exists_of_mapM_eq_ok hnodes n hn
    obtain ⟨fs, rfl, rfl⟩ := Node.exists_of_ofJson hn
    exact Node.legible_toFields_ofFields (hitems hnodeItems _ hv)
  · obtain ⟨v, hv, he⟩ := exists_of_mapM_eq_ok hedges e he
    obtain ⟨fs, rfl, rfl⟩ := Edge.exists_of_ofJson he
    exact Edge.legible_toFields_ofFields (hitems hedgeItems _ hv)

theorem legible_of_edges? {fs : Fields} (h : (Json.obj fs).Legible) {v : Json}
    (hv : Payload.edges? fs = some v) : v.Legible := by
  unfold Payload.edges? at hv
  split at hv
  · exact h.of_get? hv
  · exact h.of_get? hv
  · next w _ hw =>
    obtain rfl := Option.some.inj hv
    exact h.of_get? hw

theorem legible_of_normalize {v : Json} (h : v.Legible) {fs : Fields}
    (hfs : Payload.normalize v = .ok fs) : (Json.obj fs).Legible := by
  unfold Payload.normalize at hfs
  split at hfs
  · next fields =>
    split at hfs
    · split at hfs
      · next edges hedges =>
        split_ifs at hfs
        obtain rfl := Except.ok.inj hfs
        exact (h.set _ (legible_of_edges? h hedges)).erase _
      · cases hfs
    · cases hfs
  · cases hfs

/-- A graph that was loaded from a legible value is legible. -/
theorem legible_of_load {t : Text} {v : Json} (hread : Json.read t = .ok v) (h : v.Legible)
    {g : Graph} (hg : load t = .ok g) : (Json.obj g.toFields).Legible := by
  unfold load at hg
  rw [hread] at hg
  dsimp only at hg
  split at hg
  · cases hg
  · next fs hfs => exact legible_of_ofFields (legible_of_normalize h hfs) (mapError_eq_ok_iff.mp hg)

end Graph
end CodeGraph
