import CodeGraph.Proofs.Registry.Lookup
import Mathlib.Data.List.Nodup

/-! How a registry grows: every node gets an identifier of its own, and keeps it. -/
namespace CodeGraph

namespace Identifier

theorem beyond_notMem (used : List Text) : beyond used ∉ used := by
  intro hmem
  have hle : ∀ t ∈ used, t.length ≤ (used.map List.length).foldr max 0 := by
    clear hmem
    induction used with
    | nil => simp
    | cons a used ih =>
      intro t ht
      rw [List.map_cons, List.foldr_cons]
      rcases List.mem_cons.mp ht with rfl | ht
      · exact Nat.le_max_left _ _
      · exact Nat.le_trans (ih t ht) (Nat.le_max_right _ _)
  have hlen := hle _ hmem
  simp only [beyond, List.length_append, List.length_replicate] at hlen
  omega

theorem fresh_notMem (used : List Text) (tries : Nat) (s : DigitStream) :
    (fresh used tries s).1 ∉ used := by
  induction tries generalizing s with
  | zero => exact beyond_notMem used
  | succ tries ih =>
    simp only [fresh]
    split_ifs with h
    · exact ih _
    · simpa using h

end Identifier

namespace Registry

variable (r : Registry)

def ids : List Text :=
  r.nodes.map (·.id)

/-- The identifiers with the bare nodes that they stand for. -/
def roster : List (Text × Node) :=
  r.nodes.map fun n => (n.id, n.bare)

/-- No identifier stands for two nodes, and none is left to be drawn again. -/
structure Distinct : Prop where
  nodup : r.ids.Nodup
  used : ∀ id ∈ r.ids, id ∈ r.used

variable {r}

theorem mem_roster {n : Node} (h : n ∈ r.nodes) : (n.id, n.bare) ∈ r.roster :=
  List.mem_map_of_mem h

theorem roster_fst : r.roster.map (·.1) = r.ids := by
  simp [roster, ids, Function.comp_def]

theorem roster_snd : r.roster.map (·.2) = r.bare.nodes := by
  simp [roster, nodes_bare, Function.comp_def]

theorem mem_ids_of_mem_roster {id : Text} {n : Node} (h : (id, n) ∈ r.roster) : id ∈ r.ids := by
  rw [← roster_fst]
  exact List.mem_map.mpr ⟨(id, n), h, rfl⟩

theorem mem_bare_nodes {n : Node} : n ∈ r.bare.nodes ↔ ∃ id, (id, n) ∈ r.roster := by
  rw [← roster_snd, List.mem_map]
  constructor
  · rintro ⟨⟨id, m⟩, hm, rfl⟩
    exact ⟨id, hm⟩
  · rintro ⟨id, hn⟩
    exact ⟨(id, n), hn, rfl⟩

/-- An identifier stands for one node. -/
theorem Distinct.eq_of_mem_roster (h : r.Distinct) {id : Text} {m n : Node}
    (hm : (id, m) ∈ r.roster) (hn : (id, n) ∈ r.roster) : m = n := by
  have hnodup : (r.roster.map (·.1)).Nodup := by
    rw [roster_fst]
    exact h.nodup
  exact congrArg Prod.snd (List.inj_on_of_nodup_map hnodup hm hn rfl)

/-- Where bare nodes differ, so do their identifiers. -/
theorem Distinct.id_eq_iff (h : r.Distinct) (hbare : r.bare.nodes.Nodup) {i j : Text} {m n : Node}
    (hm : (i, m) ∈ r.roster) (hn : (j, n) ∈ r.roster) : i = j ↔ m = n := by
  constructor
  · rintro rfl
    exact h.eq_of_mem_roster hm hn
  · rintro rfl
    rw [← roster_snd] at hbare
    exact congrArg Prod.fst (List.inj_on_of_nodup_map hbare hm hn rfl)

/-! Appending a node. -/

variable (r) (key : Option Text) (node : Node)

theorem entries_append :
    (r.append key node).2.entries = r.entries ++ [⟨key, (r.append key node).1⟩] := rfl

theorem append_fst_eq :
    (r.append key node).1 = { node with id := (r.append key node).1.id } := rfl

theorem used_append :
    (r.append key node).2.used = (r.append key node).1.id :: r.used := rfl

theorem append_id_notMem : (r.append key node).1.id ∉ r.used :=
  Identifier.fresh_notMem r.used (Identifier.tries r.used r.digits) r.digits

theorem nodes_append :
    (r.append key node).2.nodes = r.nodes ++ [(r.append key node).1] := by
  rw [nodes, entries_append, List.map_append]
  rfl

theorem ids_append :
    (r.append key node).2.ids = r.ids ++ [(r.append key node).1.id] := by
  rw [ids, nodes_append, List.map_append]
  rfl

theorem bare_append :
    (r.append key node).2.bare = { entries := r.bare.entries ++ [⟨key, node.bare⟩] } := by
  rw [bare, entries_append, List.map_append]
  rfl

variable {r}

theorem Distinct.append (h : r.Distinct) : (r.append key node).2.Distinct := by
  have hnew := append_id_notMem r key node
  constructor
  · rw [ids_append, List.nodup_append]
    refine ⟨h.nodup, List.nodup_singleton _, ?_⟩
    rintro id hid _ hnode rfl
    exact hnew (List.mem_singleton.mp hnode ▸ h.used id hid)
  · intro id hid
    rw [ids_append, List.mem_append, List.mem_singleton] at hid
    rw [used_append]
    rcases hid with hid | rfl
    · exact List.mem_cons_of_mem _ (h.used id hid)
    · exact List.mem_cons_self

/-! Noting a database. -/

variable (r) (id : Text)

theorem nodes_markDatabase :
    (r.markDatabase id).nodes =
      r.nodes.map fun n => if n.id = id then { n with hasDb := true } else n := by
  simp only [nodes, markDatabase, List.map_map, Function.comp_def, apply_ite Entry.node]

theorem ids_markDatabase : (r.markDatabase id).ids = r.ids := by
  rw [ids, nodes_markDatabase, List.map_map, ids]
  congr 1
  funext n
  simp only [Function.comp_def]
  split_ifs <;> rfl

theorem roster_markDatabase : (r.markDatabase id).roster = r.roster := by
  rw [roster, nodes_markDatabase, List.map_map, roster]
  congr 1
  funext n
  simp only [Function.comp_def]
  split_ifs <;> rfl

theorem bare_markDatabase : (r.markDatabase id).bare = r.bare := by
  unfold markDatabase bare
  rw [List.map_map]
  congr 2
  funext e
  simp only [Function.comp_def]
  split_ifs <;> rfl

variable {r}

theorem Distinct.markDatabase (h : r.Distinct) : (r.markDatabase id).Distinct := by
  constructor
  · rw [ids_markDatabase]
    exact h.nodup
  · rw [ids_markDatabase]
    exact h.used

variable (r)

/-- A node with this identifier is noted to call a database. -/
def Flagged (id : Text) : Prop :=
  ∃ n ∈ r.nodes, n.id = id ∧ n.hasDb = true

theorem flagged_append {key : Option Text} {node : Node} (h : node.hasDb = false) (id : Text) :
    (r.append key node).2.Flagged id ↔ r.Flagged id := by
  unfold Flagged
  rw [nodes_append]
  constructor
  · rintro ⟨n, hn, hid, hdb⟩
    rcases List.mem_append.mp hn with hn | hn
    · exact ⟨n, hn, hid, hdb⟩
    · rw [List.mem_singleton.mp hn, append_fst_eq] at hdb
      exact absurd hdb (by simp [h])
  · rintro ⟨n, hn, hid⟩
    exact ⟨n, List.mem_append_left _ hn, hid⟩

theorem flagged_markDatabase (marked id : Text) :
    (r.markDatabase marked).Flagged id ↔ r.Flagged id ∨ id = marked ∧ id ∈ r.ids := by
  unfold Flagged
  rw [nodes_markDatabase]
  constructor
  · rintro ⟨n, hn, rfl, hdb⟩
    obtain ⟨m, hm, rfl⟩ := List.mem_map.mp hn
    split_ifs at hdb ⊢ with hid
    · exact Or.inr ⟨hid, List.mem_map.mpr ⟨m, hm, rfl⟩⟩
    · exact Or.inl ⟨m, hm, rfl, hdb⟩
  · rintro (⟨n, hn, rfl, hdb⟩ | ⟨rfl, hid⟩)
    · refine ⟨_, List.mem_map_of_mem hn, ?_, ?_⟩ <;> split_ifs <;> first | rfl | exact hdb
    · obtain ⟨n, hn, rfl⟩ := List.mem_map.mp hid
      refine ⟨_, List.mem_map_of_mem hn, ?_, ?_⟩
      · rw [if_pos rfl]
      · rw [if_pos rfl]

end Registry
end CodeGraph
