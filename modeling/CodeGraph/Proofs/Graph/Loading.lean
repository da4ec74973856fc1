import CodeGraph.Proofs.Graph.Reload

/-! What loading a graph changes in the fields of its nodes and edges, and that it keeps all else. -/
namespace CodeGraph

/-- Fields before and after loading. Some are made texts, the type is made one of the known types,
and the fields of other keys than the element's own stay. -/
structure Fields.Coerced (own texts types : List Text) (default : Text) (fs gs : Fields) :
    Prop where
  keys : fs.keys.Nodup → gs.keys.Nodup
  texts : ∀ key ∈ texts, gs.get? key = some (.str (fs.plain key))
  known : ∀ t ∈ types, fs.get? "type" = some (.str t) → gs.get? "type" = some (.str t)
  unknown : (∀ t ∈ types, fs.get? "type" ≠ some (.str t)) → gs.get? "type" = some (.str default)
  others : ∀ key, key ∉ own → gs.get? key = fs.get? key

/-- A null extension goes away, and a note on the database that counts as true becomes `true`. -/
structure Node.Loads (fs gs : Fields) : Prop extends
    fs.Coerced ownKeys ["id", "name", "path"] (NodeKind.all.map (·.name)) "file" gs where
  extension : gs.get? "extension" = (fs.get? "extension").filter (· ≠ .null)
  hasDb : gs.get? "hasDb" = (fs.get? "hasDb").map fun v => if v.truthy then .bool true else v

def Edge.Loads (fs gs : Fields) : Prop :=
  fs.Coerced ownKeys ["source", "target"] (EdgeKind.all.map (·.name)) "import" gs

/-- What names no kind counts as a file. -/
theorem NodeKind.ofJson_of_unknown {v : Option Json}
    (h : ∀ t ∈ all.map (·.name), v ≠ some (.str t)) : ofJson v = .file := by
  unfold ofJson
  split
  · next t =>
    have hnone : ofName? t = none := by
      refine List.find?_eq_none.mpr fun k hk hname => ?_
      exact h k.name (List.mem_map_of_mem hk) (by rw [of_decide_eq_true hname])
    rw [hnone]
    rfl
  · rfl

theorem EdgeKind.ofJson_of_unknown {v : Option Json}
    (h : ∀ t ∈ all.map (·.name), v ≠ some (.str t)) : ofJson v = .imports := by
  unfold ofJson
  split
  · next t =>
    have hnone : ofName? t = none := by
      refine List.find?_eq_none.mpr fun k hk hname => ?_
      exact h k.name (List.mem_map_of_mem hk) (by rw [of_decide_eq_true hname])
    rw [hnone]
    rfl
  · rfl

namespace Node

variable {n : Node} {others ahead behind fs : Fields}

theorem Layers.get?_other (h : n.Layers others ahead behind fs) {key : Text}
    (hkey : key ∉ ownKeys) : fs.get? key = others.get? key := by
  have hnone (gs : Fields) (hgs : ∀ f ∈ gs, f.1 ∈ ownKeys) : gs.get? key = none := by
    refine Fields.get?_eq_none_iff.mpr fun hmem => hkey ?_
    obtain ⟨f, hf, rfl⟩ := List.mem_map.mp hmem
    exact hgs f hf
  have hnotes (f : Text × Json) (hf : f ∈ ahead ++ behind) : f.1 ∈ ownKeys := by
    rw [h.notes f hf]
    decide
  rw [h.fs_eq, Fields.get?_append, Fields.get?_append, Fields.get?_append,
    hnone ahead fun f hf => hnotes f (List.mem_append_left _ hf),
    hnone n.ownFields fun f hf => (n.ownFields_keys f hf).1,
    hnone behind fun f hf => hnotes f (List.mem_append_right _ hf)]
  exact Option.or_none

theorem get?_extension_ofFields (fs : Fields) : (ofFields fs).ownFields.get? "extension" =
    (fs.get? "extension").filter (· ≠ .null) := by
  have hown (n : Node) : n.ownFields.get? "extension" =
      if n.extension = .null then none else some n.extension := by
    unfold ownFields extensionFields
    split_ifs <;> rfl
  have hextension : (ofFields fs).extension = (fs.get? "extension").getD .null := rfl
  rw [hown, hextension]
  cases fs.get? "extension" with
  | none => rfl
  | some v => by_cases hv : v = .null <;> simp [hv, Option.filter]

/-- What a node says of its database in the end. -/
theorem get?_hasDb_noted (note : Option Json) :
    Fields.get? "hasDb" (if note.any (·.truthy) then noted (.bool true) else doubt note) =
      note.map fun v => if v.truthy then .bool true else v := by
  cases note with
  | none => rfl
  | some v =>
    change Fields.get? "hasDb" (if v.truthy = true then noted (.bool true) else doubt (some v)) =
      some (if v.truthy = true then .bool true else v)
    by_cases hv : v.truthy = true
    · rw [if_pos hv, get?_noted, if_pos hv]
    · have hdoubt : doubt (some v) = noted v := if_neg hv
      rw [if_neg hv, hdoubt, get?_noted, if_neg hv]

theorem nodup_keys_ownFields (n : Node) : n.ownFields.keys.Nodup := by
  unfold ownFields basicFields extensionFields
  split_ifs <;> simp [Fields.keys]

theorem Layers.nodup_keys (h : n.Layers others ahead behind fs) (hothers : others.keys.Nodup)
    (hnotes : (ahead ++ behind).keys.Nodup) : fs.keys.Nodup := by
  have hown : (n.ownFields ++ (ahead ++ behind)).keys.Nodup := by
    refine Fields.nodup_keys_append n.nodup_keys_ownFields hnotes fun f hf => ?_
    rw [h.notes f hf]
    exact n.hasDb_notMem_ownFields
  refine (h.perm.map _).nodup_iff.mpr (Fields.nodup_keys_append hothers hown fun f hf => ?_)
  refine h.foreign.notMem_keys ?_
  rcases List.mem_append.mp hf with hf | hf
  · exact (n.ownFields_keys f hf).1
  · rw [h.notes f hf]
    decide

theorem nodup_keys_doubt (note : Option Json) : (doubt note).keys.Nodup := by
  rcases doubt_cases note with h | ⟨v, -, h⟩ <;> simp [h, noted, Fields.keys]

/-- The fields of a node that was read, against those that it was read from. -/
theorem loads_toFields_ofFields (fs : Fields) : Loads fs (ofFields fs).toFields := by
  obtain ⟨ahead, behind, hlayers, hnotes⟩ := (keeps_ofFields fs (ofFields fs).hasDb).layers
  have hown {key : Text} (hkey : key ∈ ownKeys) (hne : key ≠ "hasDb") :
      (ofFields fs).toFields.get? key = (ofFields fs).ownFields.get? key :=
    hlayers.get?_own hkey hne
  have htype : (ofFields fs).toFields.get? "type" =
      some (.str (NodeKind.ofJson (fs.get? "type")).name) := hown (by decide) (by decide)
  constructor
  · constructor
    · intro hkeys
      refine hlayers.nodup_keys (hkeys.sublist (List.filter_sublist.map _)) ?_
      rw [hnotes]
      split_ifs
      · exact List.nodup_singleton _
      · exact nodup_keys_doubt _
    · simp only [List.forall_mem_cons]
      refine ⟨hown (by decide) (by decide), hown (by decide) (by decide),
        hown (by decide) (by decide), List.forall_mem_nil _⟩
    · intro t ht hfs
      obtain ⟨k, -, rfl⟩ := List.mem_map.mp ht
      rw [htype, hfs, k.ofJson_name]
    · intro hunknown
      rw [htype, NodeKind.ofJson_of_unknown hunknown]
      rfl
    · intro key hkey
      exact (hlayers.get?_other hkey).trans (Fields.get?_filter_foreign hkey)
  · rw [hown (by decide) (by decide), get?_extension_ofFields]
  · rw [hlayers.get?_hasDb, hnotes]
    exact get?_hasDb_noted _

end Node

/-- The fields of an edge that was read, against those that it was read from. -/
theorem Edge.loads_toFields_ofFields (fs : Fields) : Loads fs (ofFields fs).toFields := by
  have heq := (settled_ofFields fs).toFields_eq
  have hforeign : Fields.Foreign ownKeys (ofFields fs).metadata := settled_ofFields fs
  have hown {key : Text} (hkey : key ∈ ownKeys) :
      (ofFields fs).toFields.get? key = (ofFields fs).ownFields.get? key := by
    rw [heq, Fields.get?_append, hforeign.get?_eq_none hkey, Option.none_or]
  have htype : (ofFields fs).toFields.get? "type" =
      some (.str (EdgeKind.ofJson (fs.get? "type")).name) := hown (by decide)
  constructor
  · intro hkeys
    have hmetadata : (ofFields fs).metadata.keys.Nodup :=
      hkeys.sublist (List.filter_sublist.map _)
    rw [heq]
    refine Fields.nodup_keys_append hmetadata (by simp [ownFields, Fields.keys]) fun f hf => ?_
    exact hforeign.notMem_keys ((ofFields fs).ownFields_keys f hf)
  · simp only [List.forall_mem_cons]
    exact ⟨hown (by decide), hown (by decide), List.forall_mem_nil _⟩
  · intro t ht hfs
    obtain ⟨k, -, rfl⟩ := List.mem_map.mp ht
    rw [htype, hfs, k.ofJson_name]
  · intro hunknown
    rw [htype, EdgeKind.ofJson_of_unknown hunknown]
    rfl
  · intro key hkey
    have hnone : (ofFields fs).ownFields.get? key = none := by
      refine Fields.get?_eq_none_iff.mpr fun hmem => hkey ?_
      obtain ⟨f, hf, rfl⟩ := List.mem_map.mp hmem
      exact (ofFields fs).ownFields_keys f hf
    rw [heq, Fields.get?_append, hnone, Option.or_none]
    exact Fields.get?_filter_foreign hkey

/-! Payloads. -/

namespace Payload

/-- Lists of objects stand under the names of nodes and edges. -/
structure Holds (fs : Fields) (nodes edges : List Fields) : Prop where
  nodes : fs.get? "nodes" = some (.arr (nodes.map .obj))
  edges : fs.get? "edges" = some (.arr (edges.map .obj))

theorem exists_map_obj {items : List Json} (h : items.all (·.isObject) = true) :
    ∃ objects : List Fields, items = objects.map .obj := by
  induction items with
  | nil => exact ⟨[], rfl⟩
  | cons v items ih =>
    rw [List.all_cons, Bool.and_eq_true] at h
    obtain ⟨objects, rfl⟩ := ih h.2
    cases v with
    | obj fs => exact ⟨fs :: objects, rfl⟩
    | _ => cases h.1

/-- What a value looks like that is accepted, and what is made of it. -/
theorem exists_of_normalize {v : Json} {fs : Fields} (h : normalize v = .ok fs) :
    ∃ (given : Fields) (nodes edges : List Fields), v = .obj given ∧
      given.get? "nodes" = some (.arr (nodes.map .obj)) ∧
      edges? given = some (.arr (edges.map .obj)) ∧
      fs = (given.set "edges" (.arr (edges.map .obj))).erase "links" := by
  unfold normalize at h
  split at h
  · next given =>
    split at h
    · next nodeItems hnodes =>
      split at h
      · next edgeItems hedges =>
        split_ifs at h with hnode hedge
        simp only [Bool.not_eq_true', Bool.not_eq_false] at hnode hedge
        obtain ⟨nodes, rfl⟩ := exists_map_obj hnode
        obtain ⟨edges, rfl⟩ := exists_map_obj hedge
        exact ⟨given, nodes, edges, rfl, hnodes, hedges, (Except.ok.inj h).symm⟩
      · cases h
    · cases h
  · cases h

theorem holds_of_normalize {v : Json} {fs : Fields} (h : normalize v = .ok fs) :
    ∃ nodes edges, Holds fs nodes edges := by
  obtain ⟨given, nodes, edges, -, hnodes, -, rfl⟩ := exists_of_normalize h
  refine ⟨nodes, edges, ?_, ?_⟩
  · rw [Fields.get?_erase, Fields.get?_set, if_neg (by decide), if_neg (by decide)]
    exact hnodes
  · rw [Fields.get?_erase, Fields.get?_set, if_neg (by decide), if_pos rfl]

end Payload

namespace Graph

/-- A payload with lists of objects gives a graph, node by node and edge by edge. -/
theorem ofFields_of_holds {fs : Fields} {nodes edges : List Fields}
    (h : Payload.Holds fs nodes edges) :
    ofFields fs = .ok { nodes := nodes.map .ofFields, edges := edges.map .ofFields } := by
  have hnodes : (nodes.map Json.obj).mapM Node.ofJson = .ok (nodes.map Node.ofFields) :=
    mapM_map_eq_ok_map fun _ _ => rfl
  have hedges : (edges.map Json.obj).mapM Edge.ofJson = .ok (edges.map Edge.ofFields) :=
    mapM_map_eq_ok_map fun _ _ => rfl
  rw [ofFields, h.nodes, h.edges]
  change (do
    let nodes ← (nodes.map Json.obj).mapM Node.ofJson
    let edges ← (edges.map Json.obj).mapM Edge.ofJson
    return ({ nodes, edges } : Graph)) = _
  rw [hnodes, hedges]
  rfl

/-- Every accepted payload is loaded, and the graph has its nodes and edges, one by one and in
order, with their fields but for those that loading is there to change. -/
theorem loads_of_normalize {v : Json} {fs : Fields} (h : Payload.normalize v = .ok fs) :
    ∃ (nodes edges nodes' edges' : List Fields) (g : Graph), Payload.Holds fs nodes edges ∧
      ofFields fs = .ok g ∧
      g.toFields = ([("nodes", .arr (nodes'.map .obj)), ("edges", .arr (edges'.map .obj))] :
        Fields) ∧
      List.Forall₂ Node.Loads nodes nodes' ∧ List.Forall₂ Edge.Loads edges edges' := by
  obtain ⟨nodes, edges, hholds⟩ := Payload.holds_of_normalize h
  refine ⟨nodes, edges, nodes.map fun n => (Node.ofFields n).toFields,
    edges.map fun e => (Edge.ofFields e).toFields, _, hholds, ofFields_of_holds hholds, ?_, ?_, ?_⟩
  · simp [toFields, Function.comp_def]
  · rw [List.forall₂_map_right_iff]
    exact List.forall₂_same.mpr fun n _ => Node.loads_toFields_ofFields n
  · rw [List.forall₂_map_right_iff]
    exact List.forall₂_same.mpr fun e _ => Edge.loads_toFields_ofFields e

/-- A node with fields of odd types and of a kind that there is not, and a link from a number. -/
def mixedPayload : Json :=
  .obj [("links", .arr [.obj [("source", .int 1), ("weight", .int 3)]]),
    ("nodes", .arr [.obj [("id", .null), ("hasDb", .int 0), ("extension", .null),
      ("type", .str "robot"), ("tags", .arr [.null])]])]

theorem loads_of_normalize_mixedPayload :
    ∃ fs, Payload.normalize mixedPayload = .ok fs ∧
      ∃ (nodes edges nodes' edges' : List Fields) (g : Graph), Payload.Holds fs nodes edges ∧
        ofFields fs = .ok g ∧
        g.toFields = ([("nodes", .arr (nodes'.map .obj)), ("edges", .arr (edges'.map .obj))] :
        Fields) ∧
        List.Forall₂ Node.Loads nodes nodes' ∧ List.Forall₂ Edge.Loads edges edges' := by
  have h : Payload.normalize mixedPayload = .ok
      [("nodes", .arr [.obj [("id", .null), ("hasDb", .int 0), ("extension", .null),
        ("type", .str "robot"), ("tags", .arr [.null])]]),
      ("edges", .arr [.obj [("source", .int 1), ("weight", .int 3)]])] := by
    decide
  exact ⟨_, h, loads_of_normalize h⟩

end Graph

end CodeGraph
