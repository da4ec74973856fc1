import CodeGraph.Proofs.Graph.Loading

/-! Which values are taken for graphs, and what is made of them. What was made of a value is taken
as it is, and always gives a graph. -/
namespace CodeGraph

namespace Payload

variable {v : Json} {given renamed fs : Fields} {nodes edges : List Fields} {items : List Json}

/-- There are no edges by that name, or null stands in their place. -/
def LacksEdges (given : Fields) : Prop :=
  given.get? "edges" = none ∨ given.get? "edges" = some .null

/-- Fields with lists of objects for the nodes and for the edges. Where edges are lacking, links
stand in for them. -/
structure Gives (given : Fields) (nodes edges : List Fields) : Prop where
  nodes : given.get? "nodes" = some (.arr (nodes.map .obj))
  edges : given.get? "edges" = some (.arr (edges.map .obj)) ∨
    LacksEdges given ∧ given.get? "links" = some (.arr (edges.map .obj))

/-- The same fields in the same order, but with these edges and without links. New edges come
last. -/
structure IsMadeOf (given : Fields) (edges : List Fields) (fs : Fields) : Prop where
  keys : fs.keys = (given.keys ++ if "edges".toList ∈ given.keys then [] else
    ["edges".toList]).filter (· ≠ "links".toList)
  edges : fs.get? "edges" = some (.arr (edges.map .obj))
  links : fs.get? "links" = none
  others : ∀ key : Text, key ≠ "edges" → key ≠ "links" → fs.get? key = given.get? key

/-- The links go by the name of edges, wherever they stand, and all else is the same. -/
structure IsRenamed (given renamed : Fields) : Prop where
  edges : renamed.get? "edges" = given.get? "links"
  links : renamed.get? "links" = none
  others : ∀ key : Text, key ≠ "edges" → key ≠ "links" → renamed.get? key = given.get? key

/-- The same fault, or fields with the same values under the same keys. -/
inductive Agree : Except PayloadFault Fields → Except PayloadFault Fields → Prop
  | fault (fault : PayloadFault) : Agree (.error fault) (.error fault)
  | fields {fs gs : Fields} (same : ∀ key, fs.get? key = gs.get? key) : Agree (.ok fs) (.ok gs)

/-- Fields with edges under their own name and without links. -/
def withEdges (given : Fields) (items : List Json) : Fields :=
  (Fields.set "edges" (.arr items) given).erase "links"

theorem edges?_of_lacksEdges (h : LacksEdges given) : edges? given = given.get? "links" := by
  unfold edges?
  rcases h with h | h <;> rw [h]

theorem edges?_of_not_lacksEdges (h : ¬LacksEdges given) :
    edges? given = given.get? "edges" := by
  unfold edges?
  split
  · next hnone => exact absurd (Or.inl hnone) h
  · next hnull => exact absurd (Or.inr hnull) h
  · next hsome => exact hsome.symm

theorem edges?_eq_some_arr_iff : edges? given = some (.arr items) ↔
    given.get? "edges" = some (.arr items) ∨
      LacksEdges given ∧ given.get? "links" = some (.arr items) := by
  by_cases hlacks : LacksEdges given
  · have hnot : given.get? "edges" ≠ some (.arr items) := by
      rcases hlacks with h | h <;> rw [h] <;> exact nofun
    rw [edges?_of_lacksEdges hlacks, or_iff_right hnot, and_iff_right hlacks]
  · rw [edges?_of_not_lacksEdges hlacks, or_iff_left fun h => hlacks h.1]

theorem all_isObject_map (objects : List Fields) :
    (objects.map Json.obj).all (·.isObject) = true := by
  simp [Json.isObject]

theorem normalize_of_gives (h : Gives given nodes edges) :
    normalize (.obj given) = .ok (withEdges given (edges.map .obj)) := by
  unfold normalize
  simp only [h.nodes, edges?_eq_some_arr_iff.mpr h.edges, all_isObject_map]
  rfl

theorem gives_of_normalize (h : normalize v = .ok fs) : ∃ given nodes edges, v = .obj given ∧
    Gives given nodes edges ∧ fs = withEdges given (edges.map .obj) := by
  obtain ⟨given, nodes, edges, hv, hnodes, hedges, hfs⟩ := exists_of_normalize h
  exact ⟨given, nodes, edges, hv, ⟨hnodes, edges?_eq_some_arr_iff.mp hedges⟩, hfs⟩

theorem isMadeOf_withEdges (given : Fields) (edges : List Fields) :
    IsMadeOf given edges (withEdges given (edges.map .obj)) where
  keys := by rw [withEdges, Fields.keys_erase, Fields.keys_set]
  edges := by rw [withEdges, Fields.get?_erase, if_neg (by decide), Fields.get?_set, if_pos rfl]
  links := by rw [withEdges, Fields.get?_erase, if_pos rfl]
  others key hedges hlinks := by
    rw [withEdges, Fields.get?_erase, if_neg hlinks.symm, Fields.get?_set, if_neg hedges.symm]

/-- What was made of a value holds its edges under their own name, so it is taken as it is. -/
theorem normalize_obj_of_normalize (h : normalize v = .ok fs) : normalize (.obj fs) = .ok fs := by
  obtain ⟨given, nodes, edges, -, hgives, rfl⟩ := gives_of_normalize h
  have hmade := isMadeOf_withEdges given edges
  generalize withEdges given (edges.map .obj) = made at hmade ⊢
  have hnodes : made.get? "nodes" = some (.arr (nodes.map .obj)) := by
    rw [hmade.others "nodes" (by decide) (by decide), hgives.nodes]
  rw [normalize_of_gives ⟨hnodes, Or.inl hmade.edges⟩, withEdges, Fields.set_eq_self hmade.edges,
    Fields.erase_eq_self hmade.links]

/-! Links under the name of edges. -/

/-- The edges of a value, judged by what stands for nodes and for edges alone. -/
def judge : (nodes edges : Option Json) → Except PayloadFault (List Json)
  | some (.arr nodes), some (.arr edges) =>
    if !nodes.all (·.isObject) then .error .strayNode
    else if !edges.all (·.isObject) then .error .strayEdge
    else .ok edges
  | some (.arr _), _ => .error .noEdges
  | _, _ => .error .noNodes

theorem normalize_obj (given : Fields) : normalize (.obj given) =
    (judge (given.get? "nodes") (edges? given)).map (withEdges given) := by
  simp only [normalize]
  split
  · next nodes hnodes =>
    rw [hnodes]
    split
    · next edges hedges =>
      rw [hedges, judge]
      split_ifs <;> rfl
    · next hedges =>
      rw [judge]
      · rfl
      · exact hedges
  · next hnodes =>
    rw [judge]
    · rfl
    · exact hnodes
    · exact fun nodes _ h _ => hnodes nodes h

theorem judge_null (nodes : Option Json) : judge nodes (some .null) = judge nodes none := by
  unfold judge
  split <;> simp_all

/-- Null is as good as no edges. -/
theorem judge_edges?_of_isRenamed (hlacks : LacksEdges given) (h : IsRenamed given renamed)
    (nodes : Option Json) : judge nodes (edges? renamed) = judge nodes (edges? given) := by
  rw [edges?_of_lacksEdges hlacks, edges?, h.edges, h.links]
  split
  · next hnone => rw [hnone]
  · next hnull => rw [hnull, judge_null]
  · next hsome => rw [hsome]

theorem agree_of_isRenamed (hlacks : LacksEdges given) (h : IsRenamed given renamed) :
    Agree (normalize (.obj given)) (normalize (.obj renamed)) := by
  rw [normalize_obj, normalize_obj, h.others "nodes" (by decide) (by decide),
    judge_edges?_of_isRenamed hlacks h]
  cases judge (given.get? "nodes") (edges? given) with
  | error fault => exact .fault fault
  | ok items =>
    refine .fields fun key => ?_
    rw [withEdges, withEdges, Fields.get?_erase, Fields.get?_erase, Fields.get?_set,
      Fields.get?_set]
    split_ifs with hlinks hedges
    · rfl
    · rfl
    · exact (h.others key (Ne.symm hedges) (Ne.symm hlinks)).symm

/-- What becomes of a value: it is taken just if it is an object with lists of objects, and so is
what is made of it, which then gives a graph. -/
structure Judged (v : Json) : Prop where
  taken : (∃ fs, normalize v = .ok fs) ↔
    ∃ given nodes edges, v = .obj given ∧ Gives given nodes edges
  made : ∀ given nodes edges fs, v = .obj given → Gives given nodes edges →
    normalize v = .ok fs → IsMadeOf given edges fs
  again : ∀ fs, normalize v = .ok fs → normalize (.obj fs) = .ok fs
  renamed : ∀ given renamed, v = .obj given → LacksEdges given → IsRenamed given renamed →
    Agree (normalize v) (normalize (.obj renamed))
  loaded : ∀ fs, normalize v = .ok fs → ∃ g, Graph.ofFields fs = .ok g

theorem judged (v : Json) : Judged v where
  taken := by
    constructor
    · rintro ⟨fs, h⟩
      obtain ⟨given, nodes, edges, hv, hgives, -⟩ := gives_of_normalize h
      exact ⟨given, nodes, edges, hv, hgives⟩
    · rintro ⟨given, nodes, edges, rfl, hgives⟩
      exact ⟨_, normalize_of_gives hgives⟩
  made := by
    rintro given nodes edges fs rfl hgives h
    rw [normalize_of_gives hgives] at h
    rw [← Except.ok.inj h]
    exact isMadeOf_withEdges given edges
  again _ := normalize_obj_of_normalize
  renamed := by
    rintro given renamed rfl hlacks h
    exact agree_of_isRenamed hlacks h
  loaded fs h := by
    obtain ⟨nodes, edges, hholds⟩ := holds_of_normalize h
    exact ⟨_, Graph.ofFields_of_holds hholds⟩

end Payload

/-- The file cannot be read, or what is in it is no graph. -/
def LoadFault.isRefusal : LoadFault → Bool
  | .unreadable _ _ | .notJson _ _ | .notAGraph _ => true
  | .hugeNumber | .misshapen _ => false

namespace Graph

variable {t : Text}

theorem load_of_read {v : Json} {fs : Fields} (hread : Json.read t = .ok v)
    (hnormalize : Payload.normalize v = .ok fs) : ∃ g, Graph.load t = .ok g := by
  obtain ⟨g, hg⟩ := (Payload.judged v).loaded fs hnormalize
  refine ⟨g, ?_⟩
  rw [load, hread]
  simp only [hnormalize, hg]
  rfl

/-- A text is loaded, or refused because it is not well formed or holds no graph. -/
theorem load_ends (ht : ∀ left, Json.read t ≠ .error ⟨.hugeNumber, left⟩) :
    (∃ g, Graph.load t = .ok g) ∨
      ∃ fault, Graph.load t = .error fault ∧ fault.isRefusal = true := by
  cases hread : Json.read t with
  | error fault =>
    right
    refine ⟨.notJson fault t, ?_, rfl⟩
    unfold load
    rw [hread]
    split
    · next left heq => exact absurd (hread.trans heq) (ht left)
    · next fault' _ heq => rw [Except.error.inj heq]
    · next heq => cases heq
  | ok v =>
    cases hnormalize : Payload.normalize v with
    | error fault =>
      right
      refine ⟨.notAGraph fault, ?_, rfl⟩
      unfold load
      rw [hread]
      simp only [hnormalize]
    | ok fs => exact Or.inl (load_of_read hread hnormalize)

/-- Values are judged by their nodes and edges; and where no number of a text is too long to be
read, the text gives a graph or is refused, and nothing else comes of it. It gives one if a value
that is taken was read from it. -/
theorem judged_and_load_ends (v : Json) (ht : ∀ left, Json.read t ≠ .error ⟨.hugeNumber, left⟩) :
    Payload.Judged v ∧ ((∃ g, Graph.load t = .ok g) ∨
      ∃ fault, Graph.load t = .error fault ∧ fault.isRefusal = true) ∧
    ∀ fs, Json.read t = .ok v → Payload.normalize v = .ok fs → ∃ g, Graph.load t = .ok g :=
  ⟨Payload.judged v, load_ends ht, fun _ => load_of_read⟩

/-- Edges that are null beside links, and a node of odd fields. -/
def linkedText : Text :=
  "\x7b\"edges\": null, \"links\": [\x7b\"source\": 1\x7d], \"nodes\": [\x7b\"type\": []\x7d]\x7d"

def linkedPayload : Json :=
  .obj [("edges", .null), ("links", .arr [.obj [("source", .int 1)]]),
    ("nodes", .arr [.obj [("type", .arr [])]])]

theorem judged_and_load_ends_linkedText :
    (∀ left, Json.read linkedText ≠ .error ⟨.hugeNumber, left⟩) ∧
      Payload.Judged linkedPayload ∧ ∃ g, Graph.load linkedText = .ok g := by
  have hread : Json.read linkedText = .ok linkedPayload := eq_ok_of_toOption (by decide +kernel)
  have ht : ∀ left, Json.read linkedText ≠ .error ⟨.hugeNumber, left⟩ := by
    intro left h
    cases hread.symm.trans h
  obtain ⟨fs, hnormalize⟩ : ∃ fs, Payload.normalize linkedPayload = .ok fs := ⟨_, rfl⟩
  obtain ⟨hjudged, -, hload⟩ := judged_and_load_ends linkedPayload ht
  exact ⟨ht, hjudged, hload fs hread hnormalize⟩

end Graph
end CodeGraph
