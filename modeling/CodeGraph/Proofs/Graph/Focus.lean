import CodeGraph.Proofs.Firsts
import CodeGraph.Proofs.Graph.Drawing
import CodeGraph.Proofs.Text.SortDistinct
import Mathlib.Data.List.Infix

/-! Which nodes and edges are drawn: all of them, or those around a focus. -/
namespace CodeGraph

theorem Text.occursIn_iff {needle t : Text} : occursIn needle t = true ↔ needle <:+: t := by
  induction t with
  | nil => simp [occursIn, List.isEmpty_iff]
  | cons c t ih =>
    rw [occursIn, Bool.or_eq_true, ih, List.isPrefixOf_iff_prefix, List.infix_cons_iff]

namespace Graph

/-- Of several nodes with one identifier, the last one is drawn. -/
def drawnNode? (g : Graph) (id : Text) : Option Node :=
  g.nodes.reverse.find? (·.id = id)

/-- The focus is a part of the name or of the path of the node that is drawn. -/
def isCentral (g : Graph) (focus id : Text) : Bool :=
  (g.drawnNode? id).any fun n => decide (focus <:+: n.name ∨ focus <:+: n.path)

/-- The edges with both ends in the graph. -/
def cleanEdges (g : Graph) : List Edge :=
  g.edges.filter fun e => !g.danglingEdges.contains e

theorem cleanEdges_eq (g : Graph) : g.cleanEdges = g.withoutDanglingEdges.edges := by
  refine List.filter_congr fun e he => ?_
  have hmem : e ∈ g.danglingEdges ↔ g.isDangling e = true := by
    rw [danglingEdges, List.mem_filter, and_iff_right he]
  cases hdangling : g.isDangling e <;> simp [hmem, hdangling]

theorem ends_of_mem_cleanEdges {g : Graph} {e : Edge} (h : e ∈ g.cleanEdges) :
    e.source ∈ g.ids ∧ e.target ∈ g.ids := by
  rw [cleanEdges_eq] at h
  simpa [isDangling] using (List.mem_filter.mp h).2

end Graph

namespace Dot

/-! One node for each identifier. -/

theorem ids_place (n : Node) (nodes : List Node) :
    (place n nodes).map (·.id) = addFirsts id (nodes.map (·.id)) [n.id] := by
  induction nodes with
  | nil => rfl
  | cons x nodes ih =>
    rw [place]
    by_cases hx : x.id = n.id
    · rw [if_pos hx, addFirsts_old id (by simp [hx])]
      simp [hx]
    · rw [if_neg hx, List.map_cons, ih, List.map_cons]
      by_cases hmem : n.id ∈ nodes.map (·.id)
      · rw [addFirsts_old id (by simpa using hmem), addFirsts_old id (by simp_all)]
      · rw [addFirsts_new id (by simpa using hmem), addFirsts_new id (by simp_all [eq_comm])]
        rfl

theorem find?_place (n : Node) (nodes : List Node) (id : Text) :
    (place n nodes).find? (·.id = id) =
      if n.id = id then some n else nodes.find? (·.id = id) := by
  induction nodes with
  | nil => by_cases hn : n.id = id <;> simp [place, hn]
  | cons x nodes ih =>
    rw [place]
    by_cases hx : x.id = n.id
    · by_cases hn : n.id = id <;> simp [hx, hn]
    · rw [if_neg hx, List.find?_cons, List.find?_cons, ih]
      by_cases hid : x.id = id
      · have hn : n.id ≠ id := fun hn => hx (hid.trans hn.symm)
        simp [hid, hn]
      · simp [hid]

theorem ids_distinctNodes (nodes : List Node) :
    (distinctNodes nodes).map (·.id) = (nodes.map (·.id)).eraseDups := by
  have hfold (acc : List Node) : (nodes.foldl (fun acc n => place n acc) acc).map (·.id) =
      addFirsts id (acc.map (·.id)) (nodes.map (·.id)) := by
    induction nodes generalizing acc with
    | nil => rfl
    | cons n nodes ih => rw [List.foldl_cons, ih, ids_place, List.map_cons, ← addFirsts_cons]
  rw [← addFirsts_nil_eq]
  exact hfold []

theorem find?_distinctNodes (nodes : List Node) (id : Text) :
    (distinctNodes nodes).find? (·.id = id) = nodes.reverse.find? (·.id = id) := by
  have hfold (acc : List Node) :
      (nodes.foldl (fun acc n => place n acc) acc).find? (·.id = id) =
        (nodes.reverse.find? (·.id = id)).or (acc.find? (·.id = id)) := by
    induction nodes generalizing acc with
    | nil => rfl
    | cons n nodes ih =>
      rw [List.foldl_cons, ih, find?_place, List.reverse_cons, List.find?_append, Option.or_assoc]
      by_cases hn : n.id = id <;> simp [hn]
  rw [distinctNodes, hfold, List.find?_nil, Option.or_none]

theorem nodup_ids_distinctNodes (nodes : List Node) :
    ((distinctNodes nodes).map (·.id)).Nodup := by
  rw [ids_distinctNodes, ← addFirsts_nil_eq]
  exact nodup_addFirsts List.nodup_nil _

theorem mem_ids_distinctNodes {nodes : List Node} {id : Text} :
    id ∈ (distinctNodes nodes).map (·.id) ↔ id ∈ nodes.map (·.id) := by
  rw [ids_distinctNodes, List.mem_eraseDups]

/-- The nodes with given identifiers, each of which is that of a node. -/
theorem ids_filterMap_find? {nodes : List Node} {ids : List Text}
    (h : ∀ id ∈ ids, id ∈ nodes.map (·.id)) :
    (ids.filterMap fun id => nodes.find? (·.id = id)).map (·.id) = ids := by
  induction ids with
  | nil => rfl
  | cons id ids ih =>
    obtain ⟨hid, hids⟩ := List.forall_mem_cons.mp h
    obtain ⟨n, hn, rfl⟩ := List.mem_map.mp hid
    have hsome : (nodes.find? (·.id = n.id)).isSome := List.find?_isSome.mpr ⟨n, hn, by simp⟩
    obtain ⟨m, hm⟩ := Option.isSome_iff_exists.mp hsome
    have hmid : m.id = n.id := by simpa using List.find?_some hm
    rw [List.filterMap_cons, hm, List.map_cons, ih hids, hmid]

/-! What is drawn. -/

variable {g : Graph} {focus id : Text}

/-- The identifiers of the nodes in focus. -/
def centers (g : Graph) (focus : Text) : List Text :=
  ((distinctNodes g.nodes).filter (inFocus focus)).map (·.id)

theorem inFocus_iff {n : Node} :
    inFocus focus n = true ↔ focus <:+: n.name ∨ focus <:+: n.path := by
  rw [inFocus, Bool.or_eq_true, Text.occursIn_iff, Text.occursIn_iff]

theorem mem_centers : id ∈ centers g focus ↔ g.isCentral focus id = true := by
  have hdrawn (n : Node) : n ∈ distinctNodes g.nodes ∧ n.id = id ↔ g.drawnNode? id = some n := by
    rw [Graph.drawnNode?, ← find?_distinctNodes,
      find?_key_eq_some_iff Node.id (nodup_ids_distinctNodes g.nodes)]
  rw [centers, List.mem_map, Graph.isCentral, Option.any_eq_true]
  constructor
  · rintro ⟨n, hn, hid⟩
    obtain ⟨hmem, hfocus⟩ := List.mem_filter.mp hn
    exact ⟨n, (hdrawn n).mp ⟨hmem, hid⟩, decide_eq_true (inFocus_iff.mp hfocus)⟩
  · rintro ⟨n, hn, hfocus⟩
    obtain ⟨hmem, hid⟩ := (hdrawn n).mpr hn
    exact ⟨n, List.mem_filter.mpr ⟨hmem, inFocus_iff.mpr (of_decide_eq_true hfocus)⟩, hid⟩

namespace Drawing

/-- Every identifier is drawn once, in order of arrival, and every edge that has both ends. -/
structure IsWhole (d : Drawing) (g : Graph) : Prop where
  ids : d.nodes.map (·.id) = g.ids.eraseDups
  edges : d.edges = g.cleanEdges

/-- What is in focus is drawn, with the edges that touch it and their other ends. -/
structure IsAround (d : Drawing) (g : Graph) (focus : Text) : Prop where
  ascending : (d.nodes.map (·.id)).Pairwise (· < ·)
  ids : ∀ id, id ∈ d.nodes.map (·.id) ↔ g.isCentral focus id = true ∨
    ∃ e ∈ g.cleanEdges, g.isCentral focus e.source = true ∧ e.target = id ∨
      g.isCentral focus e.target = true ∧ e.source = id
  edges : d.edges = g.cleanEdges.filter fun e =>
    g.isCentral focus e.source || g.isCentral focus e.target

/-- Edges are drawn between nodes that are drawn, and no identifier is drawn twice. -/
structure IsGraph (d : Drawing) : Prop where
  ends : ∀ e ∈ d.edges, e.source ∈ d.nodes.map (·.id) ∧ e.target ∈ d.nodes.map (·.id)
  nodup : (d.nodes.map (·.id)).Nodup

theorem IsWhole.isGraph {d : Drawing} (h : d.IsWhole g) : d.IsGraph where
  ends e he := by
    rw [h.edges] at he
    rw [h.ids, List.mem_eraseDups, List.mem_eraseDups]
    exact Graph.ends_of_mem_cleanEdges he
  nodup := by
    rw [h.ids, ← addFirsts_nil_eq]
    exact nodup_addFirsts List.nodup_nil _

theorem IsAround.isGraph {d : Drawing} (h : d.IsAround g focus) : d.IsGraph where
  ends e he := by
    rw [h.edges] at he
    obtain ⟨hclean, hcentral⟩ := List.mem_filter.mp he
    rw [h.ids, h.ids]
    rcases Bool.or_eq_true _ _ ▸ hcentral with hsource | htarget
    · exact ⟨.inl hsource, .inr ⟨e, hclean, .inl ⟨hsource, rfl⟩⟩⟩
    · exact ⟨.inr ⟨e, hclean, .inr ⟨htarget, rfl⟩⟩, .inl htarget⟩
  nodup := h.ascending.imp fun {a b} hlt (heq : a = b) => List.lt_irrefl b (heq ▸ hlt)

end Drawing

/-- The edges that touch what is in focus. -/
def touching (g : Graph) (focus : Text) : List Edge :=
  g.cleanEdges.filter fun e => g.isCentral focus e.source || g.isCentral focus e.target

/-- The identifiers around a focus. -/
def around (g : Graph) (focus : Text) : List Text :=
  Text.sortDistinct (centers g focus ++ (touching g focus).flatMap fun e => [e.source, e.target])

theorem drawing_eq (g : Graph) (focus : Text) :
    drawing g focus =
      if focus.isEmpty || (centers g focus).isEmpty then ⟨distinctNodes g.nodes, g.cleanEdges⟩
      else
        ⟨(around g focus).filterMap fun id => (distinctNodes g.nodes).find? (·.id = id),
          touching g focus⟩ := by
  have htouching : touching g focus = g.cleanEdges.filter fun e =>
      (centers g focus).contains e.source || (centers g focus).contains e.target := by
    have hcontains (id : Text) : (centers g focus).contains id = g.isCentral focus id := by
      rw [Bool.eq_iff_iff, List.contains_iff_mem, mem_centers]
    simp only [touching, hcontains]
  rw [around, htouching, drawing, Graph.cleanEdges_eq]
  rfl

theorem mem_around : id ∈ around g focus ↔ g.isCentral focus id = true ∨
    ∃ e ∈ g.cleanEdges, g.isCentral focus e.source = true ∧ e.target = id ∨
      g.isCentral focus e.target = true ∧ e.source = id := by
  rw [around, Text.mem_sortDistinct, List.mem_append, mem_centers, List.mem_flatMap]
  constructor
  · rintro (hid | ⟨e, he, hid⟩)
    · exact .inl hid
    · obtain ⟨hclean, hcentral⟩ := List.mem_filter.mp he
      rw [Bool.or_eq_true] at hcentral
      rw [List.mem_pair] at hid
      by_cases h : g.isCentral focus id = true
      · exact .inl h
      -- The identifier is an end of the edge and not in focus, so that the other end is.
      · rcases hid with rfl | rfl
        · exact .inr ⟨e, hclean, .inr ⟨hcentral.resolve_left h, rfl⟩⟩
        · exact .inr ⟨e, hclean, .inl ⟨hcentral.resolve_right h, rfl⟩⟩
  · rintro (hid | ⟨e, hclean, ⟨hcentral, rfl⟩ | ⟨hcentral, rfl⟩⟩)
    · exact .inl hid
    · exact .inr ⟨e, List.mem_filter.mpr ⟨hclean, by simp [hcentral]⟩, by simp⟩
    · exact .inr ⟨e, List.mem_filter.mpr ⟨hclean, by simp [hcentral]⟩, by simp⟩

theorem mem_ids_of_mem_around (h : id ∈ around g focus) :
    id ∈ (distinctNodes g.nodes).map (·.id) := by
  rw [mem_around] at h
  rcases h with hid | ⟨e, hclean, ⟨-, rfl⟩ | ⟨-, rfl⟩⟩
  · obtain ⟨n, hn, rfl⟩ := List.mem_map.mp (mem_centers.mpr hid)
    exact List.mem_map_of_mem (List.mem_filter.mp hn).1
  · exact mem_ids_distinctNodes.mpr (Graph.ends_of_mem_cleanEdges hclean).2
  · exact mem_ids_distinctNodes.mpr (Graph.ends_of_mem_cleanEdges hclean).1

theorem drawnNode?_of_mem_drawing {n : Node} (h : n ∈ (drawing g focus).nodes) :
    g.drawnNode? n.id = some n := by
  have hdistinct (m : Node) (hm : m ∈ distinctNodes g.nodes) : g.drawnNode? m.id = some m := by
    rw [Graph.drawnNode?, ← find?_distinctNodes]
    exact (find?_key_eq_some_iff Node.id (nodup_ids_distinctNodes g.nodes) _ _).mpr ⟨hm, rfl⟩
  rw [drawing_eq] at h
  split_ifs at h
  · exact hdistinct n h
  · obtain ⟨id, -, hid⟩ := List.mem_filterMap.mp h
    exact hdistinct n (List.mem_of_find?_eq_some hid)

theorem isWhole_drawing (h : focus = [] ∨ ∀ id, g.isCentral focus id = false) :
    (drawing g focus).IsWhole g := by
  have hall : (focus.isEmpty || (centers g focus).isEmpty) = true := by
    rw [Bool.or_eq_true, List.isEmpty_iff, List.isEmpty_iff]
    refine h.imp_right fun hnone => List.eq_nil_iff_forall_not_mem.mpr fun id hid => ?_
    rw [mem_centers, hnone] at hid
    cases hid
  rw [drawing_eq, if_pos hall]
  exact ⟨ids_distinctNodes g.nodes, rfl⟩

theorem isAround_drawing (hfocus : focus ≠ []) (hcentral : g.isCentral focus id = true) :
    (drawing g focus).IsAround g focus := by
  have hsome : (focus.isEmpty || (centers g focus).isEmpty) = false := by
    rw [Bool.or_eq_false_iff, List.isEmpty_eq_false_iff, List.isEmpty_eq_false_iff]
    exact ⟨hfocus, List.ne_nil_of_mem (mem_centers.mpr hcentral)⟩
  have hids : ((around g focus).filterMap fun id =>
      (distinctNodes g.nodes).find? (·.id = id)).map (·.id) = around g focus :=
    ids_filterMap_find? fun id hid => mem_ids_of_mem_around hid
  rw [drawing_eq, hsome, if_neg Bool.false_ne_true]
  constructor
  · rw [hids]
    exact Text.pairwise_sortDistinct _
  · intro id
    rw [hids]
    exact mem_around
  · rfl

end Dot

/-- The drawing of a graph is a header, one line for each node and then for each edge, and a footer;
unless a text in it ends in a backslash, it is read as the statements for these nodes and edges. It
shows for each identifier its last node. Without a focus, or with one that no node is in, it is the
whole graph, and else what is around the focus; either way it is a graph itself. -/
theorem Graph.toDot_selects (g : Graph) (focus : Text) :
    ∃ d : Dot.Drawing,
      g.toDot focus = (Dot.header ++ d.nodes.map Dot.nodeLine ++ d.edges.map Dot.edgeLine ++
        Dot.footer).flatMap (· ++ ['\n']) ∧
      (d.IsClosed → Dot.Reads (g.toDot focus) (d.nodes.map .ofNode ++ d.edges.map .ofEdge)) ∧
      (∀ n ∈ d.nodes, g.drawnNode? n.id = some n) ∧
      ((focus = [] ∨ ∀ id, g.isCentral focus id = false) → d.IsWhole g) ∧
      (focus ≠ [] → (∃ id, g.isCentral focus id = true) → d.IsAround g focus) ∧ d.IsGraph := by
  refine ⟨Dot.drawing g focus, rfl, (Dot.Drawing.reads_write_iff _).mpr,
    fun n hn => Dot.drawnNode?_of_mem_drawing hn, Dot.isWhole_drawing,
    fun hfocus ⟨id, hid⟩ => Dot.isAround_drawing hfocus hid, ?_⟩
  by_cases hwhole : focus = [] ∨ ∀ id, g.isCentral focus id = false
  · exact (Dot.isWhole_drawing hwhole).isGraph
  · rw [not_or, not_forall] at hwhole
    obtain ⟨hfocus, id, hid⟩ := hwhole
    exact (Dot.isAround_drawing hfocus (Bool.not_eq_false _ ▸ hid)).isGraph

end CodeGraph
