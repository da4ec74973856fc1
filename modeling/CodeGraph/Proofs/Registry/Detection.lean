import CodeGraph.Proofs.Registry.Calls

/-! The analysis of a text for its routes, in any registry that calls lead to: which endpoints and
edges are added, and that everything else stays. -/
namespace CodeGraph

theorem forall₂_found {α β : Type} {f : α → Option β} {items : List α}
    (h : ∀ a ∈ items, (f a).isSome) :
    List.Forall₂ (fun a b => f a = some b) items (items.filterMap f) := by
  induction items with
  | nil => exact List.Forall₂.nil
  | cons a items ih =>
    rw [List.forall_mem_cons] at h
    obtain ⟨b, hb⟩ := Option.isSome_iff_exists.mp h.1
    rw [List.filterMap_cons_some hb]
    exact List.Forall₂.cons hb (ih h.2)

/-- A node once it is noted on the source whether the text calls a database. -/
def Node.flaggedBy (n : Node) (content : Text) (source : Node) : Node :=
  if n = source then { n with hasDb := n.hasDb || callsDatabase content } else n

namespace Registry

variable (r : Registry)

/-- Endpoints of these names, under identifiers that were never drawn. -/
structure AreNew (names : List Text) (added : List Node) : Prop where
  nodes : added.map (fun n => { n with id := [] }) = names.map Scan.endpointNode
  nodup : (added.map (·.id)).Nodup
  unused : ∀ n ∈ added, n.id ∉ r.used

/-- The oldest endpoint of a name. -/
def IsFirstEndpoint (name : Text) (n : Node) : Prop :=
  n.kind = .endpoint ∧ n.name = name ∧ ∃ before after, r.nodes = before ++ n :: after ∧
    ∀ m ∈ before, m.kind = .endpoint → m.name ≠ name

theorem findEndpoint_eq_some_iff {name : Text} {n : Node} :
    r.findEndpoint name = some n ↔ r.IsFirstEndpoint name n := by
  unfold findEndpoint IsFirstEndpoint
  rw [List.find?_eq_some_iff_append]
  simp [and_assoc, imp_iff_not_or]

theorem keys_append (key : Option Text) (node : Node) :
    (r.append key node).2.keys = r.keys ++ key.toList := by
  rw [← map_fst_places, ← map_fst_places, places_append, List.map_append]
  cases key <;> rfl

theorem mem_keys_add (node : Node) (path : Text) :
    path ∈ (r.add node).2.keys ↔ path ∈ r.keys ∨ path = node.path := by
  unfold add
  rw [keys_append, List.mem_append]
  by_cases hold : r.isIndexed node.path = true
  · rw [if_pos hold, Option.toList_none, or_iff_left List.not_mem_nil]
    refine ⟨Or.inl, ?_⟩
    rintro (hpath | rfl)
    · exact hpath
    · exact (r.isIndexed_iff _).mp hold
  · rw [if_neg hold, Option.toList_some, List.mem_singleton]

variable {r}

theorem AreNew.exists_name {names : List Text} {added : List Node} (h : r.AreNew names added)
    {n : Node} (hn : n ∈ added) :
    ∃ name ∈ names, n = { Scan.endpointNode name with id := n.id } := by
  have hmem : { n with id := [] } ∈ names.map Scan.endpointNode := by
    rw [← h.nodes]
    exact List.mem_map_of_mem hn
  obtain ⟨name, hname, heq⟩ := List.mem_map.mp hmem
  exact ⟨name, hname, by rw [heq]⟩

theorem Distinct.addAll (h : r.Distinct) (nodes : List Node) : (r.addAll nodes).Distinct := by
  induction nodes generalizing r with
  | nil => exact h
  | cons node nodes ih => exact ih (h.append _ _)

/-- The entry of a synthesized node: it is indexed if its path is free. -/
def addedEntry (r : Registry) (n : Node) : Entry :=
  ⟨if r.isIndexed n.path then none else some n.path, n⟩

/-- Endpoints of different names do not take each other's paths. -/
theorem exists_areNew {names : List Text} (h : names.Nodup) : ∃ added, r.AreNew names added ∧
    (r.addAll (names.map Scan.endpointNode)).entries = r.entries ++ added.map r.addedEntry := by
  induction names generalizing r with
  | nil => exact ⟨[], ⟨rfl, List.nodup_nil, by simp⟩, (List.append_nil _).symm⟩
  | cons name names ih =>
    rw [List.nodup_cons] at h
    let first := r.add (Scan.endpointNode name)
    obtain ⟨added, hnew, hentries⟩ := ih (r := first.2) h.2
    have hused : first.2.used = first.1.id :: r.used := rfl
    have hunused : ∀ n ∈ added, n.id ≠ first.1.id ∧ n.id ∉ r.used := by
      intro n hn
      have hn := hnew.unused n hn
      rwa [hused, List.mem_cons, not_or] at hn
    refine ⟨first.1 :: added, ⟨?_, ?_, ?_⟩, ?_⟩
    · rw [List.map_cons, List.map_cons, hnew.nodes]
      rfl
    · rw [List.map_cons, List.nodup_cons]
      refine ⟨?_, hnew.nodup⟩
      rw [List.mem_map]
      rintro ⟨n, hn, hid⟩
      exact (hunused n hn).1 hid
    · rw [List.forall_mem_cons]
      exact ⟨append_id_notMem r _ _, fun n hn => (hunused n hn).2⟩
    · have hrest : added.map first.2.addedEntry = added.map r.addedEntry := by
        apply List.map_congr_left
        intro n hn
        obtain ⟨name', hname', heq⟩ := hnew.exists_name hn
        have hne : n.path ≠ name := by
          rw [heq]
          rintro rfl
          exact h.1 hname'
        have hindexed : first.2.isIndexed n.path = r.isIndexed n.path := by
          rw [Bool.eq_iff_iff, isIndexed_iff, isIndexed_iff, mem_keys_add]
          exact or_iff_left hne
        rw [addedEntry, addedEntry, hindexed]
      change (first.2.addAll _).entries = _
      rw [hentries, hrest, List.map_cons, List.append_cons]
      rfl

theorem index_of_entries {r' : Registry} (note : Node → Node) {added : List Node}
    (h : r'.entries = r.entries.map (fun e => { e with node := note e.node }) ++
      added.map r.addedEntry) :
    r'.index = r.index.map (fun e => (e.1, note e.2)) ++
      (added.filter (·.path ∉ r.keys)).map fun n => (n.path, n) := by
  unfold index
  rw [h, List.filterMap_append, List.filterMap_map, List.filterMap_map, List.map_filterMap]
  congr 1
  · apply List.filterMap_congr
    intro e _
    simp [Function.comp_def]
  · rw [← List.filterMap_eq_map, List.filterMap_filter]
    apply List.filterMap_congr
    intro n _
    simp only [Function.comp_apply, addedEntry, isIndexed_iff]
    split_ifs <;> simp_all

/-! Noting what a text calls. -/

/-- Only the source changes: no other node has its identifier. -/
theorem entries_noteCalls (h : r.Distinct) (content : Text) {source : Node}
    (hsource : source ∈ r.nodes) : (r.noteCalls content source).entries =
      r.entries.map fun e => { e with node := e.node.flaggedBy content source } := by
  unfold noteCalls
  split_ifs with hdb
  · apply List.map_congr_left
    intro e he
    have hnode : e.node ∈ r.nodes := List.mem_map_of_mem he
    have hiff : e.node.id = source.id ↔ e.node = source :=
      ⟨List.inj_on_of_nodup_map h.nodup hnode hsource, congrArg Node.id⟩
    simp only [Node.flaggedBy, hiff, hdb, Bool.or_true]
    split_ifs <;> rfl
  · rw [List.map_congr_left, List.map_id]
    intro e _
    simp [Node.flaggedBy, hdb]

theorem isSome_findEndpoint_noteCalls (content : Text) (source : Node) (name : Text) :
    ((r.noteCalls content source).findEndpoint name).isSome = (r.findEndpoint name).isSome := by
  unfold noteCalls
  split_ifs
  · rw [← Option.isSome_map, findEndpoint_markDatabase, Option.isSome_map]
  · rfl

theorem noteCalls_noteCalls (content : Text) {source n : Node} (hid : n.id = source.id) :
    (r.noteCalls content source).noteCalls content n = r.noteCalls content source := by
  unfold noteCalls
  split_ifs
  · unfold markDatabase
    rw [List.map_map]
    congr 1
    apply List.map_congr_left
    intro e _
    simp only [Function.comp_apply, hid]
    split_ifs <;> simp_all
  · rfl

end Registry

namespace Progress

variable (p : Progress) (content : Text) (source : Node)

/-- Every route of an analyzed text has its endpoint. -/
theorem isSome_findEndpoint_detect {name : Text} (h : name ∈ Route.paths content) :
    ((p.detect content source).registry.findEndpoint name).isSome := by
  rw [Registry.registry_detect, Registry.isSome_findEndpoint_noteCalls,
    Registry.isSome_findEndpoint_addAll, Registry.mem_missing_iff]
  by_cases hold : (p.registry.findEndpoint name).isSome
  · exact Or.inl hold
  · exact Or.inr ⟨h, hold⟩

theorem registry_detect_again {n : Node} (hid : n.id = source.id) :
    ((p.detect content source).detect content n).registry =
      (p.detect content source).registry := by
  have hmissing : (p.detect content source).registry.missing (Route.paths content) = [] := by
    rw [List.eq_nil_iff_forall_not_mem]
    intro name hname
    rw [Registry.mem_missing_iff] at hname
    exact hname.2 (isSome_findEndpoint_detect p content source hname.1)
  rw [Registry.registry_detect, hmissing, Registry.registry_detect]
  exact Registry.noteCalls_noteCalls content hid

variable {p}

theorem edges_detect (h : p.registry.Distinct) : (p.detect content source).edges = p.edges ++
    (Route.paths content).filterMap (handlerEdge? (p.detect content source).registry source) := by
  have hedges := (analyzed p source h content none).edges
  rw [Specifier.ofContent, List.filterMap_nil, List.append_nil] at hedges
  exact hedges

/-- The edges from a file to endpoints, but for the file itself. -/
def handlerEdges (source : Node) (targets : List Node) : List Edge :=
  (targets.filter (·.id ≠ source.id)).map fun target =>
    { source := source.id, target := target.id, kind := .endpointHandler }

theorem filterMap_handlerEdge? (r : Registry) (names : List Text) :
    names.filterMap (handlerEdge? r source) =
      handlerEdges source (names.filterMap r.findEndpoint) := by
  unfold handlerEdges
  rw [List.filter_filterMap, List.map_filterMap]
  rfl

theorem entries_detect {source : Node} (h : p.registry.Distinct)
    (hsource : source ∈ p.registry.nodes) {added : List Node}
    (hnew : p.registry.AreNew (p.registry.missing (Route.paths content)) added)
    (hadded : (p.registry.addAll ((p.registry.missing (Route.paths content)).map
      Scan.endpointNode)).entries = p.registry.entries ++ added.map p.registry.addedEntry) :
    (p.detect content source).registry.entries =
      p.registry.entries.map (fun e => { e with node := e.node.flaggedBy content source }) ++
        added.map p.registry.addedEntry := by
  have hold : source ∈ (p.registry.addAll ((p.registry.missing (Route.paths content)).map
      Scan.endpointNode)).nodes := by
    rw [Registry.nodes, hadded, List.map_append]
    exact List.mem_append_left _ hsource
  rw [Registry.registry_detect, Registry.entries_noteCalls (h.addAll _) content hold, hadded,
    List.map_append, List.map_map]
  congr 1
  apply List.map_congr_left
  intro n hn
  have hne : n ≠ source := by
    rintro rfl
    exact hnew.unused n hn (h.used n.id (List.mem_map_of_mem hsource))
  exact congrArg (Registry.Entry.mk _) (if_neg hne)

/-- Everything that the analysis of a text for its routes does. -/
structure Detected (p : Progress) (content : Text) (source : Node) (added targets : List Node)
    (q : Progress) : Prop where
  new : p.registry.AreNew (p.registry.missing (Route.paths content)) added
  nodes : q.registry.nodes = p.registry.nodes.map (·.flaggedBy content source) ++ added
  index : q.registry.index = p.registry.index.map (fun e => (e.1, e.2.flaggedBy content source)) ++
    (added.filter (·.path ∉ p.registry.keys)).map fun n => (n.path, n)
  found : List.Forall₂ q.registry.IsFirstEndpoint (Route.paths content) targets
  edges : q.edges = p.edges ++ handlerEdges source targets
  again : ∀ n ∈ q.registry.nodes, n.id = source.id →
    (q.detect content n).registry = q.registry ∧
      (q.detect content n).edges = q.edges ++ handlerEdges source targets

theorem detected (h : p.registry.Distinct) (hsource : source ∈ p.registry.nodes) :
    ∃ added targets, Detected p content source added targets (p.detect content source) := by
  obtain ⟨added, hnew, hadded⟩ := Registry.exists_areNew (r := p.registry)
    (List.Nodup.filter (fun name => (p.registry.findEndpoint name).isNone)
      (nodup_addFirsts List.nodup_nil ((Route.ofContent content).map (·.path))))
  have hentries := entries_detect content h hsource hnew hadded
  have hdistinct : (p.detect content source).registry.Distinct :=
    (analyzed p source h content none).distinct
  refine ⟨added, (Route.paths content).filterMap (p.detect content source).registry.findEndpoint,
    hnew, ?_, ?_, ?_, ?_, ?_⟩
  · rw [Registry.nodes, hentries, List.map_append, List.map_map, List.map_map, Registry.nodes,
      List.map_map]
    exact congrArg _ (List.map_id added)
  · exact Registry.index_of_entries (·.flaggedBy content source) hentries
  · refine (forall₂_found fun name => isSome_findEndpoint_detect p content source).imp ?_
    exact fun name n => (Registry.findEndpoint_eq_some_iff _).mp
  · rw [edges_detect content source h, filterMap_handlerEdge?]
  · intro n _ hid
    have hregistry : ((p.detect content source).detect content n).registry =
        (p.detect content source).registry := registry_detect_again p content source hid
    refine ⟨hregistry, ?_⟩
    rw [edges_detect content n hdistinct, hregistry, filterMap_handlerEdge?, handlerEdges,
      handlerEdges, hid]

end Progress

namespace Registry.Usage

/-- In every registry that calls lead to, whatever names and paths its nodes have. -/
theorem run_detected (digits : DigitStream) (calls : List Call) (content : Text) {source : Node}
    (h : source ∈ (run digits calls).registry.nodes) :
    ∃ added targets, Progress.Detected (run digits calls).progress content source added targets
      (run digits (calls ++ [.detect content source])).progress := by
  rw [run_append]
  exact Progress.detected content source (sound_run digits calls).distinct h

/-- A node that is an endpoint of one name and has the path of another, and two endpoints of one
name. -/
def doubledCalls : List Call :=
  [.register "/free" { id := [], name := "/self", kind := .endpoint, path := "/free" },
    .add (Scan.endpointNode "/u"), .add (Scan.endpointNode "/u")]

def selfHandler : Node :=
  { id := "id_000000000", name := "/self", kind := .endpoint, path := "/free" }

def selfText : Text :=
  "app.get('/u'); @Get('/self') router.put(\"/free\") app.post('/u') app.patch('/n'); db.find()"

/-- The first of the two is linked and the source itself is not. Of the new endpoints, the one with
the taken path comes without an index entry. -/
theorem run_detected_selfHandler : selfHandler ∈ (run {} doubledCalls).registry.nodes ∧
    (run {} (doubledCalls ++ [.detect selfText selfHandler])).progress.edges.map (·.target) =
      ["id_000000001", "id_000000003", "id_000000004"] ∧
    (run {} (doubledCalls ++ [.detect selfText selfHandler])).registry.entries.map (·.key) =
      ([some "/free", some "/u", none, some "/n", none] : List (Option Text)) ∧
    ∃ added targets, Progress.Detected (run {} doubledCalls).progress selfText selfHandler added
      targets (run {} (doubledCalls ++ [.detect selfText selfHandler])).progress := by
  have hmem : selfHandler ∈ (run {} doubledCalls).registry.nodes := by decide +kernel
  exact ⟨hmem, by decide +kernel, by decide +kernel, run_detected {} doubledCalls selfText hmem⟩

end Registry.Usage
end CodeGraph
