import CodeGraph.Proofs.Registry.Growth
import CodeGraph.Proofs.Scan.Catalogue

/-! What the routes of a text add, in any registry whose identifiers differ: the endpoints that are
missing, and one edge for each distinct route path. -/
namespace CodeGraph

namespace Registry

/-- A registry with an endpoint of this name, which is new if there is none. -/
def withEndpoint (r : Registry) (name : Text) : Registry :=
  if (r.findEndpoint name).isSome then r
  else { r with entries := r.entries ++
    [⟨if r.isIndexed name then none else some name, Scan.endpointNode name⟩] }

theorem findEndpoint_some {r : Registry} {name : Text} {n : Node}
    (h : r.findEndpoint name = some n) : n ∈ r.nodes ∧ n.kind = .endpoint ∧ n.name = name := by
  refine ⟨List.mem_of_find?_eq_some h, ?_⟩
  simpa using List.find?_some h

/-- Entries that are added behind the others do not hide an endpoint. -/
theorem findEndpoint_of_prefix {r r' : Registry} (h : r.entries <+: r'.entries) {name : Text}
    {n : Node} (hn : r.findEndpoint name = some n) : r'.findEndpoint name = some n := by
  obtain ⟨more, hmore⟩ := h
  unfold findEndpoint nodes at hn ⊢
  rw [← hmore, List.map_append, List.find?_append, hn, Option.some_or]

theorem roster_prefix {r r' : Registry} (h : r.entries <+: r'.entries) :
    r.roster <+: r'.roster := by
  unfold roster nodes
  exact (h.map _).map _

theorem withEndpoint_catalogue (paths names : List Text) (name : Text) :
    (Scan.catalogue paths names).withEndpoint name =
      Scan.catalogue paths (addFirsts id names [name]) := by
  unfold withEndpoint
  rw [Scan.findEndpoint_catalogue]
  by_cases h : name ∈ names
  · rw [if_pos h, addFirsts_old id (by simpa using h)]
    rfl
  · have hindexed : (Scan.catalogue paths names).isIndexed name = true ↔ name ∈ paths := by
      rw [isIndexed_iff, Scan.mem_keys_catalogue]
      simp [h]
    rw [if_neg h, addFirsts_new id (by simpa using h)]
    simp only [Option.isSome_none, Bool.false_eq_true, if_false, hindexed]
    simp [Scan.catalogue]

theorem foldl_withEndpoint_catalogue (paths names items : List Text) :
    items.foldl withEndpoint (Scan.catalogue paths names) =
      Scan.catalogue paths (addFirsts id names items) := by
  induction items generalizing names with
  | nil => rfl
  | cons name items ih =>
    rw [List.foldl_cons, withEndpoint_catalogue, ih, ← addFirsts_cons]

end Registry

namespace Progress

/-- The edge to the endpoint of a name, unless the file is that endpoint itself. -/
def handlerEdge? (r : Registry) (source : Node) (name : Text) : Option Edge :=
  ((r.findEndpoint name).filter (·.id ≠ source.id)).map fun target =>
    { source := source.id, target := target.id, kind := .endpointHandler }

variable {p : Progress} (source : Node) (route : Route)

theorem findEndpoint_endpoint :
    (endpoint source p route).2.registry.findEndpoint route.path =
      some (endpoint source p route).1 := by
  unfold endpoint
  cases h : p.registry.findEndpoint route.path with
  | some n => exact h
  | none =>
    change (p.registry.add _).2.findEndpoint route.path = some (p.registry.add _).1
    unfold Registry.findEndpoint Registry.add
    rw [Registry.nodes_append, List.find?_append]
    unfold Registry.findEndpoint at h
    rw [h, Option.none_or]
    simp [Registry.append]

theorem edges_endpoint : (endpoint source p route).2.edges = p.edges := by
  unfold endpoint
  cases p.registry.findEndpoint route.path <;> rfl

theorem entries_endpoint :
    p.registry.entries <+: (endpoint source p route).2.registry.entries := by
  unfold endpoint
  cases p.registry.findEndpoint route.path with
  | some n => exact List.prefix_refl _
  | none => exact List.prefix_append _ _

theorem distinct_endpoint (h : p.registry.Distinct) :
    (endpoint source p route).2.registry.Distinct := by
  unfold endpoint
  cases p.registry.findEndpoint route.path with
  | some n => exact h
  | none => exact h.append _ _

theorem bare_endpoint :
    (endpoint source p route).2.registry.bare = p.registry.bare.withEndpoint route.path := by
  unfold endpoint Registry.withEndpoint
  rw [Registry.findEndpoint_bare, Registry.isIndexed_bare]
  cases p.registry.findEndpoint route.path with
  | some n => rfl
  | none => exact Registry.bare_append _ _ _

theorem flagged_endpoint (id : Text) :
    (endpoint source p route).2.registry.Flagged id ↔ p.registry.Flagged id := by
  unfold endpoint
  cases p.registry.findEndpoint route.path with
  | some n => exact Iff.rfl
  | none => exact p.registry.flagged_append rfl id

/-- An identifier is that of another node than the file, the endpoint of one of the names. -/
def IsLinked (r : Registry) (source : Node) (names : List Text) (id : Text) : Prop :=
  ∃ name ∈ names, ∃ n, r.findEndpoint name = some n ∧ n.id = id ∧ n.id ≠ source.id

/-- What holds between two routes of a text when those with the paths `done` were followed. -/
structure Followed (start : Progress) (source : Node) (done : List Text)
    (state : Progress × List Text) : Prop where
  distinct : state.1.registry.Distinct
  entries : start.registry.entries <+: state.1.registry.entries
  bare : state.1.registry.bare = done.foldl Registry.withEndpoint start.registry.bare
  found : ∀ name ∈ done, ∃ n, state.1.registry.findEndpoint name = some n
  flagged : ∀ id, state.1.registry.Flagged id ↔ start.registry.Flagged id
  edges : state.1.edges = start.edges ++
    (addFirsts id [] done).filterMap (handlerEdge? state.1.registry source)
  linked : ∀ id, id ∈ state.2 ↔ IsLinked state.1.registry source done id

theorem Followed.nil (h : p.registry.Distinct) : Followed p source [] (p, []) where
  distinct := h
  entries := List.prefix_refl _
  bare := rfl
  found := by simp
  flagged := fun _ => Iff.rfl
  edges := by simp
  linked := by simp [IsLinked]

/-- Endpoints of one identifier have one name. -/
theorem findEndpoint_name_eq {r : Registry} (h : r.Distinct) {m n : Node} {name name' : Text}
    (hm : r.findEndpoint name = some m) (hn : r.findEndpoint name' = some n) (hid : m.id = n.id) :
    name = name' := by
  obtain ⟨hmem, -, hname⟩ := Registry.findEndpoint_some hm
  obtain ⟨hmem', -, hname'⟩ := Registry.findEndpoint_some hn
  have hbare : m.bare = n.bare :=
    h.eq_of_mem_roster (Registry.mem_roster hmem) (hid ▸ Registry.mem_roster hmem')
  rw [← hname, ← hname', ← m.bare_name, ← n.bare_name, hbare]

theorem followRoute_eq (linked : List Text) :
    followRoute source (p, linked) route =
      if (endpoint source p route).1.id ∈ linked ∨ (endpoint source p route).1.id = source.id then
        ((endpoint source p route).2, linked)
      else ((endpoint source p route).2.link source.id (endpoint source p route).1.id
        .endpointHandler, (endpoint source p route).1.id :: linked) := by
  have hiff : (linked.contains (endpoint source p route).1.id ||
      decide ((endpoint source p route).1.id = source.id)) = true ↔
      (endpoint source p route).1.id ∈ linked ∨ (endpoint source p route).1.id = source.id := by
    simp
  exact if_congr hiff rfl rfl

/-! A registry `r` with the endpoints of all names that were met, and a later one `r'` with the
endpoint `node` of the next name. -/
section

variable {r r' : Registry} {names : List Text}

/-- What was found for the earlier names is still found. -/
theorem findEndpoint_eq_of_found (hentries : r.entries <+: r'.entries)
    (hfound : ∀ name ∈ names, ∃ n, r.findEndpoint name = some n) :
    ∀ name ∈ names, r'.findEndpoint name = r.findEndpoint name := by
  intro name hname
  obtain ⟨n, hn⟩ := hfound name hname
  rw [Registry.findEndpoint_of_prefix hentries hn, hn]

variable (hstable : ∀ name ∈ names, r'.findEndpoint name = r.findEndpoint name)

include hstable in
theorem filterMap_handlerEdge?_eq : (addFirsts id [] names).filterMap (handlerEdge? r' source) =
    (addFirsts id [] names).filterMap (handlerEdge? r source) := by
  apply List.filterMap_congr
  intro name hname
  rw [mem_addFirsts] at hname
  unfold handlerEdge?
  rw [hstable name (by simpa using hname)]

variable {name : Text} {node : Node} (hnode : r'.findEndpoint name = some node)
include hnode

theorem handlerEdge?_of_found : handlerEdge? r' source name = if node.id = source.id then none
    else some { source := source.id, target := node.id, kind := .endpointHandler } := by
  unfold handlerEdge?
  rw [hnode]
  by_cases hself : node.id = source.id <;> simp [Option.filter, hself]

include hstable

theorem isLinked_concat (id : Text) : IsLinked r' source (names ++ [name]) id ↔
    IsLinked r source names id ∨ node.id = id ∧ node.id ≠ source.id := by
  constructor
  · rintro ⟨name', hname, n, hn, hid⟩
    rcases List.mem_append.mp hname with hname | hname
    · exact Or.inl ⟨name', hname, n, by rwa [← hstable name' hname], hid⟩
    · rw [List.mem_singleton.mp hname, hnode] at hn
      cases hn
      exact Or.inr hid
  · rintro (⟨name', hname, n, hn, hid⟩ | hid)
    · exact ⟨name', List.mem_append_left _ hname, n, by rwa [hstable name' hname], hid⟩
    · exact ⟨name, List.mem_append_right _ (List.mem_singleton.mpr rfl), node, hnode, hid⟩

/-- An endpoint is linked already just if its name was met before. -/
theorem isLinked_iff (h : r'.Distinct) :
    IsLinked r source names node.id ↔ name ∈ names ∧ node.id ≠ source.id := by
  constructor
  · rintro ⟨name', hname, n, hn, hid, hne⟩
    rw [← hstable name' hname] at hn
    exact ⟨findEndpoint_name_eq h hn hnode hid ▸ hname, hid ▸ hne⟩
  · rintro ⟨hname, hne⟩
    exact ⟨name, hname, node, by rwa [← hstable _ hname], rfl, hne⟩

theorem filterMap_handlerEdge?_concat (hskip : name ∈ names ∨ node.id = source.id) :
    (addFirsts id [] (names ++ [name])).filterMap (handlerEdge? r' source) =
      (addFirsts id [] names).filterMap (handlerEdge? r source) := by
  rw [addFirsts_append, ← filterMap_handlerEdge?_eq source hstable]
  by_cases hname : name ∈ names
  · rw [addFirsts_old id (by simpa [mem_addFirsts] using hname)]
  · rw [addFirsts_new id (by simpa [mem_addFirsts] using hname), List.filterMap_append,
      List.filterMap_cons, handlerEdge?_of_found source hnode, if_pos (hskip.resolve_left hname),
      List.filterMap_nil, List.append_nil]

theorem filterMap_handlerEdge?_concat_new (hname : name ∉ names) (hself : node.id ≠ source.id) :
    (addFirsts id [] (names ++ [name])).filterMap (handlerEdge? r' source) =
      (addFirsts id [] names).filterMap (handlerEdge? r source) ++
        [{ source := source.id, target := node.id, kind := .endpointHandler }] := by
  rw [addFirsts_append, addFirsts_new id (by simpa [mem_addFirsts] using hname),
    List.filterMap_append, List.filterMap_cons, handlerEdge?_of_found source hnode, if_neg hself,
    List.filterMap_nil, filterMap_handlerEdge?_eq source hstable]

end

/-- A route leads from a state of `Followed` to one. -/
theorem Followed.step {start : Progress} {done linked : List Text}
    (h : Followed start source done (p, linked)) :
    Followed start source (done ++ [route.path]) (followRoute source (p, linked) route) := by
  have hnode := findEndpoint_endpoint (p := p) source route
  have hbare := bare_endpoint (p := p) source route
  have hedges := edges_endpoint (p := p) source route
  have hentries := entries_endpoint (p := p) source route
  have hdistinct := distinct_endpoint (p := p) source route h.distinct
  have hflagged := fun id => (flagged_endpoint (p := p) source route id).trans (h.flagged id)
  rw [followRoute_eq]
  generalize endpoint source p route = e at *
  obtain ⟨node, q⟩ := e
  have hstable := findEndpoint_eq_of_found hentries h.found
  have hmet : node.id ∈ linked ↔ route.path ∈ done ∧ node.id ≠ source.id :=
    (h.linked node.id).trans (isLinked_iff source hstable hnode hdistinct)
  have hlinked := fun id => isLinked_concat source hstable hnode id
  have hfound : ∀ name ∈ done ++ [route.path], ∃ n, q.registry.findEndpoint name = some n := by
    intro name hname
    rcases List.mem_append.mp hname with hname | hname
    · rw [hstable name hname]
      exact h.found name hname
    · rw [List.mem_singleton.mp hname]
      exact ⟨node, hnode⟩
  have hwith : q.registry.bare =
      (done ++ [route.path]).foldl Registry.withEndpoint start.registry.bare := by
    rw [List.foldl_append, ← h.bare]
    exact hbare
  rw [h.edges] at hedges
  split_ifs with hskip
  · refine ⟨hdistinct, h.entries.trans hentries, hwith, hfound, hflagged, ?_, fun id => ?_⟩
    · have hold : route.path ∈ done ∨ node.id = source.id := by
        rw [hmet] at hskip
        exact hskip.imp_left And.left
      rw [hedges, filterMap_handlerEdge?_concat source hstable hnode hold]
    · rw [hlinked, ← h.linked]
      constructor
      · exact Or.inl
      · rintro (hid | ⟨rfl, hne⟩)
        · exact hid
        · exact hskip.resolve_right hne
  · rw [not_or] at hskip
    have hnew : route.path ∉ done := fun hdone => hskip.1 (hmet.mpr ⟨hdone, hskip.2⟩)
    refine ⟨hdistinct, h.entries.trans hentries, hwith, hfound, hflagged, ?_, fun id => ?_⟩
    · change q.edges ++ [{ source := source.id, target := node.id, kind := .endpointHandler }] = _
      rw [hedges, List.append_assoc, ← filterMap_handlerEdge?_concat_new source hstable hnode hnew
        hskip.2]
      rfl
    · change id ∈ node.id :: linked ↔ IsLinked q.registry source (done ++ [route.path]) id
      rw [hlinked, ← h.linked, List.mem_cons, or_comm, and_iff_left hskip.2, eq_comm]

theorem Followed.foldl {start : Progress} {done : List Text} {state : Progress × List Text}
    (h : Followed start source done state) (routes : List Route) :
    Followed start source (done ++ routes.map (·.path))
      (routes.foldl (followRoute source) state) := by
  induction routes generalizing done state with
  | nil => simpa using h
  | cons route routes ih =>
    have hstep := h.step source route
    simpa using ih hstep

end Progress
end CodeGraph
