import CodeGraph.Proofs.Scan.Routes

/-! What the text of one file adds to a scan, in any registry whose identifiers differ: edges for
its imports, endpoints and edges for its routes, and the note about databases. -/
namespace CodeGraph

namespace Registry

variable (r : Registry)

/-- Marking changes what is found for a name in its note alone. -/
theorem findEndpoint_markDatabase (id name : Text) :
    ((r.markDatabase id).findEndpoint name).map (·.id) = (r.findEndpoint name).map (·.id) := by
  unfold findEndpoint
  rw [nodes_markDatabase, List.find?_map, Option.map_map]
  have htest : ((fun n : Node => decide (n.kind = .endpoint) && decide (n.name = name)) ∘
      fun n => if n.id = id then { n with hasDb := true } else n) =
      fun n => decide (n.kind = .endpoint) && decide (n.name = name) := by
    funext n
    simp only [Function.comp_apply]
    split_ifs <;> rfl
  rw [htest]
  congr 1
  funext n
  simp only [Function.comp_apply]
  split_ifs <;> rfl

end Registry

namespace Progress

variable (p : Progress) (source : Node)

/-- The edge to the node that a specifier refers to, unless that is the file itself. -/
def importEdge? (r : Registry) (source : Node) (s : Specifier) : Option Edge :=
  ((r.resolve source.path s).filter (·.id ≠ source.id)).map fun target =>
    { source := source.id, target := target.id, kind := .imports }

theorem registry_followImport (s : Specifier) :
    (followImport source p s).registry = p.registry := by
  unfold followImport
  cases p.registry.resolve source.path s with
  | none => rfl
  | some target => exact (apply_ite Progress.registry _ _ _).trans (ite_self _)

theorem edges_followImport (s : Specifier) :
    (followImport source p s).edges = p.edges ++ (importEdge? p.registry source s).toList := by
  unfold followImport importEdge?
  cases p.registry.resolve source.path s with
  | none => simp [report]
  | some target => by_cases h : target.id = source.id <;> simp [Option.filter, link, h]

theorem registry_foldl_followImport (specifiers : List Specifier) :
    (specifiers.foldl (followImport source) p).registry = p.registry := by
  induction specifiers generalizing p with
  | nil => rfl
  | cons s specifiers ih => rw [List.foldl_cons, ih, registry_followImport]

theorem edges_foldl_followImport (specifiers : List Specifier) :
    (specifiers.foldl (followImport source) p).edges =
      p.edges ++ specifiers.filterMap (importEdge? p.registry source) := by
  induction specifiers generalizing p with
  | nil => simp
  | cons s specifiers ih =>
    rw [List.foldl_cons, ih, edges_followImport, registry_followImport, List.filterMap_cons]
    cases importEdge? p.registry source s <;> simp

theorem handlerEdge?_markDatabase (r : Registry) (id name : Text) :
    handlerEdge? (r.markDatabase id) source name = handlerEdge? r source name := by
  have hid := r.findEndpoint_markDatabase id name
  unfold handlerEdge?
  cases h : r.findEndpoint name with
  | none =>
    rw [h] at hid
    rw [Option.map_eq_none_iff.mp hid]
  | some n =>
    rw [h, Option.map_some] at hid
    obtain ⟨m, hm, hmid⟩ := Option.map_eq_some_iff.mp hid
    rw [hm]
    by_cases hself : n.id = source.id <;> simp [Option.filter, hself, hmid]

/-- Everything that the analysis of a text does to a registry and to the edges. -/
structure Analyzed (start : Progress) (source : Node) (content : Text) (specifiers : List Specifier)
    (done : Progress) : Prop where
  distinct : done.registry.Distinct
  roster : start.registry.roster <+: done.registry.roster
  bare : done.registry.bare =
    ((Route.ofContent content).map (·.path)).foldl Registry.withEndpoint start.registry.bare
  edges : done.edges = start.edges ++
    specifiers.filterMap (importEdge? start.registry source) ++
    (addFirsts id [] ((Route.ofContent content).map (·.path))).filterMap
      (handlerEdge? done.registry source)
  flagged : ∀ id, done.registry.Flagged id ↔ start.registry.Flagged id ∨
    callsDatabase content = true ∧ id = source.id ∧ id ∈ done.registry.ids

theorem detect_eq (content : Text) :
    p.detect content source =
      let q := ((Route.ofContent content).foldl (followRoute source) (p, [])).1
      if callsDatabase content then { q with registry := q.registry.markDatabase source.id }
      else q := rfl

theorem analyzed (h : p.registry.Distinct) (content : Text) (language : Option Language) :
    Analyzed p source content (Specifier.ofContent content language)
      (p.analyze content language source) := by
  let q := (Specifier.ofContent content language).foldl (followImport source) p
  have hregistry : q.registry = p.registry := registry_foldl_followImport p source _
  have hedges : q.edges = p.edges ++
      (Specifier.ofContent content language).filterMap (importEdge? p.registry source) :=
    edges_foldl_followImport p source _
  have hfollowed := (Followed.nil source (hregistry ▸ h)).foldl source (Route.ofContent content)
  change Analyzed p source content _ (q.detect content source)
  rw [detect_eq]
  generalize (Route.ofContent content).foldl (followRoute source) (q, []) = state at hfollowed ⊢
  obtain ⟨hdistinct, hentries, hbare, -, hflagged, hedges', -⟩ := hfollowed
  rw [List.nil_append, hregistry] at hbare
  rw [List.nil_append, hedges] at hedges'
  rw [hregistry] at hentries hflagged
  by_cases hdb : callsDatabase content = true
  · simp only [hdb, if_true]
    refine ⟨hdistinct.markDatabase _, ?_, ?_, ?_, ?_⟩
    · rw [Registry.roster_markDatabase]
      exact Registry.roster_prefix hentries
    · rw [Registry.bare_markDatabase]
      exact hbare
    · rw [hedges']
      congr 2
      funext name
      exact (handlerEdge?_markDatabase source _ _ name).symm
    · intro id
      rw [Registry.flagged_markDatabase, hflagged, Registry.ids_markDatabase]
      simp [hdb]
  · simp only [hdb, Bool.false_eq_true, if_false]
    refine ⟨hdistinct, Registry.roster_prefix hentries, hbare, hedges', ?_⟩
    intro id
    rw [hflagged]
    simp [hdb]

end Progress
end CodeGraph
