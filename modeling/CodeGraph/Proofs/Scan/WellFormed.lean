import CodeGraph.Proofs.Scan.Follows

/-! The graph of a scan is well formed: identifiers differ, and edges lead from files to other nodes
of the graph. -/
namespace CodeGraph

namespace Graph

/-- Every edge leads from the node of one of the files to another node, by an import or to an
endpoint. -/
structure WellFormed (g : Graph) (files : List SourceFile) : Prop where
  ids : g.ids.Nodup
  source : ∀ e ∈ g.edges, ∃ n ∈ g.nodes, n.id = e.source ∧ n.kind ≠ .endpoint ∧
    n.path ∈ files.map (·.path)
  target : ∀ e ∈ g.edges, ∃ n ∈ g.nodes, n.id = e.target
  apart : ∀ e ∈ g.edges, e.source ≠ e.target
  kind : ∀ e ∈ g.edges, e.kind = .imports ∨ e.kind = .endpointHandler
  handler : ∀ e ∈ g.edges, e.kind = .endpointHandler →
    ∃ n ∈ g.nodes, n.id = e.target ∧ n.kind = .endpoint

/-- A link leads to another node than its own, by an import or to an endpoint. -/
theorem link_shape {paths : List Text} {files : List SourceFile} {l : Scan.Link}
    (h : l ∈ Scan.links paths [] files) : l.target ≠ l.source ∧
      (l.kind = .imports ∨ l.kind = .endpointHandler ∧ l.target.kind = .endpoint) := by
  obtain ⟨earlier, f, later, rfl, hl⟩ := Scan.mem_links.mp h
  rcases Scan.mem_fileLinks.mp hl with ⟨s, -, hs⟩ | ⟨name, -, rfl⟩
  · obtain ⟨target, -, hne, rfl⟩ := Scan.importLink?_eq_some_iff.mp hs
    exact ⟨hne, Or.inl rfl⟩
  · exact ⟨(Scan.fileNode_ne_endpointNode _ _).symm, Or.inr ⟨rfl, rfl⟩⟩

theorem Follows.wellFormed {g : Graph} {files : List SourceFile} (h : g.Follows files) :
    g.WellFormed files where
  ids := h.ids
  source := by
    intro e he
    obtain ⟨l, hl, hjoins⟩ := h.link_of_edge he
    obtain ⟨f, hf, hsource⟩ := Scan.source_of_mem_links hl
    obtain ⟨n, hn, hid, hbare⟩ := mem_roster.mp hjoins.source
    rw [hsource] at hbare
    refine ⟨n, hn, hid, ?_, ?_⟩
    · rw [← n.bare_kind, hbare]
      exact Scan.fileNode_kind_ne f.path
    · rw [← n.bare_path, hbare]
      exact List.mem_map.mpr ⟨f, hf, rfl⟩
  target := by
    intro e he
    obtain ⟨l, -, hjoins⟩ := h.link_of_edge he
    obtain ⟨n, hn, hid, -⟩ := mem_roster.mp hjoins.target
    exact ⟨n, hn, hid⟩
  apart := by
    intro e he hloop
    obtain ⟨l, hl, hjoins⟩ := h.link_of_edge he
    have hne := (link_shape hl).1
    obtain ⟨m, hm, hmid, hmbare⟩ := mem_roster.mp hjoins.source
    obtain ⟨n, hn, hnid, hnbare⟩ := mem_roster.mp hjoins.target
    have hmn : m = n := h.eq_of_id_eq hm hn (by rw [hmid, hnid, hloop])
    exact hne (by rw [← hnbare, ← hmbare, hmn])
  kind := by
    intro e he
    obtain ⟨l, hl, hjoins⟩ := h.link_of_edge he
    have hkind := (link_shape hl).2
    rw [hjoins.kind]
    exact hkind.imp_right And.left
  handler := by
    intro e he hhandler
    obtain ⟨l, hl, hjoins⟩ := h.link_of_edge he
    have hkind := (link_shape hl).2
    obtain ⟨n, hn, hid, hbare⟩ := mem_roster.mp hjoins.target
    refine ⟨n, hn, hid, ?_⟩
    rcases hkind with himport | ⟨-, hendpoint⟩
    · rw [hjoins.kind, himport] at hhandler
      exact absurd hhandler (by decide)
    · rw [← n.bare_kind, hbare]
      exact hendpoint

theorem WellFormed.not_dangling {g : Graph} {files : List SourceFile} (h : g.WellFormed files)
    {e : Edge} (he : e ∈ g.edges) : g.isDangling e = false := by
  obtain ⟨m, hm, hsource, -⟩ := h.source e he
  obtain ⟨n, hn, htarget⟩ := h.target e he
  have hsource' : e.source ∈ g.ids := hsource ▸ List.mem_map_of_mem hm
  have htarget' : e.target ∈ g.ids := htarget ▸ List.mem_map_of_mem hn
  simp [isDangling, hsource', htarget']

theorem WellFormed.danglingEdges_eq_nil {g : Graph} {files : List SourceFile}
    (h : g.WellFormed files) : g.danglingEdges = [] := by
  rw [danglingEdges, List.filter_eq_nil_iff]
  intro e he
  rw [h.not_dangling he]
  decide

theorem WellFormed.withoutDanglingEdges_eq {g : Graph} {files : List SourceFile}
    (h : g.WellFormed files) : g.withoutDanglingEdges = g := by
  have hedges : g.edges.filter (fun e => !g.isDangling e) = g.edges := by
    rw [List.filter_eq_self]
    intro e he
    rw [h.not_dangling he]
    rfl
  rw [withoutDanglingEdges, hedges]

end Graph

namespace Scan

/-- Every scan that nothing ends early gives a well-formed graph without dangling edges. -/
theorem scan_wellFormed {options : ScanOptions} (ho : options.Undisturbed)
    {files : List SourceFile} (hread : ∀ f ∈ files, ∀ message, f.reading ≠ .crash message) :
    ∃ result, scan options files = .ok result ∧
      result.graph.WellFormed (keptFiles options.extensions files) ∧
      result.graph.danglingEdges = [] ∧ result.graph.withoutDanglingEdges = result.graph := by
  obtain ⟨result, hscan, hfollows⟩ := scan_follows ho hread
  have hwell := hfollows.wellFormed
  exact ⟨result, hscan, hwell, hwell.danglingEdges_eq_nil, hwell.withoutDanglingEdges_eq⟩

theorem scan_wellFormed_smallProject :
    ({} : ScanOptions).Undisturbed ∧
    (∀ f ∈ smallProject, ∀ message, f.reading ≠ .crash message) ∧
    ∃ result, scan {} smallProject = .ok result ∧
      result.graph.WellFormed (keptFiles defaultExtensions smallProject) ∧
      result.graph.danglingEdges = [] ∧ result.graph.withoutDanglingEdges = result.graph :=
  ⟨ScanOptions.undisturbed_default, smallProject_reads,
    scan_wellFormed ScanOptions.undisturbed_default smallProject_reads⟩

end Scan
end CodeGraph
