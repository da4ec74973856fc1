import CodeGraph.Proofs.Scan.Outline

/-! The graph of every scan that nothing ends early follows its outline: its nodes are those of the
kept files and of their endpoints, its edges are the links. -/
namespace CodeGraph

namespace Graph

/-- The identifiers of a graph with the bare nodes that they stand for. -/
def roster (g : Graph) : List (Text × Node) :=
  g.nodes.map fun n => (n.id, n.bare)

theorem mem_roster {g : Graph} {id : Text} {n : Node} :
    (id, n) ∈ g.roster ↔ ∃ m ∈ g.nodes, m.id = id ∧ m.bare = n := by
  simp [roster]

/-- The node of a file with this path, the only one of the graph. -/
structure IsFileNode (g : Graph) (path : Text) (n : Node) : Prop where
  mem : n ∈ g.nodes
  kind : n.kind ≠ .endpoint
  path_eq : n.path = path
  unique : ∀ m ∈ g.nodes, m.kind ≠ .endpoint → m.path = path → m = n

/-- A graph holds what the given files and their texts say: a node for each file and each route
path, and the edges of the outline. -/
structure Follows (g : Graph) (files : List SourceFile) : Prop where
  ids : g.ids.Nodup
  nodes : g.nodes.map Node.bare = files.map (fun f => Scan.fileNode f.path) ++
    (Scan.routeNames files).map Scan.endpointNode
  edges : List.Forall₂ (Scan.Link.Joins g.roster) (Scan.links (files.map (·.path)) [] files) g.edges
  flagged : ∀ n ∈ g.nodes, n.hasDb = true ↔
    ∃ f ∈ files, callsDatabase f.content = true ∧ n.bare = Scan.fileNode f.path

theorem forall₂_exists {α β : Type} {R : α → β → Prop} {as : List α} {bs : List β}
    (h : List.Forall₂ R as bs) : (∀ a ∈ as, ∃ b ∈ bs, R a b) ∧ ∀ b ∈ bs, ∃ a ∈ as, R a b := by
  induction h with
  | nil => simp
  | cons hab _ ih => grind

theorem map_eq_of_forall₂ {α β γ : Type} {R : α → β → Prop} {f : α → γ} {g : β → γ}
    {as : List α} {bs : List β} (h : List.Forall₂ R as bs) (hfg : ∀ a b, R a b → f a = g b) :
    as.map f = bs.map g := by
  induction h with
  | nil => rfl
  | cons hab _ ih => rw [List.map_cons, List.map_cons, ih, hfg _ _ hab]

namespace Follows

variable {g : Graph} {files : List SourceFile} (h : g.Follows files)
include h

theorem link_of_edge {e : Edge} (he : e ∈ g.edges) :
    ∃ l ∈ Scan.links (files.map (·.path)) [] files, l.Joins g.roster e :=
  (forall₂_exists h.edges).2 e he

theorem edge_of_link {l : Scan.Link} (hl : l ∈ Scan.links (files.map (·.path)) [] files) :
    ∃ e ∈ g.edges, l.Joins g.roster e :=
  (forall₂_exists h.edges).1 l hl

/-- An identifier stands for one node. -/
theorem eq_of_id_eq {m n : Node} (hm : m ∈ g.nodes) (hn : n ∈ g.nodes) (hid : m.id = n.id) :
    m = n :=
  List.inj_on_of_nodup_map h.ids hm hn hid

theorem bare_eq_fileNode {n : Node} (hn : n ∈ g.nodes) (hkind : n.kind ≠ .endpoint) :
    n.bare = Scan.fileNode n.path ∧ n.path ∈ files.map (·.path) := by
  have hbare : n.bare ∈ g.nodes.map Node.bare := List.mem_map_of_mem hn
  rw [h.nodes, List.mem_append] at hbare
  rcases hbare with hbare | hbare
  · obtain ⟨f, hf, heq⟩ := List.mem_map.mp hbare
    have hpath : n.path = f.path := by rw [← n.bare_path, ← heq, Scan.fileNode_path]
    rw [hpath]
    exact ⟨heq.symm, List.mem_map_of_mem hf⟩
  · obtain ⟨name, -, heq⟩ := List.mem_map.mp hbare
    rw [← n.bare_kind, ← heq] at hkind
    exact absurd rfl hkind

theorem bare_of_isFileNode {path : Text} {n : Node} (hn : g.IsFileNode path n) :
    n.bare = Scan.fileNode path := by
  rw [(h.bare_eq_fileNode hn.mem hn.kind).1, hn.path_eq]

theorem bare_eq_endpointNode {n : Node} (hn : n ∈ g.nodes) (hkind : n.kind = .endpoint) :
    n.bare = Scan.endpointNode n.name ∧ n.name ∈ Scan.routeNames files := by
  have hbare : n.bare ∈ g.nodes.map Node.bare := List.mem_map_of_mem hn
  rw [h.nodes, List.mem_append] at hbare
  rcases hbare with hbare | hbare
  · obtain ⟨f, -, heq⟩ := List.mem_map.mp hbare
    rw [← n.bare_kind, ← heq] at hkind
    exact absurd hkind (Scan.fileNode_kind_ne f.path)
  · obtain ⟨name, hname, heq⟩ := List.mem_map.mp hbare
    have hn : n.name = name := by rw [← n.bare_name, ← heq, Scan.endpointNode_name]
    rw [hn]
    exact ⟨heq.symm, hname⟩

section

variable (hpaths : (files.map (·.path)).Nodup)
include hpaths

theorem nodup_bare_nodes : (g.nodes.map Node.bare).Nodup := by
  have hnodup := Scan.nodup_nodes_catalogue hpaths (Scan.nodup_routeNames files)
  rw [Scan.nodes_catalogue, List.map_map] at hnodup
  rw [h.nodes]
  exact hnodup

theorem eq_of_bare_eq {m n : Node} (hm : m ∈ g.nodes) (hn : n ∈ g.nodes)
    (hbare : m.bare = n.bare) : m = n :=
  List.inj_on_of_nodup_map (h.nodup_bare_nodes hpaths) hm hn hbare

theorem isFileNode {n : Node} (hn : n ∈ g.nodes) {path : Text}
    (hbare : n.bare = Scan.fileNode path) : g.IsFileNode path n where
  mem := hn
  kind := by
    rw [← n.bare_kind, hbare]
    exact Scan.fileNode_kind_ne path
  path_eq := by rw [← n.bare_path, hbare, Scan.fileNode_path]
  unique := by
    rintro m hm hkind rfl
    exact h.eq_of_bare_eq hpaths hm hn (by rw [hbare, (h.bare_eq_fileNode hm hkind).1])

theorem exists_isFileNode {path : Text} (hpath : path ∈ files.map (·.path)) :
    ∃ n, g.IsFileNode path n := by
  obtain ⟨f, hf, rfl⟩ := List.mem_map.mp hpath
  have hbare : Scan.fileNode f.path ∈ g.nodes.map Node.bare := by
    rw [h.nodes]
    exact List.mem_append_left _ (List.mem_map.mpr ⟨f, hf, rfl⟩)
  obtain ⟨n, hn, heq⟩ := List.mem_map.mp hbare
  exact ⟨n, h.isFileNode hpaths hn heq⟩

/-- The node of a file notes whether its text calls a database. -/
theorem hasDb_iff {f : SourceFile} (hf : f ∈ files) {n : Node} (hn : g.IsFileNode f.path n) :
    n.hasDb = true ↔ callsDatabase f.content = true := by
  rw [h.flagged n hn.mem, h.bare_of_isFileNode hn]
  constructor
  · rintro ⟨f', hf', hdb, heq⟩
    rwa [List.inj_on_of_nodup_map hpaths hf hf' (Scan.fileNode_injective heq)]
  · exact fun hdb => ⟨f, hf, hdb, rfl⟩

end

end Follows

end Graph

theorem Scan.Outlined.follows {files : List SourceFile} {p : Progress}
    (h : Scan.Outlined (files.map (·.path)) files p) :
    Graph.Follows { nodes := p.registry.nodes, edges := p.edges } files where
  ids := h.distinct.nodup
  nodes := by
    rw [← Registry.nodes_bare, h.bare, Scan.nodes_catalogue, List.map_map]
    rfl
  edges := h.edges
  flagged := by
    intro n hn
    have hflag : n.hasDb = true ↔ p.registry.Flagged n.id := by
      constructor
      · exact fun hdb => ⟨n, hn, rfl, hdb⟩
      · rintro ⟨m, hm, hid, hdb⟩
        rwa [List.inj_on_of_nodup_map h.distinct.nodup hm hn hid] at hdb
    rw [hflag, h.flagged]
    constructor
    · rintro ⟨f, hf, hdb, hid⟩
      exact ⟨f, hf, hdb, h.distinct.eq_of_mem_roster (Registry.mem_roster hn) hid⟩
    · rintro ⟨f, hf, hdb, hbare⟩
      exact ⟨f, hf, hdb, hbare ▸ Registry.mem_roster hn⟩

namespace Scan

theorem before_outlined {options : ScanOptions} (ho : options.Undisturbed)
    {files : List SourceFile} (hread : ∀ f ∈ files, ∀ message, f.reading ≠ .crash message)
    (number : Nat) : ∃ p, before options files number = .ok p ∧
      Outlined ((keptFiles options.extensions files).map (·.path))
        ((keptFiles options.extensions files).take number) p := by
  obtain ⟨p, kept, -, hreg, hbefore, -⟩ := scan_run ho hread
  exact ⟨_, hbefore number, hreg.outlined number⟩

/-- When the turn of a kept file comes, the files before it are outlined. -/
theorem before_turn {options : ScanOptions} (ho : options.Undisturbed)
    {files : List SourceFile} (hread : ∀ f ∈ files, ∀ message, f.reading ≠ .crash message)
    {earlier later : List SourceFile} (hkept : keptFiles options.extensions files = earlier ++ later) :
    ∃ p, before options files earlier.length = .ok p ∧
      Outlined ((keptFiles options.extensions files).map (·.path)) earlier p := by
  obtain ⟨p, hp, houtlined⟩ := before_outlined ho hread earlier.length
  have hdone : (keptFiles options.extensions files).take earlier.length = earlier := by
    rw [hkept, List.take_left]
  exact ⟨p, hp, hdone ▸ houtlined⟩

/-- A scan that nothing ends early gives a graph, and the graph follows its outline. -/
theorem scan_follows {options : ScanOptions} (ho : options.Undisturbed)
    {files : List SourceFile} (hread : ∀ f ∈ files, ∀ message, f.reading ≠ .crash message) :
    ∃ result, scan options files = .ok result ∧
      result.graph.Follows (keptFiles options.extensions files) := by
  obtain ⟨p, kept, result, hreg, -, hscan, hgraph⟩ := scan_run ho hread
  have houtlined := hreg.outlined kept.length
  have hlength : kept.length = (keptFiles options.extensions files).length := by
    rw [keptFiles, ← hreg.files_eq, List.length_map]
  rw [List.take_length, hlength] at houtlined
  change Outlined _ ((keptFiles options.extensions files).take _) _ at houtlined
  rw [List.take_length] at houtlined
  refine ⟨result, hscan, ?_⟩
  rw [hgraph]
  exact houtlined.follows

end Scan
end CodeGraph
