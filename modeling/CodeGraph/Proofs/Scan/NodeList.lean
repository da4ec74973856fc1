import CodeGraph.Proofs.Path.Walk
import CodeGraph.Proofs.Scan.Follows
import CodeGraph.Proofs.Scan.Outcome

/-! The nodes of a scan in order: one for each accepted path, then one for each route path. -/
namespace CodeGraph

namespace Node

/-- The node says of a file what its path says. -/
structure DescribesFile (n : Node) : Prop where
  name_plain : '/' ∉ n.name
  name_last : n.path = n.name ∨ ∃ folder, n.path = folder ++ '/' :: n.name
  extension : n.extension = .str (Path.extension n.path)
  kind : n.kind = .ofExtension (Path.extension n.path)
  kind_ne : n.kind ≠ .endpoint
  metadata : n.metadata = []

/-- The node stands for a route, whose path is all it says. -/
structure DescribesEndpoint (n : Node) : Prop where
  kind : n.kind = .endpoint
  path : n.path = n.name
  extension : n.extension = .null
  hasDb : n.hasDb = false
  metadata : n.metadata = []

theorem describesFile_of_bare {n : Node} {path : Text} (h : n.bare = Scan.fileNode path) :
    n.DescribesFile := by
  have hpath : n.path = path := congrArg Node.path h
  have hname : n.name = Path.fileName path := congrArg Node.name h
  have hkind : n.kind = .ofExtension (Path.extension path) := congrArg Node.kind h
  constructor
  · rw [hname]
    exact Text.notMem_afterLast '/' path
  · rw [hname, hpath]
    exact Text.afterLast_cases '/' path
  · rw [hpath]
    exact congrArg Node.extension h
  · rw [hpath, hkind]
  · rw [hkind]
    exact NodeKind.ofExtension_ne_endpoint _
  · exact congrArg Node.metadata h

theorem describesEndpoint_of_bare {n : Node} {name : Text} (h : n.bare = Scan.endpointNode name)
    (hdb : n.hasDb = false) : n.DescribesEndpoint where
  kind := congrArg Node.kind h
  path := (congrArg Node.path h).trans (congrArg Node.name h).symm
  extension := congrArg Node.extension h
  hasDb := hdb
  metadata := congrArg Node.metadata h

end Node

namespace Graph

/-- The nodes are those of files with the given paths, then those of endpoints with the given
names, all in order. -/
structure Lists (g : Graph) (paths names : List Text) : Prop where
  nodes : ∃ files endpoints, g.nodes = files ++ endpoints ∧
    files.map (·.path) = paths ∧ (∀ n ∈ files, n.DescribesFile) ∧
    endpoints.map (·.name) = names ∧ ∀ n ∈ endpoints, n.DescribesEndpoint

theorem Follows.lists {g : Graph} {files : List SourceFile} (h : g.Follows files) :
    g.Lists (files.map (·.path)) (Scan.routeNames files) := by
  obtain ⟨fileNodes, endpoints, hnodes, hfiles, hendpoints⟩ := List.map_eq_append_iff.mp h.nodes
  refine ⟨fileNodes, endpoints, hnodes, ?_, ?_, ?_, ?_⟩
  · have hpaths := congrArg (List.map Node.path) hfiles
    rwa [List.map_map, List.map_map] at hpaths
  · intro n hn
    have hbare : n.bare ∈ fileNodes.map Node.bare := List.mem_map_of_mem hn
    rw [hfiles] at hbare
    obtain ⟨f, -, heq⟩ := List.mem_map.mp hbare
    exact Node.describesFile_of_bare heq.symm
  · have hnames := congrArg (List.map Node.name) hendpoints
    rw [List.map_map, List.map_map] at hnames
    rw [← List.map_id (Scan.routeNames files)]
    exact hnames
  · intro n hn
    have hbare : n.bare ∈ endpoints.map Node.bare := List.mem_map_of_mem hn
    rw [hendpoints] at hbare
    obtain ⟨name, -, heq⟩ := List.mem_map.mp hbare
    refine Node.describesEndpoint_of_bare heq.symm ?_
    have hmem : n ∈ g.nodes := hnodes ▸ List.mem_append_right _ hn
    rw [← Bool.not_eq_true, h.flagged n hmem]
    rintro ⟨f, -, -, hfile⟩
    exact Scan.fileNode_ne_endpointNode _ _ (hfile.symm.trans heq.symm)

/-- Without files there are no endpoints either. -/
theorem Follows.isEmpty_iff {g : Graph} {files : List SourceFile} (h : g.Follows files) :
    g.isEmpty = true ↔ files = [] := by
  have hnodes : g.nodes = [] ↔ g.nodes.map Node.bare = [] := List.map_eq_nil_iff.symm
  rw [isEmpty, List.isEmpty_iff, hnodes, h.nodes, List.append_eq_nil_iff, List.map_eq_nil_iff]
  refine and_iff_left_of_imp fun hfiles => ?_
  rw [hfiles]
  rfl

end Graph

namespace Scan

/-- The texts of the files that could be read, in order. -/
def textsOf (files : List SourceFile) : List Text :=
  files.filterMap (·.reading.text?)

theorem routePaths_eq (files : List SourceFile) : files.flatMap SourceFile.routePaths =
    (textsOf files).flatMap fun content => (Route.ofContent content).map (·.path) := by
  induction files with
  | nil => rfl
  | cons f files ih =>
    rw [List.flatMap_cons, ih, SourceFile.routePaths, SourceFile.content]
    unfold textsOf
    rw [List.filterMap_cons]
    cases f.reading.text? <;> rfl

theorem map_path_keptFiles (extensions : List Text) (files : List SourceFile) :
    (keptFiles extensions files).map (·.path) =
      ((files.map (·.path)).filter (isAccepted extensions)).eraseDups := by
  rw [keptFiles, map_addFirsts, List.map_nil, addFirsts_nil_eq, List.filter_map]
  rfl

/-- In every scan that nothing ends early, the accepted paths and the route paths determine the
nodes, up to identifiers and the notes about databases. The numbers of files count repeated ones. -/
theorem scan_lists {options : ScanOptions} (ho : options.Undisturbed) {files : List SourceFile}
    (hread : ∀ f ∈ files, ∀ message, f.reading ≠ .crash message) :
    ∃ result, scan options files = .ok result ∧
      result.graph.Lists
        ((files.map (·.path)).filter (isAccepted options.extensions)).eraseDups
        ((textsOf (keptFiles options.extensions files)).flatMap fun content =>
          (Route.ofContent content).map (·.path)).eraseDups ∧
      result.filesSeen = files.length ∧
      result.filesAccepted = files.countP (fun f => isAccepted options.extensions f.path) ∧
      (result.graph.isEmpty = true ↔ result.filesAccepted = 0) := by
  obtain ⟨result, hscan, hfollows⟩ := scan_follows ho hread
  obtain ⟨harvest, p, hcompleted⟩ := scan_eq_ok_iff.mp hscan
  have haccepted : result.filesAccepted =
      files.countP (fun f => isAccepted options.extensions f.path) := by
    rw [hcompleted.result_eq, List.countP_eq_length_filter]
    rfl
  have hlists := hfollows.lists
  have hempty : result.graph.isEmpty = true ↔ result.filesAccepted = 0 := by
    rw [hfollows.isEmpty_iff, keptFiles, addFirsts_eq_nil_iff, ← List.length_eq_zero_iff,
      hcompleted.result_eq]
    rfl
  rw [map_path_keptFiles, routeNames, addFirsts_nil_eq, routePaths_eq] at hlists
  exact ⟨result, hscan, hlists, by rw [hcompleted.result_eq]; rfl, haccepted, hempty⟩

theorem scan_lists_smallProject :
    ({} : ScanOptions).Undisturbed ∧
    (∀ f ∈ smallProject, ∀ message, f.reading ≠ .crash message) ∧
    ∃ result, scan {} smallProject = .ok result ∧
      result.graph.Lists ["app/main.js", "app/users.js", "app/broken.py"] ["/users"] ∧
      result.filesSeen = 5 ∧ result.filesAccepted = 4 ∧ result.graph.isEmpty = false := by
  refine ⟨ScanOptions.undisturbed_default, smallProject_reads, ?_⟩
  obtain ⟨result, hscan, hlists, hseen, haccepted, hempty⟩ :=
    scan_lists ScanOptions.undisturbed_default smallProject_reads
  have hpaths : ((smallProject.map (·.path)).filter (isAccepted defaultExtensions)).eraseDups =
      ["app/main.js", "app/users.js", "app/broken.py"] := by decide
  have hnames : ((textsOf (keptFiles defaultExtensions smallProject)).flatMap fun content =>
      (Route.ofContent content).map (·.path)).eraseDups = ["/users"] := by decide
  have hfour : smallProject.countP (fun f => isAccepted defaultExtensions f.path) = 4 := by decide
  rw [hpaths, hnames] at hlists
  rw [hfour] at haccepted
  refine ⟨result, hscan, hlists, hseen, haccepted, ?_⟩
  rw [← Bool.not_eq_true, hempty, haccepted]
  decide

end Scan
end CodeGraph
