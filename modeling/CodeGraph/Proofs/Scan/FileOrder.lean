import CodeGraph.Proofs.Scan.Labels
import Mathlib.Data.List.Flatten

/-! What does not depend on the order of the files: the files and what their nodes say, the names of
the endpoints, which files have which endpoints, and the imports that name a file in full. -/
namespace CodeGraph

namespace Node

def anonymous (n : Node) : Node :=
  { n with id := [] }

end Node

namespace Scan

/-- A bare node with the note that the texts of the files ask for. -/
def noted (files : List SourceFile) (b : Node) : Node :=
  { b with hasDb := (files.any fun f => callsDatabase f.content && b = fileNode f.path) }

theorem noted_fileNode {files : List SourceFile} (hpaths : (files.map (·.path)).Nodup)
    {f : SourceFile} (hf : f ∈ files) : noted files (fileNode f.path) =
      { fileNode f.path with hasDb := callsDatabase f.content } := by
  have hdb : (files.any fun f' => callsDatabase f'.content && fileNode f.path = fileNode f'.path) =
      callsDatabase f.content := by
    rw [Bool.eq_iff_iff, List.any_eq_true]
    constructor
    · rintro ⟨f', hf', htest⟩
      obtain ⟨hcalls, hnode⟩ := (Bool.and_eq_true _ _).mp htest
      have hpath : f.path = f'.path := fileNode_injective (of_decide_eq_true hnode)
      rwa [List.inj_on_of_nodup_map hpaths hf hf' hpath]
    · exact fun hcalls => ⟨f, hf, by simp [hcalls]⟩
  unfold noted
  rw [hdb]

end Scan

namespace Graph

/-- The nodes of files, without their identifiers. -/
def fileNodes (g : Graph) : List Node :=
  (g.nodes.filter (·.kind ≠ .endpoint)).map Node.anonymous

def endpointNames (g : Graph) : List Text :=
  (g.nodes.filter (·.kind = .endpoint)).map (·.name)

/-- Which file has which endpoint: the paths of the one with the names of the other. -/
def handlers (g : Graph) : List (Option Text × Option Text) :=
  (g.edges.filter (·.kind = .endpointHandler)).map fun e =>
    ((g.node? e.source).map (·.path), (g.node? e.target).map (·.name))

/-- Two graphs have the same files, endpoints and handlers, in any order. -/
structure Rearranges (g g' : Graph) : Prop where
  files : g.fileNodes.Perm g'.fileNodes
  endpoints : g.endpointNames.Perm g'.endpointNames
  handlers : g.handlers.Perm g'.handlers

namespace Follows

variable {g : Graph} {files : List SourceFile} (h : g.Follows files)
include h

theorem anonymous_eq {n : Node} (hn : n ∈ g.nodes) : n.anonymous = Scan.noted files n.bare := by
  have hdb : n.hasDb =
      files.any fun f => callsDatabase f.content && n.bare = Scan.fileNode f.path := by
    rw [Bool.eq_iff_iff, h.flagged n hn]
    simp
  unfold Node.anonymous
  rw [hdb]
  rfl

theorem bare_files : (g.nodes.map Node.bare).filter (·.kind ≠ .endpoint) =
    files.map fun f => Scan.fileNode f.path := by
  have hfiles : (files.map fun f => Scan.fileNode f.path).filter (·.kind ≠ .endpoint) =
      files.map fun f => Scan.fileNode f.path := by
    rw [List.filter_eq_self]
    simp
  have hnames : ((Scan.routeNames files).map Scan.endpointNode).filter (·.kind ≠ .endpoint) =
      [] := by
    rw [List.filter_eq_nil_iff]
    simp
  rw [h.nodes, List.filter_append, hfiles, hnames, List.append_nil]

theorem bare_endpoints : (g.nodes.map Node.bare).filter (·.kind = .endpoint) =
    (Scan.routeNames files).map Scan.endpointNode := by
  have hfiles : (files.map fun f => Scan.fileNode f.path).filter (·.kind = .endpoint) = [] := by
    rw [List.filter_eq_nil_iff]
    simp
  have hnames : ((Scan.routeNames files).map Scan.endpointNode).filter (·.kind = .endpoint) =
      (Scan.routeNames files).map Scan.endpointNode := by
    rw [List.filter_eq_self]
    simp
  rw [h.nodes, List.filter_append, hfiles, hnames, List.nil_append]

theorem fileNodes_eq (hpaths : (files.map (·.path)).Nodup) : g.fileNodes =
    files.map fun f => { Scan.fileNode f.path with hasDb := callsDatabase f.content } := by
  have hbare : g.fileNodes =
      ((g.nodes.map Node.bare).filter (·.kind ≠ .endpoint)).map (Scan.noted files) := by
    unfold fileNodes
    rw [List.filter_map, List.map_map]
    exact List.map_congr_left fun n hn => h.anonymous_eq (List.mem_of_mem_filter hn)
  rw [hbare, h.bare_files, List.map_map]
  exact List.map_congr_left fun f hf => Scan.noted_fileNode hpaths hf

theorem endpointNames_eq : g.endpointNames = Scan.routeNames files := by
  have hbare : g.endpointNames =
      ((g.nodes.map Node.bare).filter (·.kind = .endpoint)).map (·.name) := by
    unfold endpointNames
    rw [List.filter_map, List.map_map]
    rfl
  rw [hbare, h.bare_endpoints, List.map_map]
  exact List.map_id _

theorem handlers_eq : g.handlers = files.flatMap fun f =>
    (addFirsts id [] f.routePaths).map fun name => (some f.path, some name) := by
  have hkind : ∀ (l : Scan.Link) (e : Edge), l.Joins g.roster e →
      (decide (l.kind = .endpointHandler) = true ↔ decide (e.kind = .endpointHandler) = true) := by
    intro l e hl
    rw [hl.kind]
  have hlinks := List.rel_filter (fun l e hl => hkind l e hl) h.edges
  have hends : ∀ (l : Scan.Link) (e : Edge), l.Joins g.roster e →
      (some l.source.path, some l.target.name) =
        ((g.node? e.source).map (·.path), (g.node? e.target).map (·.name)) := by
    intro l e hl
    obtain ⟨m, hm, hsource⟩ := h.node?_of_mem_roster hl.source
    obtain ⟨n, hn, htarget⟩ := h.node?_of_mem_roster hl.target
    rw [hm, hn, ← hsource, ← htarget]
    rfl
  unfold handlers
  rw [← map_eq_of_forall₂ hlinks hends, Scan.filter_handlers_links, List.map_flatMap]
  simp only [List.map_map]
  rfl

end Follows

end Graph

/-- Which paths a specifier may name does not depend on their order. -/
theorem Specifier.isExact_congr {paths paths' : List Text} (h : ∀ path, path ∈ paths ↔ path ∈ paths') :
    Specifier.isExact paths = Specifier.isExact paths' := by
  funext source s
  unfold Specifier.isExact
  congr 1
  rw [Bool.eq_iff_iff, List.contains_iff_mem, List.contains_iff_mem, h]

namespace Scan

theorem keptFiles_of_nodup {files : List SourceFile} (h : (files.map (·.path)).Nodup)
    (extensions : List Text) :
    keptFiles extensions files = files.filter fun f => isAccepted extensions f.path := by
  unfold keptFiles
  apply addFirsts_of_nodup
  exact h.sublist (List.filter_sublist.map _)

theorem routeNames_perm {files files' : List SourceFile} (h : files'.Perm files) :
    (routeNames files').Perm (routeNames files) := by
  rw [List.perm_ext_iff_of_nodup (nodup_routeNames files') (nodup_routeNames files)]
  intro name
  rw [mem_routeNames, mem_routeNames]
  simp only [h.mem_iff]

/-- The arrows of the specifiers that name a file in full, file by file. -/
def exactArrows (options : ScanOptions) (files : List SourceFile) : List Arrow :=
  let kept := keptFiles options.extensions files
  kept.flatMap fun f =>
    (f.specifiers.filter (Specifier.isExact (kept.map (·.path)) f.path)).filterMap fun s =>
      importArrow? f.path (resolvesTo options files f.path s)

theorem exactArrows_sublist (options : ScanOptions) (files : List SourceFile) :
    (exactArrows options files).Sublist (importArrows options files) :=
  List.Sublist.flatMap_right _ fun _ _ => List.filter_sublist.filterMap _

/-- These arrows lead to the files that are named. -/
theorem exactArrows_eq {o : ScanOptions} (ho : o.Undisturbed) {files : List SourceFile}
    (hread : ∀ f ∈ files, ∀ message, f.reading ≠ .crash message) :
    exactArrows o files = (keptFiles o.extensions files).flatMap fun f =>
      (f.specifiers.filter (Specifier.isExact ((keptFiles o.extensions files).map (·.path))
        f.path)).filterMap fun s => importArrow? f.path (some (fileLabel (s.target f.path))) := by
  unfold exactArrows
  apply List.flatMap_congr
  intro f hf
  obtain ⟨earlier, later, hkept⟩ := List.append_of_mem hf
  apply List.filterMap_congr
  intro s hs
  have hexact := (List.mem_filter.mp hs).2
  rw [resolvesTo_eq ho hread hkept, resolve_catalogue_of_isExact _ _ hexact]
  rfl

/-- Files in another order give the same files, endpoints and handlers, and the imports that name a
file in full lead to the same files. Nodes are told apart by what they say, not by identifiers. -/
theorem scan_perm {o o' : ScanOptions} (ho : o.Undisturbed) (ho' : o'.Undisturbed)
    (hextensions : o'.extensions = o.extensions) {files files' : List SourceFile}
    (hpaths : (files.map (·.path)).Nodup) (hperm : files'.Perm files)
    (hread : ∀ f ∈ files, ∀ message, f.reading ≠ .crash message) :
    ∃ result result', scan o files = .ok result ∧ scan o' files' = .ok result' ∧
      result'.graph.Rearranges result.graph ∧
      result.graph.arrowsOf .imports = importArrows o files ∧
      result'.graph.arrowsOf .imports = importArrows o' files' ∧
      (exactArrows o files).Sublist (importArrows o files) ∧
      (exactArrows o' files').Sublist (importArrows o' files') ∧
      (exactArrows o' files').Perm (exactArrows o files) := by
  have hread' : ∀ f ∈ files', ∀ message, f.reading ≠ .crash message :=
    fun f hf => hread f (hperm.subset hf)
  have hpaths' : (files'.map (·.path)).Nodup := (hperm.map _).nodup_iff.mpr hpaths
  have hkept : (keptFiles o'.extensions files').Perm (keptFiles o.extensions files) := by
    rw [keptFiles_of_nodup hpaths, keptFiles_of_nodup hpaths', hextensions]
    exact hperm.filter _
  obtain ⟨result, hscan, hfollows⟩ := scan_follows ho hread
  obtain ⟨result', hscan', hfollows'⟩ := scan_follows ho' hread'
  refine ⟨result, result', hscan, hscan', ⟨?_, ?_, ?_⟩, imports_eq ho hread hfollows,
    imports_eq ho' hread' hfollows', exactArrows_sublist o files, exactArrows_sublist o' files', ?_⟩
  · rw [hfollows.fileNodes_eq (nodup_keptFiles _ _), hfollows'.fileNodes_eq (nodup_keptFiles _ _)]
    exact hkept.map _
  · rw [hfollows.endpointNames_eq, hfollows'.endpointNames_eq]
    exact routeNames_perm hkept
  · rw [hfollows.handlers_eq, hfollows'.handlers_eq]
    exact hkept.flatMap_right _
  · have hexact : Specifier.isExact ((keptFiles o'.extensions files').map (·.path)) =
        Specifier.isExact ((keptFiles o.extensions files).map (·.path)) :=
      Specifier.isExact_congr fun path => (hkept.map _).mem_iff
    rw [exactArrows_eq ho hread, exactArrows_eq ho' hread', hexact]
    exact hkept.flatMap_right _

/-- Files that import each other, share a route and find an endpoint in one order alone. -/
def sharingProject : List SourceFile :=
  [⟨"web/a.js", .text "import './b.js'; app.get('/items', list); require('../items')"⟩,
    ⟨"web/b.js", .text "require('./a.js'); router.post('/items', db.create)"⟩,
    ⟨"tool.py", .text "from web.lib import items\nimport lib"⟩,
    ⟨"lib.py", .text []⟩]

theorem scan_perm_sharingProject :
    (sharingProject.map (·.path)).Nodup ∧ sharingProject.reverse.Perm sharingProject ∧
    (∀ f ∈ sharingProject, ∀ message, f.reading ≠ .crash message) ∧
    (exactArrows {} sharingProject).length = 3 ∧
    ∃ result result', scan {} sharingProject = .ok result ∧
      scan {} sharingProject.reverse = .ok result' ∧
      result'.graph.Rearranges result.graph ∧
      result.graph.arrowsOf .imports = importArrows {} sharingProject ∧
      result'.graph.arrowsOf .imports = importArrows {} sharingProject.reverse ∧
      (exactArrows {} sharingProject).Sublist (importArrows {} sharingProject) ∧
      (exactArrows {} sharingProject.reverse).Sublist (importArrows {} sharingProject.reverse) ∧
      (exactArrows {} sharingProject.reverse).Perm (exactArrows {} sharingProject) := by
  have hpaths : (sharingProject.map (·.path)).Nodup := by decide
  have hperm : sharingProject.reverse.Perm sharingProject := List.reverse_perm _
  have hread : ∀ f ∈ sharingProject, ∀ message, f.reading ≠ .crash message := by
    simp [sharingProject]
  exact ⟨hpaths, hperm, hread, by decide, scan_perm ScanOptions.undisturbed_default
    ScanOptions.undisturbed_default rfl hpaths hperm hread⟩

end Scan
end CodeGraph
