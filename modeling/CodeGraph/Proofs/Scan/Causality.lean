import CodeGraph.Proofs.Scan.Labels
import CodeGraph.Proofs.Scan.NodeList
import CodeGraph.Proofs.Scan.ReadingOrder

/-! Texts of later files do not show in what a scan has found before their turn: neither in the
identifiers nor in the endpoints, nor in the edges of the files before them. -/
namespace CodeGraph

namespace Graph

/-- The identifiers of the files with their paths. -/
def fileIds (g : Graph) : List (Text × Text) :=
  (g.nodes.filter (·.kind ≠ .endpoint)).map fun n => (n.id, n.path)

/-- The edges whose source is the node of a file with one of these paths. -/
def edgesFrom (g : Graph) (paths : List Text) : List Edge :=
  g.edges.filter fun e =>
    (g.labelOf e.source).any fun l => l.kind ≠ .endpoint && paths.contains l.path

/-- What was found when the files of `paths` had their turn stands in front in the graph, and these
files have no further edges. -/
structure Continues (g : Graph) (paths : List Text) (p : Progress) : Prop where
  nodes : p.registry.roster <+: g.roster
  edges : p.edges <+: g.edges
  sources : g.edgesFrom paths = p.edges

end Graph

namespace Scan

/-! Registration looks at paths alone. -/

theorem registerFile_congr (p : Progress) {kept kept' : List Kept}
    (hkept : kept.map (·.node) = kept'.map (·.node)) {f f' : SourceFile} (hpath : f.path = f'.path) :
    (registerFile (p, kept) f).1 = (registerFile (p, kept') f').1 ∧
      (registerFile (p, kept) f).2.map (·.node) = (registerFile (p, kept') f').2.map (·.node) := by
  rw [registerFile_eq, registerFile_eq, hpath]
  split_ifs
  · exact ⟨rfl, hkept⟩
  · refine ⟨rfl, ?_⟩
    rw [List.map_append, List.map_append, hkept]
    rfl

theorem registerAll_congr (digits : DigitStream) {files files' : List SourceFile}
    (hpaths : files.map (·.path) = files'.map (·.path)) :
    (registerAll digits files).1 = (registerAll digits files').1 ∧
      (registerAll digits files).2.map (·.node) = (registerAll digits files').2.map (·.node) := by
  have hfold : ∀ (p : Progress) (kept kept' : List Kept),
      kept.map (·.node) = kept'.map (·.node) →
      (files.foldl registerFile (p, kept)).1 = (files'.foldl registerFile (p, kept')).1 ∧
        (files.foldl registerFile (p, kept)).2.map (·.node) =
          (files'.foldl registerFile (p, kept')).2.map (·.node) := by
    induction files generalizing files' with
    | nil =>
      obtain rfl : files' = [] := List.map_eq_nil_iff.mp hpaths.symm
      exact fun _ _ _ hkept => ⟨rfl, hkept⟩
    | cons f files ih =>
      obtain ⟨f', rest, rfl, hpath, hrest⟩ := List.map_eq_cons_iff.mp hpaths.symm
      intro p kept kept' hkept
      obtain ⟨hprogress, hnodes⟩ := registerFile_congr p hkept hpath.symm
      rw [List.foldl_cons, List.foldl_cons]
      generalize registerFile (p, kept) f = state at hprogress hnodes ⊢
      generalize registerFile (p, kept') f' = state' at hprogress hnodes ⊢
      obtain ⟨q, more⟩ := state
      obtain ⟨q', more'⟩ := state'
      obtain rfl : q = q' := hprogress
      exact ih hrest.symm q more more' hnodes
  exact hfold _ [] [] rfl

theorem map_path_acceptedFiles (extensions : List Text) (files : List SourceFile) :
    (acceptedFiles extensions files).map (·.path) =
      (files.map (·.path)).filter (isAccepted extensions) := by
  rw [acceptedFiles, List.filter_map]
  rfl

/-! A visit looks at the text and the node of a file alone. -/

namespace Kept

/-- What the turn of a kept file depends on. -/
def turn (k : Kept) : Text × Node :=
  (k.file.content, k.node)

end Kept

theorem foldl_visit_congr {kept kept' : List Kept} (h : kept.map Kept.turn = kept'.map Kept.turn)
    (p : Progress) : kept.foldl Progress.visit p = kept'.foldl Progress.visit p := by
  have hturn : ∀ ks : List Kept, ks.foldl Progress.visit p = (ks.map Kept.turn).foldl
      (fun q t => q.analyze t.1 (Language.ofExtension? (Path.extension t.2.path)) t.2) p := by
    intro ks
    rw [List.foldl_map]
    rfl
  rw [hturn, hturn, h]

theorem map_turn (kept : List Kept) :
    kept.map Kept.turn = (kept.map (·.file.content)).zip (kept.map (·.node)) := by
  rw [List.zip_map']
  rfl

theorem map_content_keptOf (options : ScanOptions) (files : List SourceFile) (number : Nat) :
    ((keptOf options files).take number).map (·.file.content) =
      ((keptFiles options.extensions files).take number).map (·.content) := by
  have hfiles : (keptOf options files).map (·.file) = keptFiles options.extensions files :=
    (registered _ _).files_eq
  rw [← hfiles, ← List.map_take, List.map_map]
  rfl

/-- What is found when the first few kept files had their turn. -/
def found (options : ScanOptions) (files : List SourceFile) (harvest : Harvest) (number : Nat) :
    Progress :=
  ((keptOf options files).take number).foldl Progress.visit (startOf options files harvest)

/-- The states at the same turn agree if the texts before it do. -/
theorem agrees_found {o o' : ScanOptions} (hextensions : o'.extensions = o.extensions)
    (hdigits : o'.digits = o.digits) {files files' : List SourceFile}
    (hpaths : files'.map (·.path) = files.map (·.path)) {number : Nat}
    (htexts : ((keptFiles o.extensions files').take number).map (·.content) =
      ((keptFiles o.extensions files).take number).map (·.content)) (harvest harvest' : Harvest) :
    (found o files harvest number).Agrees (found o' files' harvest' number) := by
  have haccepted : (acceptedFiles o.extensions files).map (·.path) =
      (acceptedFiles o'.extensions files').map (·.path) := by
    rw [map_path_acceptedFiles, map_path_acceptedFiles, hpaths, hextensions]
  obtain ⟨hstart, hnodes⟩ := registerAll_congr o.digits haccepted
  rw [← hdigits] at hstart hnodes
  have hkept : ((keptOf o files).take number).map (·.node) =
      ((keptOf o' files').take number).map (·.node) := by
    unfold keptOf
    rw [List.map_take, ← hdigits, hnodes, List.map_take]
  have hturns : ((keptOf o files).take number).map Kept.turn =
      ((keptOf o' files').take number).map Kept.turn := by
    rw [map_turn, map_turn, map_content_keptOf, map_content_keptOf, hextensions, htexts, hkept]
  have hagrees : (startOf o files harvest).Agrees (startOf o' files' harvest') := by
    unfold startOf
    rw [← hdigits, hstart]
    exact ⟨rfl, rfl⟩
  unfold found
  rw [foldl_visit_congr hturns]
  exact Progress.agrees_foldl_visit hagrees _

end Scan

/-! What is found stays. -/

namespace Progress

/-- Nodes and edges are added at the end alone. -/
structure Grows (p q : Progress) : Prop where
  roster : p.registry.roster <+: q.registry.roster
  edges : p.edges <+: q.edges

theorem Grows.refl (p : Progress) : p.Grows p :=
  ⟨List.prefix_refl _, List.prefix_refl _⟩

theorem Grows.trans {p q r : Progress} (hpq : p.Grows q) (hqr : q.Grows r) : p.Grows r :=
  ⟨hpq.roster.trans hqr.roster, hpq.edges.trans hqr.edges⟩

theorem grows_visit {p : Progress} (h : p.registry.Distinct) (k : Scan.Kept) :
    p.Grows (p.visit k) := by
  have hvisit := analyzed p k.node h k.file.content
    (Language.ofExtension? (Path.extension k.node.path))
  refine ⟨hvisit.roster, ?_⟩
  unfold visit
  rw [hvisit.edges, List.append_assoc]
  exact List.prefix_append _ _

theorem grows_foldl_visit {p : Progress} (h : p.registry.Distinct) (kept : List Scan.Kept) :
    p.Grows (kept.foldl visit p) := by
  induction kept generalizing p with
  | nil => exact Grows.refl p
  | cons k kept ih =>
    have hdistinct : (p.visit k).registry.Distinct := (analyzed p k.node h _ _).distinct
    exact (grows_visit h k).trans (ih hdistinct)

end Progress

theorem Scan.isFileLabel_iff (path : Text) (paths : List Text) :
    ((fileLabel path).kind ≠ .endpoint && paths.contains (fileLabel path).path) = true ↔
      path ∈ paths := by
  have hkind : (fileLabel path).kind ≠ .endpoint := fileNode_kind_ne path
  have hpath : (fileLabel path).path = path := rfl
  simp [hkind, hpath]

namespace Graph.Follows

variable {g : Graph} {done rest : List SourceFile} (h : g.Follows (done ++ rest))
  (hpaths : ((done ++ rest).map (·.path)).Nodup)
include h hpaths

/-- What the files of `done` have found stands in front, and behind it are edges of other files. -/
theorem continues {p : Progress} (houtlined : Scan.Outlined ((done ++ rest).map (·.path)) done p)
    (hroster : p.registry.roster <+: g.roster) (hedges : p.edges <+: g.edges) :
    g.Continues (done.map (·.path)) p := by
  refine ⟨hroster, hedges, ?_⟩
  obtain ⟨more, hmore⟩ := hedges
  have hall := h.edges
  rw [Scan.links_append, ← hmore] at hall
  have hlength : (Scan.links ((done ++ rest).map (·.path)) [] done).length = p.edges.length :=
    houtlined.edges.length_eq
  have hlater := List.forall₂_drop p.edges.length hall
  rw [List.drop_left, List.drop_left' hlength] at hlater
  have hsource : ∀ {names : List Text} {files : List SourceFile} {edges : List Edge},
      List.Forall₂ (Scan.Link.Joins g.roster)
        (Scan.links ((done ++ rest).map (·.path)) names files) edges →
      ∀ e ∈ edges, ∃ f ∈ files, g.labelOf e.source = some (Scan.fileLabel f.path) := by
    intro names files edges hedges e he
    obtain ⟨l, hl, hjoins⟩ := (forall₂_exists hedges).2 e he
    obtain ⟨f, hf, hlink⟩ := Scan.source_of_mem_links hl
    exact ⟨f, hf, by rw [h.labelOf_eq hjoins.source, hlink, Scan.label_fileNode]⟩
  have hkeep : ∀ e ∈ p.edges, (g.labelOf e.source).any
      (fun l => l.kind ≠ .endpoint && (done.map (·.path)).contains l.path) = true := by
    intro e he
    obtain ⟨f, hf, hlabel⟩ := hsource (houtlined.edges.imp fun l e hl => hl.mono hroster) e he
    rw [hlabel, Option.any_some, Scan.isFileLabel_iff]
    exact List.mem_map_of_mem hf
  have hdrop : ∀ e ∈ more, ¬ (g.labelOf e.source).any
      (fun l => l.kind ≠ .endpoint && (done.map (·.path)).contains l.path) = true := by
    intro e he
    obtain ⟨f, hf, hlabel⟩ := hsource hlater e he
    rw [hlabel, Option.any_some, Scan.isFileLabel_iff]
    rw [List.map_append, List.nodup_append] at hpaths
    exact fun hmem => hpaths.2.2 f.path hmem f.path (List.mem_map_of_mem hf) rfl
  unfold edgesFrom
  rw [← hmore, List.filter_append, List.filter_eq_self.mpr hkeep, List.filter_eq_nil_iff.mpr hdrop,
    List.append_nil]

end Graph.Follows

/-- Behind what was found at any turn, only endpoints are added. -/
theorem Graph.Follows.fileIds_eq {g : Graph} {files done : List SourceFile} (h : g.Follows files)
    {p : Progress} (houtlined : Scan.Outlined (files.map (·.path)) done p)
    (hroster : p.registry.roster <+: g.roster) :
    g.fileIds = (p.registry.roster.filter fun e => e.2.kind ≠ .endpoint).map
      fun e => (e.1, e.2.path) := by
  obtain ⟨more, hmore⟩ := hroster
  have hbare : g.roster.map (·.2) = g.nodes.map Node.bare := by
    rw [roster, List.map_map]
    rfl
  have hnames : (Scan.routeNames done).map Scan.endpointNode ++ more.map (·.2) =
      (Scan.routeNames files).map Scan.endpointNode := by
    rw [h.nodes, ← hmore, List.map_append, Registry.roster_snd, houtlined.bare,
      Scan.nodes_catalogue, List.map_map, List.append_assoc] at hbare
    exact List.append_cancel_left hbare
  have hendpoints : ∀ e ∈ more, ¬ (decide (e.2.kind ≠ .endpoint)) = true := by
    intro e he
    have hmem : e.2 ∈ (Scan.routeNames files).map Scan.endpointNode := by
      rw [← hnames]
      exact List.mem_append_right _ (List.mem_map_of_mem he)
    obtain ⟨name, -, heq⟩ := List.mem_map.mp hmem
    simp [← heq]
  have hids : g.fileIds = (g.roster.filter fun e => e.2.kind ≠ .endpoint).map
      fun e => (e.1, e.2.path) := by
    unfold fileIds roster
    rw [List.filter_map, List.map_map]
    rfl
  rw [hids, ← hmore, List.filter_append, List.filter_eq_nil_iff.mpr hendpoints, List.append_nil]

namespace Scan

/-- What is found at any turn begins the graph. -/
theorem exists_continues {o : ScanOptions} (ho : o.Undisturbed) {files : List SourceFile}
    (hread : ∀ f ∈ files, ∀ message, f.reading ≠ .crash message) (number : Nat) :
    ∃ result harvest, scan o files = .ok result ∧
      before o files number = .ok (found o files harvest number) ∧
      result.graph.Continues (((keptFiles o.extensions files).take number).map (·.path))
        (found o files harvest number) ∧
      result.graph.fileIds = ((found o files harvest number).registry.roster.filter fun e =>
        e.2.kind ≠ .endpoint).map fun e => (e.1, e.2.path) := by
  obtain ⟨harvest, -, hbefore, hscan⟩ := scan_visits ho hread
  obtain ⟨p, hp, houtlined⟩ := before_outlined ho hread number
  obtain ⟨result, hresult, hfollows⟩ := scan_follows ho hread
  obtain rfl : found o files harvest number = p := Except.ok.inj ((hbefore number).symm.trans hp)
  have hgraph : result.graph =
      (resultOf o files harvest ((keptOf o files).foldl Progress.visit
        (startOf o files harvest))).graph :=
    congrArg ScanResult.graph (Except.ok.inj (hresult.symm.trans hscan))
  have hgrows : (found o files harvest number).Grows
      ((keptOf o files).foldl Progress.visit (startOf o files harvest)) := by
    have hsplit := Progress.grows_foldl_visit houtlined.distinct ((keptOf o files).drop number)
    unfold found at hsplit ⊢
    rwa [← List.foldl_append, List.take_append_drop] at hsplit
  have hroster : (found o files harvest number).registry.roster <+: result.graph.roster := by
    rw [hgraph]
    exact hgrows.roster
  have hedges : (found o files harvest number).edges <+: result.graph.edges := by
    rw [hgraph]
    exact hgrows.edges
  have hpaths := nodup_keptFiles o.extensions files
  have hids := hfollows.fileIds_eq houtlined hroster
  have hsplit := List.take_append_drop number (keptFiles o.extensions files)
  generalize (keptFiles o.extensions files).take number = done at hsplit houtlined ⊢
  rw [← hsplit] at hfollows hpaths houtlined
  exact ⟨result, harvest, hresult, hbefore number,
    hfollows.continues hpaths houtlined hroster hedges, hids⟩

/-- Texts of later files do not influence what a scan finds before their turn. Two scans of the same
paths with the same identifiers to draw, whose first kept files have the same texts, give their
files the same identifiers, and when these first files had their turn, they have found the same
endpoints and the same edges. These begin both graphs, and the first files have no further
edges. -/
theorem scan_agrees_before {o o' : ScanOptions} (ho : o.Undisturbed) (ho' : o'.Undisturbed)
    (hextensions : o'.extensions = o.extensions) (hdigits : o'.digits = o.digits)
    {files files' : List SourceFile} (hpaths : files'.map (·.path) = files.map (·.path))
    (hread : ∀ f ∈ files, ∀ message, f.reading ≠ .crash message)
    (hread' : ∀ f ∈ files', ∀ message, f.reading ≠ .crash message) {number : Nat}
    (htexts : ((keptFiles o.extensions files').take number).map (·.content) =
      ((keptFiles o.extensions files).take number).map (·.content)) :
    ∃ result result' p p', scan o files = .ok result ∧ scan o' files' = .ok result' ∧
      result'.graph.fileIds = result.graph.fileIds ∧
      before o files number = .ok p ∧ before o' files' number = .ok p' ∧ p.Agrees p' ∧
      result.graph.Continues (((keptFiles o.extensions files).take number).map (·.path)) p ∧
      result'.graph.Continues (((keptFiles o.extensions files).take number).map (·.path)) p' := by
  obtain ⟨result, harvest, hscan, hbefore, hcontinues, hids⟩ := exists_continues ho hread number
  obtain ⟨result', harvest', hscan', hbefore', hcontinues', hids'⟩ :=
    exists_continues ho' hread' number
  have hagrees := agrees_found hextensions hdigits hpaths htexts harvest harvest'
  have hkept : (keptFiles o'.extensions files').map (·.path) =
      (keptFiles o.extensions files).map (·.path) := by
    rw [map_path_keptFiles, map_path_keptFiles, hpaths, hextensions]
  refine ⟨result, result', _, _, hscan, hscan', ?_, hbefore, hbefore', hagrees, hcontinues, ?_⟩
  · rw [hids, hids', hagrees.registry]
  · rwa [List.map_take, hkept, ← List.map_take] at hcontinues'

/-- The small project with other texts behind that of its first file. -/
def changedProject : List SourceFile :=
  [⟨"app/main.js", .text "const u = require('./users.js'); app.get('/users', u.list)"⟩,
    ⟨"app/users.js", .unreadable "permission denied"⟩,
    ⟨"app/main.js", .text []⟩,
    ⟨"app/broken.py", .text "import app.users"⟩,
    ⟨"notes.txt", .text []⟩]

theorem scan_agrees_before_changedProject :
    changedProject.map (·.path) = smallProject.map (·.path) ∧
    (∀ f ∈ changedProject, ∀ message, f.reading ≠ .crash message) ∧
    ((keptFiles defaultExtensions changedProject).take 1).map (·.content) =
      ((keptFiles defaultExtensions smallProject).take 1).map (·.content) ∧
    ∃ result result' p p', scan {} smallProject = .ok result ∧
      scan { completion := backwards } changedProject = .ok result' ∧
      result'.graph.fileIds = result.graph.fileIds ∧
      before {} smallProject 1 = .ok p ∧
      before { completion := backwards } changedProject 1 = .ok p' ∧ p.Agrees p' ∧
      result.graph.Continues ["app/main.js"] p ∧ result'.graph.Continues ["app/main.js"] p' := by
  have hbackwards : ({ completion := backwards } : ScanOptions).Undisturbed :=
    ⟨fun _ => rfl, fun _ => List.reverse_perm _⟩
  have hpaths : changedProject.map (·.path) = smallProject.map (·.path) := rfl
  have hread : ∀ f ∈ changedProject, ∀ message, f.reading ≠ .crash message := by
    simp [changedProject]
  have htexts : ((keptFiles defaultExtensions changedProject).take 1).map (·.content) =
      ((keptFiles defaultExtensions smallProject).take 1).map (·.content) := by decide
  have hfirst : ((keptFiles defaultExtensions smallProject).take 1).map (·.path) =
      ["app/main.js"] := by decide
  have hagrees := scan_agrees_before ScanOptions.undisturbed_default hbackwards rfl rfl hpaths
    smallProject_reads hread htexts
  rw [hfirst] at hagrees
  exact ⟨hpaths, hread, htexts, hagrees⟩

end Scan
end CodeGraph
