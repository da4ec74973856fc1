import CodeGraph.Proofs.Scan.Analysis
import CodeGraph.Proofs.Scan.Run
import Mathlib.Data.List.Forall2
import Mathlib.Data.List.Induction

/-! The outline of a scan: what its graph holds, said without identifiers. Every visit leads from a
state that follows the outline to one that does. -/
namespace CodeGraph

namespace SourceFile

def specifiers (f : SourceFile) : List Specifier :=
  Specifier.ofContent f.content (Language.ofExtension? (Path.extension f.path))

def routePaths (f : SourceFile) : List Text :=
  (Route.ofContent f.content).map (·.path)

end SourceFile

namespace Scan

/-- An edge between nodes that have no identifiers. -/
structure Link where
  source : Node
  target : Node
  kind : EdgeKind
deriving DecidableEq

/-- An edge leads from and to the identifiers of the nodes of a link. -/
structure Link.Joins (roster : List (Text × Node)) (l : Link) (e : Edge) : Prop where
  source : (e.source, l.source) ∈ roster
  target : (e.target, l.target) ∈ roster
  kind : e.kind = l.kind
  metadata : e.metadata = []

theorem Link.Joins.eq_edge {roster : List (Text × Node)} {l : Link} {e : Edge}
    (h : l.Joins roster e) : e = { source := e.source, target := e.target, kind := l.kind } := by
  rw [← h.kind, ← h.metadata]

def importLink? (r : Registry) (path : Text) (s : Specifier) : Option Link :=
  ((r.resolve path s).filter (· ≠ fileNode path)).map fun target =>
    { source := fileNode path, target, kind := .imports }

def handlerLink (path name : Text) : Link :=
  { source := fileNode path, target := endpointNode name, kind := .endpointHandler }

/-- The links of a file whose turn comes when the endpoints of `names` are known. -/
def fileLinks (paths names : List Text) (f : SourceFile) : List Link :=
  f.specifiers.filterMap (importLink? (catalogue paths names) f.path) ++
    (addFirsts id [] f.routePaths).map (handlerLink f.path)

/-- The links of the files in order. Each adds its endpoints for those behind it. -/
def links (paths : List Text) : (names : List Text) → List SourceFile → List Link
  | _, [] => []
  | names, f :: files =>
    fileLinks paths names f ++ links paths (addFirsts id names f.routePaths) files

/-- The names of the endpoints that files have, in order of discovery. -/
def routeNames (files : List SourceFile) : List Text :=
  addFirsts id [] (files.flatMap SourceFile.routePaths)

theorem links_append (paths names : List Text) (files more : List SourceFile) :
    links paths names (files ++ more) = links paths names files ++
      links paths (addFirsts id names (files.flatMap SourceFile.routePaths)) more := by
  induction files generalizing names with
  | nil => rfl
  | cons f files ih =>
    rw [List.cons_append, links, links, ih, List.flatMap_cons, addFirsts_append, List.append_assoc]

theorem links_concat (paths : List Text) (files : List SourceFile) (f : SourceFile) :
    links paths [] (files ++ [f]) =
      links paths [] files ++ fileLinks paths (routeNames files) f := by
  rw [links_append, links, links, List.append_nil]
  rfl

theorem mem_links {paths : List Text} {files : List SourceFile} {l : Link} :
    l ∈ links paths [] files ↔ ∃ earlier f later, files = earlier ++ f :: later ∧
      l ∈ fileLinks paths (routeNames earlier) f := by
  constructor
  · intro hl
    induction files using List.reverseRecOn with
    | nil => exact absurd hl List.not_mem_nil
    | append_singleton files f ih =>
      rw [links_concat, List.mem_append] at hl
      rcases hl with hl | hl
      · obtain ⟨earlier, g, later, rfl, hg⟩ := ih hl
        exact ⟨earlier, g, later ++ [f], by simp, hg⟩
      · exact ⟨files, f, [], rfl, hl⟩
  · rintro ⟨earlier, f, later, rfl, hl⟩
    rw [List.append_cons, links_append, links_concat]
    exact List.mem_append_left _ (List.mem_append_right _ hl)

theorem importLink?_eq_some_iff {r : Registry} {path : Text} {s : Specifier} {l : Link} :
    importLink? r path s = some l ↔ ∃ target, r.resolve path s = some target ∧
      target ≠ fileNode path ∧ l = { source := fileNode path, target, kind := .imports } := by
  unfold importLink?
  simp only [Option.map_eq_some_iff, Option.filter_eq_some_iff, decide_eq_true_iff, and_assoc,
    eq_comm (a := l)]

theorem mem_fileLinks {paths names : List Text} {f : SourceFile} {l : Link} :
    l ∈ fileLinks paths names f ↔
      (∃ s ∈ f.specifiers, importLink? (catalogue paths names) f.path s = some l) ∨
      ∃ name ∈ f.routePaths, l = handlerLink f.path name := by
  simp only [fileLinks, List.mem_append, List.mem_filterMap, List.mem_map, mem_addFirsts,
    List.not_mem_nil, false_or, eq_comm (a := l)]

theorem source_of_mem_fileLinks {paths names : List Text} {f : SourceFile} {l : Link}
    (h : l ∈ fileLinks paths names f) : l.source = fileNode f.path := by
  rcases mem_fileLinks.mp h with ⟨s, -, hs⟩ | ⟨name, -, rfl⟩
  · obtain ⟨target, -, -, rfl⟩ := importLink?_eq_some_iff.mp hs
    rfl
  · rfl

theorem source_of_mem_links {paths names : List Text} {files : List SourceFile} {l : Link}
    (h : l ∈ links paths names files) : ∃ f ∈ files, l.source = fileNode f.path := by
  induction files generalizing names with
  | nil => exact absurd h List.not_mem_nil
  | cons f files ih =>
    rw [links, List.mem_append] at h
    rcases h with h | h
    · exact ⟨f, List.mem_cons_self, source_of_mem_fileLinks h⟩
    · obtain ⟨g, hg, hsource⟩ := ih h
      exact ⟨g, List.mem_cons_of_mem f hg, hsource⟩

theorem filter_imports_fileLinks (paths names : List Text) (f : SourceFile) :
    (fileLinks paths names f).filter (·.kind = .imports) =
      f.specifiers.filterMap (importLink? (catalogue paths names) f.path) := by
  have himports : ∀ l ∈ f.specifiers.filterMap (importLink? (catalogue paths names) f.path),
      l.kind = .imports := by
    intro l hl
    obtain ⟨s, -, hs⟩ := List.mem_filterMap.mp hl
    obtain ⟨target, -, -, rfl⟩ := importLink?_eq_some_iff.mp hs
    rfl
  unfold fileLinks
  rw [List.filter_append, List.filter_eq_self.mpr (by simpa using himports),
    List.filter_eq_nil_iff.mpr (by simp [handlerLink]), List.append_nil]

theorem filter_handlers_fileLinks (paths names : List Text) (f : SourceFile) :
    (fileLinks paths names f).filter (·.kind = .endpointHandler) =
      (addFirsts id [] f.routePaths).map (handlerLink f.path) := by
  have himports : ∀ l ∈ f.specifiers.filterMap (importLink? (catalogue paths names) f.path),
      l.kind ≠ .endpointHandler := by
    intro l hl
    obtain ⟨s, -, hs⟩ := List.mem_filterMap.mp hl
    obtain ⟨target, -, -, rfl⟩ := importLink?_eq_some_iff.mp hs
    simp
  unfold fileLinks
  rw [List.filter_append, List.filter_eq_nil_iff.mpr (by simpa using himports),
    List.filter_eq_self.mpr (by simp [handlerLink]), List.nil_append]

/-- The links to endpoints are those of each file's own text. -/
theorem filter_handlers_links (paths names : List Text) (files : List SourceFile) :
    (links paths names files).filter (·.kind = .endpointHandler) =
      files.flatMap fun f => (addFirsts id [] f.routePaths).map (handlerLink f.path) := by
  induction files generalizing names with
  | nil => rfl
  | cons f files ih =>
    rw [links, List.filter_append, filter_handlers_fileLinks, ih, List.flatMap_cons]

theorem routeNames_concat (files : List SourceFile) (f : SourceFile) :
    routeNames (files ++ [f]) = addFirsts id (routeNames files) f.routePaths := by
  rw [routeNames, List.flatMap_append, addFirsts_append]
  simp [routeNames]

theorem nodup_routeNames (files : List SourceFile) : (routeNames files).Nodup :=
  nodup_addFirsts List.nodup_nil _

theorem mem_routeNames (files : List SourceFile) (name : Text) :
    name ∈ routeNames files ↔ ∃ f ∈ files, name ∈ f.routePaths := by
  simp [routeNames, mem_addFirsts]

/-- What a registry, edges and notes hold when of the kept files those in `done` had their turn. -/
structure Outlined (paths : List Text) (done : List SourceFile) (p : Progress) : Prop where
  known : ∀ f ∈ done, f.path ∈ paths
  distinct : p.registry.Distinct
  bare : p.registry.bare = catalogue paths (routeNames done)
  edges : List.Forall₂ (Link.Joins p.registry.roster) (links paths [] done) p.edges
  flagged : ∀ id, p.registry.Flagged id ↔
    ∃ f ∈ done, callsDatabase f.content = true ∧ (id, fileNode f.path) ∈ p.registry.roster

theorem Link.Joins.mono {roster roster' : List (Text × Node)} (h : roster <+: roster') {l : Link}
    {e : Edge} (hl : l.Joins roster e) : l.Joins roster' e :=
  ⟨h.subset hl.source, h.subset hl.target, hl.kind, hl.metadata⟩

private theorem forall₂_filterMap {α β γ : Type} {R : β → γ → Prop} {f : α → Option β}
    {g : α → Option γ} {items : List α} (h : ∀ a ∈ items, Option.Rel R (f a) (g a)) :
    List.Forall₂ R (items.filterMap f) (items.filterMap g) := by
  induction items with
  | nil => exact .nil
  | cons a items ih =>
    have hrest := ih fun b hb => h b (List.mem_cons_of_mem a hb)
    have hfirst := h a List.mem_cons_self
    rw [List.filterMap_cons, List.filterMap_cons]
    generalize f a = x, g a = y at hfirst
    cases hfirst with
    | none => exact hrest
    | some hr => exact .cons hr hrest

section

variable {r : Registry} {source : Node}

theorem rel_importEdge? (h : r.Distinct) (hnodup : r.bare.nodes.Nodup)
    (hsource : (source.id, fileNode source.path) ∈ r.roster) (s : Specifier) :
    Option.Rel (Link.Joins r.roster) (importLink? r.bare source.path s)
      (Progress.importEdge? r source s) := by
  unfold importLink? Progress.importEdge?
  rw [Registry.resolve_bare]
  cases htarget : r.resolve source.path s with
  | none => exact .none
  | some target =>
    have hroster := Registry.mem_roster (Registry.resolve_mem htarget)
    have hself : target.id = source.id ↔ target.bare = fileNode source.path :=
      h.id_eq_iff hnodup hroster hsource
    by_cases hid : target.id = source.id
    · rw [Option.map_some, hself.mp hid]
      simp [Option.filter, hid]
    · have hbare : target.bare ≠ fileNode source.path := fun hb => hid (hself.mpr hb)
      simp only [Option.map_some, Option.filter, hid, hbare, ne_eq, not_false_eq_true, decide_true,
        if_true]
      exact .some ⟨hsource, hroster, rfl, rfl⟩

theorem rel_handlerEdge? (h : r.Distinct)
    (hsource : (source.id, fileNode source.path) ∈ r.roster) {name : Text}
    (hname : r.bare.findEndpoint name = some (endpointNode name)) :
    Option.Rel (Link.Joins r.roster) (some (handlerLink source.path name))
      (Progress.handlerEdge? r source name) := by
  rw [Registry.findEndpoint_bare] at hname
  obtain ⟨target, htarget, hbare⟩ := Option.map_eq_some_iff.mp hname
  have hroster := Registry.mem_roster (Registry.findEndpoint_some htarget).1
  rw [hbare] at hroster
  have hid : target.id ≠ source.id := by
    intro hid
    rw [hid] at hroster
    exact fileNode_ne_endpointNode _ _ (h.eq_of_mem_roster hsource hroster)
  unfold Progress.handlerEdge?
  rw [htarget]
  simp only [Option.filter, hid, ne_eq, not_false_eq_true, decide_true, if_true, Option.map_some]
  exact .some ⟨hsource, hroster, rfl, rfl⟩

end

namespace Outlined

variable {paths : List Text} {done : List SourceFile} {p : Progress} (h : Outlined paths done p)
  {k : Kept} (hpath : k.node.path = k.file.path)
include h

theorem mem_paths_iff (path : Text) :
    path ∈ paths ↔ ∃ id, (id, fileNode path) ∈ p.registry.roster := by
  rw [← fileNode_mem_catalogue paths (routeNames done), ← h.bare, Registry.mem_bare_nodes]

include hpath

theorem analyzed_visit :
    Progress.Analyzed p k.node k.file.content k.file.specifiers (p.visit k) := by
  unfold Progress.visit SourceFile.specifiers
  rw [hpath]
  exact Progress.analyzed p k.node h.distinct _ _

theorem bare_visit :
    (p.visit k).registry.bare = catalogue paths (routeNames (done ++ [k.file])) := by
  rw [(h.analyzed_visit hpath).bare, h.bare, Registry.foldl_withEndpoint_catalogue,
    routeNames_concat]
  rfl

variable (hpaths : paths.Nodup) (hroster : (k.node.id, fileNode k.file.path) ∈ p.registry.roster)
include hpaths hroster

theorem edges_visit : List.Forall₂ (Link.Joins (p.visit k).registry.roster)
    (links paths [] (done ++ [k.file])) (p.visit k).edges := by
  have hdone := h.analyzed_visit hpath
  have hbare := h.bare_visit hpath
  have hnodup := nodup_nodes_catalogue hpaths (nodup_routeNames done)
  rw [← hpath] at hroster
  rw [links_concat, hdone.edges, fileLinks, ← List.append_assoc]
  refine List.rel_append (List.rel_append ?_ ?_) ?_
  · exact h.edges.imp fun l e hl => hl.mono hdone.roster
  · rw [← hpath, ← h.bare]
    refine List.Forall₂.imp (fun l e hl => Link.Joins.mono hdone.roster hl)
      (forall₂_filterMap fun s _ => ?_)
    exact rel_importEdge? h.distinct (h.bare ▸ hnodup) hroster s
  · rw [← List.filterMap_eq_map, ← hpath]
    apply forall₂_filterMap
    intro name hname
    apply rel_handlerEdge? hdone.distinct (hdone.roster.subset hroster)
    rw [hbare, findEndpoint_catalogue, if_pos]
    rw [routeNames_concat, mem_addFirsts]
    exact Or.inr (by simpa [mem_addFirsts] using hname)

theorem flagged_visit (id : Text) : (p.visit k).registry.Flagged id ↔ ∃ f ∈ done ++ [k.file],
    callsDatabase f.content = true ∧ (id, fileNode f.path) ∈ (p.visit k).registry.roster := by
  have hdone := h.analyzed_visit hpath
  have hnodup := nodup_nodes_catalogue hpaths (nodup_routeNames (done ++ [k.file]))
  rw [← h.bare_visit hpath] at hnodup
  have hunique : ∀ {i j : Text} {n : Node}, (i, n) ∈ (p.visit k).registry.roster →
      (j, n) ∈ (p.visit k).registry.roster → i = j := fun hi hj =>
    (hdone.distinct.id_eq_iff hnodup hi hj).mpr rfl
  have hroster' := hdone.roster.subset hroster
  rw [hdone.flagged, h.flagged]
  constructor
  · rintro (⟨f, hf, hdb, hid⟩ | ⟨hdb, rfl, -⟩)
    · exact ⟨f, List.mem_append_left _ hf, hdb, hdone.roster.subset hid⟩
    · exact ⟨k.file, by simp, hdb, hroster'⟩
  · rintro ⟨f, hf, hdb, hid⟩
    rcases List.mem_append.mp hf with hf | hf
    · obtain ⟨id', hid'⟩ := (h.mem_paths_iff f.path).mp (h.known f hf)
      rw [← hunique hid (hdone.roster.subset hid')] at hid'
      exact Or.inl ⟨f, hf, hdb, hid'⟩
    · rw [List.mem_singleton.mp hf] at hid hdb
      exact Or.inr ⟨hdb, hunique hid hroster', Registry.mem_ids_of_mem_roster hid⟩

/-- A visit leads from an outlined state to one. -/
theorem visit : Outlined paths (done ++ [k.file]) (p.visit k) where
  known := by
    intro f hf
    rcases List.mem_append.mp hf with hf | hf
    · exact h.known f hf
    · rw [List.mem_singleton.mp hf, h.mem_paths_iff]
      exact ⟨_, hroster⟩
  distinct := (h.analyzed_visit hpath).distinct
  bare := h.bare_visit hpath
  edges := h.edges_visit hpath hpaths hroster
  flagged := h.flagged_visit hpath hpaths hroster

end Outlined

theorem roster_visit {p : Progress} (h : p.registry.Distinct) (k : Kept) :
    p.registry.roster <+: (p.visit k).registry.roster :=
  (Progress.analyzed p k.node h _ _).roster

theorem Outlined.foldl {paths : List Text} (hpaths : paths.Nodup) {done : List SourceFile}
    {p : Progress} (h : Outlined paths done p) {kept : List Kept}
    (hkept : ∀ k ∈ kept, (k.node.id, fileNode k.file.path) ∈ p.registry.roster ∧
      k.node.path = k.file.path) :
    Outlined paths (done ++ kept.map (·.file)) (kept.foldl Progress.visit p) := by
  induction kept generalizing done p with
  | nil => simpa using h
  | cons k kept ih =>
    obtain ⟨hroster, hpath⟩ := hkept k List.mem_cons_self
    have hvisit := h.visit hpath hpaths hroster
    have hrest := ih hvisit fun k' hk' =>
      ⟨(roster_visit h.distinct k).subset (hkept k' (List.mem_cons_of_mem k hk')).1,
        (hkept k' (List.mem_cons_of_mem k hk')).2⟩
    simpa using hrest

theorem Registered.path_eq {files : List SourceFile} {state : Progress × List Kept}
    (h : Registered files state) {k : Kept} (hk : k ∈ state.2) : k.node.path = k.file.path :=
  congrArg Node.path (h.anonymous k hk)

/-- The visits of the first few kept files lead to a state that is outlined by these. -/
theorem Registered.outlined {files : List SourceFile} {p : Progress} {kept : List Kept}
    (h : Registered files (p, kept)) (number : Nat) :
    Outlined ((addFirsts (·.path) [] files).map (·.path))
      ((addFirsts (·.path) [] files).take number)
      ((kept.take number).foldl Progress.visit p) := by
  have hstart : Outlined ((addFirsts (·.path) [] files).map (·.path)) [] p := by
    refine ⟨by simp, h.distinct, h.bare, ?_, fun id => iff_of_false (h.not_flagged id) (by simp)⟩
    rw [h.edges]
    exact .nil
  rw [← h.files_eq, ← List.map_take] at *
  refine hstart.foldl ?_ fun k hk => ?_
  · rw [h.files_eq]
    exact nodup_map_addFirsts _ (by simp) _
  · exact ⟨h.mem_roster (List.mem_of_mem_take hk), h.path_eq (List.mem_of_mem_take hk)⟩

end Scan
end CodeGraph
