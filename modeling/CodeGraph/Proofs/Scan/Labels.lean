import CodeGraph.Proofs.Scan.Follows

/-! Graphs without identifiers: nodes are told apart by kind and path, edges by the labels of their
ends. The import edges of a scan are those that its specifiers resolve to. -/
namespace CodeGraph

/-- What tells nodes apart where identifiers do not count. -/
structure Label where
  kind : NodeKind
  path : Text
deriving DecidableEq, Repr

def Node.label (n : Node) : Label :=
  { kind := n.kind, path := n.path }

@[simp] theorem Node.label_bare (n : Node) : n.bare.label = n.label := rfl

/-- An edge with the labels of its ends, if they are nodes. -/
structure Arrow where
  source : Option Label
  target : Option Label
  kind : EdgeKind
deriving DecidableEq, Repr

namespace Graph

def labelOf (g : Graph) (id : Text) : Option Label :=
  (g.node? id).map Node.label

def arrow (g : Graph) (e : Edge) : Arrow :=
  { source := g.labelOf e.source, target := g.labelOf e.target, kind := e.kind }

def arrows (g : Graph) : List Arrow :=
  g.edges.map g.arrow

def arrowsOf (g : Graph) (kind : EdgeKind) : List Arrow :=
  g.arrows.filter (·.kind = kind)

end Graph

namespace Scan

def fileLabel (path : Text) : Label :=
  (fileNode path).label

@[simp] theorem label_fileNode (path : Text) : (fileNode path).label = fileLabel path := rfl

theorem fileLabel_injective : Function.Injective fileLabel := fun _ _ h => congrArg Label.path h

/-- Among the nodes of a scan, the label of a file is that of its node alone. -/
theorem label_eq_fileLabel_iff {paths names : List Text} {n : Node}
    (h : n ∈ (catalogue paths names).nodes) (path : Text) :
    n.label = fileLabel path ↔ n = fileNode path := by
  refine ⟨fun hlabel => ?_, fun hn => by rw [hn, fileLabel]⟩
  rw [nodes_catalogue, List.mem_append] at h
  rcases h with h | h
  · obtain ⟨path', -, rfl⟩ := List.mem_map.mp h
    rw [fileLabel_injective hlabel]
  · obtain ⟨name, -, rfl⟩ := List.mem_map.mp h
    exact absurd (congrArg Label.kind hlabel).symm (fileNode_kind_ne path)

def Link.arrow (l : Link) : Arrow :=
  { source := some l.source.label, target := some l.target.label, kind := l.kind }

/-- The label of the node that a specifier in the file of a path refers to, at the turn of that
file. -/
def resolvesTo (options : ScanOptions) (files : List SourceFile) (path : Text) (s : Specifier) :
    Option Label :=
  let number := (keptFiles options.extensions files).findIdx (·.path = path)
  match before options files number with
  | .ok p => (p.registry.resolve path s).map Node.label
  | .error _ => none

/-- The arrow of a specifier, unless it leads nowhere or to the file itself. -/
def importArrow? (path : Text) (target : Option Label) : Option Arrow :=
  (target.filter (· ≠ fileLabel path)).map fun target =>
    { source := some (fileLabel path), target := some target, kind := .imports }

/-- The arrows of all specifiers, file by file. -/
def importArrows (options : ScanOptions) (files : List SourceFile) : List Arrow :=
  (keptFiles options.extensions files).flatMap fun f =>
    f.specifiers.filterMap fun s => importArrow? f.path (resolvesTo options files f.path s)

theorem findIdx_path {earlier later : List SourceFile} {f : SourceFile}
    (h : ((earlier ++ f :: later).map (·.path)).Nodup) :
    (earlier ++ f :: later).findIdx (·.path = f.path) = earlier.length := by
  rw [List.map_append, List.map_cons, List.nodup_append] at h
  have hearlier : ∀ g ∈ earlier, g.path ≠ f.path := fun g hg =>
    h.2.2 g.path (List.mem_map_of_mem hg) f.path List.mem_cons_self
  have hfind : earlier.findIdx (·.path = f.path) = earlier.length := by
    rw [List.findIdx_eq_length]
    intro g hg
    simpa using hearlier g hg
  rw [List.findIdx_append, hfind]
  simp [List.findIdx_cons]

section

variable {options : ScanOptions} (ho : options.Undisturbed) {files : List SourceFile}
  (hread : ∀ f ∈ files, ∀ message, f.reading ≠ .crash message)
include ho hread

/-- At the turn of a file, all files are known and the endpoints of the files before it. -/
theorem resolvesTo_eq {earlier later : List SourceFile} {f : SourceFile}
    (hkept : keptFiles options.extensions files = earlier ++ f :: later) (s : Specifier) :
    resolvesTo options files f.path s =
      ((catalogue ((keptFiles options.extensions files).map (·.path))
        (routeNames earlier)).resolve f.path s).map Node.label := by
  have hnodup := nodup_keptFiles options.extensions files
  have hnumber : (keptFiles options.extensions files).findIdx (·.path = f.path) =
      earlier.length := by
    rw [hkept] at hnodup ⊢
    exact findIdx_path hnodup
  obtain ⟨p, hp, houtlined⟩ := before_turn ho hread hkept
  unfold resolvesTo
  simp only
  rw [hnumber, hp, ← houtlined.bare, Registry.resolve_bare, Option.map_map]
  rfl

theorem importLink?_arrow {earlier later : List SourceFile} {f : SourceFile}
    (hkept : keptFiles options.extensions files = earlier ++ f :: later) (s : Specifier) :
    (importLink? (catalogue ((keptFiles options.extensions files).map (·.path))
      (routeNames earlier)) f.path s).map Link.arrow =
      importArrow? f.path (resolvesTo options files f.path s) := by
  rw [resolvesTo_eq ho hread hkept]
  unfold importLink? importArrow?
  cases htarget : (catalogue ((keptFiles options.extensions files).map (·.path))
      (routeNames earlier)).resolve f.path s with
  | none => rfl
  | some target =>
    have hlabel := label_eq_fileLabel_iff (Registry.resolve_mem htarget) f.path
    by_cases hself : target = fileNode f.path
    · simp [Option.filter, hself]
    · have hother : target.label ≠ fileLabel f.path := fun h => hself (hlabel.mp h)
      simp [Option.filter, hself, hother, Link.arrow]

theorem imports_links : ∀ later done, keptFiles options.extensions files = done ++ later →
    ((links ((keptFiles options.extensions files).map (·.path)) [] done).filter
      (·.kind = .imports)).map Link.arrow =
      done.flatMap fun f => f.specifiers.filterMap fun s =>
        importArrow? f.path (resolvesTo options files f.path s) := by
  intro later done hkept
  induction done using List.reverseRecOn generalizing later with
  | nil => rfl
  | append_singleton done f ih =>
    rw [List.append_assoc, List.singleton_append] at hkept
    have hfile : (f.specifiers.filterMap (importLink? (catalogue
        ((keptFiles options.extensions files).map (·.path)) (routeNames done)) f.path)).map
        Link.arrow = f.specifiers.filterMap fun s =>
          importArrow? f.path (resolvesTo options files f.path s) := by
      rw [List.map_filterMap]
      congr 1
      funext s
      exact importLink?_arrow ho hread hkept s
    rw [links_concat, List.filter_append, List.map_append, ih (f :: later) hkept,
      filter_imports_fileLinks, hfile, List.flatMap_append, List.flatMap_singleton]

end

end Scan

namespace Graph.Follows

variable {g : Graph} {files : List SourceFile} (h : g.Follows files)
include h

theorem node?_of_mem_roster {id : Text} {b : Node} (hid : (id, b) ∈ g.roster) :
    ∃ n, g.node? id = some n ∧ n.bare = b := by
  obtain ⟨n, hn, rfl, rfl⟩ := mem_roster.mp hid
  exact ⟨n, (find?_key_eq_some_iff Node.id h.ids n.id n).mpr ⟨hn, rfl⟩, rfl⟩

theorem labelOf_eq {id : Text} {b : Node} (hid : (id, b) ∈ g.roster) :
    g.labelOf id = some b.label := by
  obtain ⟨n, hn, rfl⟩ := h.node?_of_mem_roster hid
  rw [labelOf, hn]
  rfl

theorem arrows_eq : g.arrows = (Scan.links (files.map (·.path)) [] files).map Scan.Link.arrow := by
  refine (map_eq_of_forall₂ h.edges fun l e hl => ?_).symm
  unfold Scan.Link.arrow arrow
  rw [h.labelOf_eq hl.source, h.labelOf_eq hl.target, hl.kind]

theorem arrowsOf_eq (kind : EdgeKind) : g.arrowsOf kind =
    ((Scan.links (files.map (·.path)) [] files).filter (·.kind = kind)).map Scan.Link.arrow := by
  unfold arrowsOf
  rw [h.arrows_eq, List.filter_map]
  rfl

end Graph.Follows

/-- The import edges of a scan are those that the specifiers of its files resolve to, in order. -/
theorem Scan.imports_eq {options : ScanOptions} (ho : options.Undisturbed)
    {files : List SourceFile} (hread : ∀ f ∈ files, ∀ message, f.reading ≠ .crash message)
    {g : Graph} (h : g.Follows (keptFiles options.extensions files)) :
    g.arrowsOf .imports = importArrows options files := by
  rw [h.arrowsOf_eq]
  exact imports_links ho hread [] _ (by rw [List.append_nil])

end CodeGraph
