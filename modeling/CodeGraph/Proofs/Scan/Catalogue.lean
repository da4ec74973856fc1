import CodeGraph.Proofs.Firsts
import CodeGraph.Proofs.Registry.Lookup
import CodeGraph.Scan.Result
import Mathlib.Data.List.Basic

/-! The registry of a scan without its identifiers: the files, then the endpoints in order of
discovery. An endpoint whose path is that of a file is not in the index. -/
namespace CodeGraph

theorem NodeKind.ofExtension_ne_endpoint (ext : Text) : NodeKind.ofExtension ext ≠ .endpoint := by
  unfold NodeKind.ofExtension
  cases h : NodeKind.extensions.lookup (Text.lower ext) with
  | none => simp
  | some kind =>
    obtain ⟨before, after, heq, -⟩ := List.lookup_eq_some_iff.mp h
    have hmem : (Text.lower ext, kind) ∈ NodeKind.extensions := by
      rw [heq]
      simp
    have hall : ∀ e ∈ NodeKind.extensions, e.2 ≠ .endpoint := by decide
    exact hall _ hmem

namespace Specifier

/-- The path that a specifier in the file `source` names, before any ending is tried. -/
def target (source : Text) (s : Specifier) : Text :=
  match s.language with
  | .python => s.raw
  | .javascript => Path.walk (Path.folder source) s.raw

/-- The specifier names one of the paths in full. A relative path does so only if it holds a dot. -/
def isExact (paths : List Text) (source : Text) (s : Specifier) : Bool :=
  (s.language = .python || (s.target source).contains '.') && paths.contains (s.target source)

end Specifier

namespace Scan

/-- The node of an endpoint, still without an identifier. -/
def endpointNode (name : Text) : Node :=
  { id := [], name, kind := .endpoint, path := name }

@[simp] theorem fileNode_path (path : Text) : (fileNode path).path = path := rfl

@[simp] theorem endpointNode_path (name : Text) : (endpointNode name).path = name := rfl

@[simp] theorem endpointNode_name (name : Text) : (endpointNode name).name = name := rfl

@[simp] theorem endpointNode_kind (name : Text) : (endpointNode name).kind = .endpoint := rfl

@[simp] theorem fileNode_kind_ne (path : Text) : (fileNode path).kind ≠ .endpoint :=
  NodeKind.ofExtension_ne_endpoint _

theorem fileNode_injective : Function.Injective fileNode := fun _ _ h => congrArg Node.path h

theorem endpointNode_injective : Function.Injective endpointNode :=
  fun _ _ h => congrArg Node.name h

theorem fileNode_ne_endpointNode (path name : Text) : fileNode path ≠ endpointNode name := by
  intro h
  exact fileNode_kind_ne path (congrArg Node.kind h)

def catalogue (paths names : List Text) : Registry :=
  { entries := paths.map (fun path => ⟨some path, fileNode path⟩) ++
      names.map fun name => ⟨if paths.contains name then none else some name, endpointNode name⟩ }

section

variable (paths names : List Text)

theorem nodes_catalogue :
    (catalogue paths names).nodes = paths.map fileNode ++ names.map endpointNode := by
  simp [catalogue, Registry.nodes, Function.comp_def]

theorem fileNode_mem_catalogue (path : Text) :
    fileNode path ∈ (catalogue paths names).nodes ↔ path ∈ paths := by
  rw [nodes_catalogue, List.mem_append, List.mem_map_of_injective fileNode_injective]
  constructor
  · rintro (h | h)
    · exact h
    · obtain ⟨name, -, heq⟩ := List.mem_map.mp h
      exact absurd heq.symm (fileNode_ne_endpointNode path name)
  · exact Or.inl

theorem nodup_nodes_catalogue {paths names : List Text} (hpaths : paths.Nodup)
    (hnames : names.Nodup) : (catalogue paths names).nodes.Nodup := by
  rw [nodes_catalogue, List.nodup_append]
  refine ⟨hpaths.map fileNode_injective, hnames.map endpointNode_injective, ?_⟩
  intro m hm n hn
  obtain ⟨path, -, rfl⟩ := List.mem_map.mp hm
  obtain ⟨name, -, rfl⟩ := List.mem_map.mp hn
  exact fileNode_ne_endpointNode path name

theorem index_catalogue :
    (catalogue paths names).index = paths.map (fun path => (path, fileNode path)) ++
      (names.filter (· ∉ paths)).map fun name => (name, endpointNode name) := by
  unfold catalogue Registry.index
  rw [List.filterMap_append, List.filterMap_map, List.filterMap_map]
  congr 1
  · simp
  · induction names with
    | nil => rfl
    | cons name names ih =>
      by_cases h : name ∈ paths
      · simpa [h] using ih
      · simpa [h] using ih

theorem keys_catalogue :
    (catalogue paths names).keys = paths ++ names.filter (· ∉ paths) := by
  simp [Registry.keys, index_catalogue, Function.comp_def]

theorem mem_keys_catalogue (path : Text) :
    path ∈ (catalogue paths names).keys ↔ path ∈ paths ∨ path ∈ names := by
  rw [keys_catalogue, List.mem_append, List.mem_filter, decide_eq_true_iff]
  by_cases h : path ∈ paths <;> simp [h]

private theorem find?_graph (f : Text → Node) (items : List Text) (path : Text) :
    (items.map fun item => (item, f item)).find? (·.1 = path) =
      if path ∈ items then some (path, f path) else none := by
  induction items with
  | nil => simp
  | cons item items ih =>
    by_cases h : item = path
    · simp [h]
    · simp [h, ih, Ne.symm h]

theorem lookup_catalogue (path : Text) :
    (catalogue paths names).lookup path =
      if path ∈ paths then some (fileNode path)
      else if path ∈ names then some (endpointNode path) else none := by
  unfold Registry.lookup
  rw [index_catalogue, List.find?_append, find?_graph, find?_graph]
  by_cases hpath : path ∈ paths
  · simp [hpath]
  · by_cases hname : path ∈ names <;> simp [hpath, hname]

/-- A specifier that names a file in full refers to it, whatever endpoints there are. -/
theorem resolve_catalogue_of_isExact {source : Text} {s : Specifier}
    (h : s.isExact paths source = true) :
    (catalogue paths names).resolve source s = some (fileNode (s.target source)) := by
  obtain ⟨language, raw⟩ := s
  obtain ⟨hdot, hmem⟩ := (Bool.and_eq_true _ _).mp h
  have hcandidate : (catalogue paths names).candidate source ⟨language, raw⟩ =
      Specifier.target source ⟨language, raw⟩ := by
    cases language with
    | python => rfl
    | javascript => exact if_pos hdot
  unfold Registry.resolve
  rw [hcandidate]
  apply Registry.findByPath_of_lookup
  rw [lookup_catalogue, if_pos (List.contains_iff_mem.mp hmem)]

theorem findEndpoint_catalogue (name : Text) :
    (catalogue paths names).findEndpoint name =
      if name ∈ names then some (endpointNode name) else none := by
  unfold Registry.findEndpoint
  rw [nodes_catalogue, List.find?_append, List.find?_map]
  have hfiles : paths.find? ((fun n : Node => n.kind = .endpoint && n.name = name) ∘ fileNode) =
      none := by
    rw [List.find?_eq_none]
    simp
  rw [hfiles, Option.map_none, Option.none_or]
  induction names with
  | nil => rfl
  | cons n names ih =>
    by_cases h : n = name
    · simp [h]
    · simp [h, ih, Ne.symm h]

end

end Scan
end CodeGraph
