import CodeGraph.Proofs.Pattern.Pieces
import CodeGraph.Scan.Resolution
import Mathlib.Tactic.SplitIfs

/-! What a registry finds: the node of an exact key, else that of the first key with the ending.
What it finds depends neither on identifiers nor on notes about databases. -/
namespace CodeGraph

namespace Node

/-- A node without its identifier and without the note whether its file calls a database. -/
def bare (n : Node) : Node :=
  { n with id := [], hasDb := false }

@[simp] theorem bare_path (n : Node) : n.bare.path = n.path := rfl

@[simp] theorem bare_kind (n : Node) : n.bare.kind = n.kind := rfl

@[simp] theorem bare_name (n : Node) : n.bare.name = n.name := rfl

@[simp] theorem bare_with_id (n : Node) (id : Text) : { n with id }.bare = n.bare := rfl

end Node

namespace Registry

/-- The indexed paths, in order of arrival. -/
def keys (r : Registry) : List Text :=
  r.index.map (·.1)

/-- A path without its leading `./`. -/
def withoutDot (path : Text) : Text :=
  (Text.dropPrefix? "./" path).getD path

def isEndOf (path key : Text) : Bool :=
  Text.endsWith path key || Text.endsWith (withoutDot path) key

/-- The key that a path refers to among the given ones. -/
def findKey (keys : List Text) (path : Text) : Option Text :=
  if path ∈ keys then some path
  else if (withoutDot path).isEmpty then none
  else keys.find? (isEndOf path)

theorem withoutDot_suffix (path : Text) : withoutDot path <:+ path := by
  unfold withoutDot
  cases h : Text.dropPrefix? "./" path with
  | none => exact List.suffix_refl path
  | some rest => exact ⟨_, (Text.dropPrefix?_eq_some_iff.mp h).symm⟩

theorem isEndOf_iff (path key : Text) : isEndOf path key = true ↔ withoutDot path <:+ key := by
  unfold isEndOf Text.endsWith
  rw [Bool.or_eq_true, List.isSuffixOf_iff_suffix, List.isSuffixOf_iff_suffix]
  exact or_iff_right_of_imp (withoutDot_suffix path).trans

/-- A key that is not the path itself ends with it, and no key before it does. -/
theorem findKey_append {first second : List Text} {path key : Text}
    (h : findKey (first ++ second) path = some key) :
    key = path ∨ withoutDot path <:+ key ∧
      (key ∈ first ∨ ∀ k ∈ first, ¬ withoutDot path <:+ k) := by
  unfold findKey at h
  split_ifs at h with hmem hempty
  · exact Or.inl (Option.some.inj h).symm
  · refine Or.inr ⟨(isEndOf_iff path key).mp (List.find?_some h), ?_⟩
    rw [List.find?_append] at h
    cases hfirst : first.find? (isEndOf path) with
    | some k =>
      rw [hfirst, Option.some_or] at h
      rw [← Option.some.inj h]
      exact Or.inl (List.mem_of_find?_eq_some hfirst)
    | none =>
      right
      intro k hk hend
      exact List.find?_eq_none.mp hfirst k hk ((isEndOf_iff path k).mpr hend)

/-- The key that a path refers to is the path itself, or the first key that ends with it. -/
theorem findKey_eq_some {keys : List Text} {path key : Text} (h : findKey keys path = some key) :
    key = path ∨ path ∉ keys ∧ withoutDot path <:+ key ∧
      ∃ before after, keys = before ++ key :: after ∧ ∀ k ∈ before, ¬ withoutDot path <:+ k := by
  unfold findKey at h
  split_ifs at h with hmem hempty
  · exact Or.inl (Option.some.inj h).symm
  · obtain ⟨hend, before, after, hkeys, hbefore⟩ := List.find?_eq_some_iff_append.mp h
    have hsuffix : withoutDot path <:+ key := (isEndOf_iff path key).mp hend
    refine Or.inr ⟨hmem, hsuffix, before, after, hkeys, fun k hk hsuffix => ?_⟩
    have hno := hbefore k hk
    rw [(isEndOf_iff path k).mpr hsuffix] at hno
    exact absurd hno (by decide)

theorem mem_index {r : Registry} {path : Text} {n : Node} (h : (path, n) ∈ r.index) :
    n ∈ r.nodes := by
  obtain ⟨e, he, hkey⟩ := List.mem_filterMap.mp h
  obtain ⟨k, -, hk⟩ := Option.map_eq_some_iff.mp hkey
  have hn : e.node = n := congrArg Prod.snd hk
  exact List.mem_map.mpr ⟨e, he, hn⟩

theorem lookup_mem {r : Registry} {path : Text} {n : Node} (h : r.lookup path = some n) :
    n ∈ r.nodes := by
  obtain ⟨⟨k, m⟩, he, rfl⟩ := Option.map_eq_some_iff.mp h
  exact mem_index (List.mem_of_find?_eq_some he)

theorem isIndexed_iff (r : Registry) (path : Text) : r.isIndexed path = true ↔ path ∈ r.keys := by
  unfold isIndexed lookup keys
  rw [Option.isSome_map, List.find?_isSome, List.mem_map]
  simp

/-- Looking for the first entry whose key passes a test is looking for the first such key. -/
private theorem find?_fst {α β : Type} [DecidableEq α] (test : α → Bool) (l : List (α × β)) :
    (l.find? fun e => test e.1).map (·.2) =
      ((l.map (·.1)).find? test).bind fun k => (l.find? (·.1 = k)).map (·.2) := by
  induction l with
  | nil => rfl
  | cons e l ih =>
    by_cases he : test e.1
    · simp [he]
    · simp only [List.find?_cons, List.map_cons, he, ih]
      cases hk : (l.map (·.1)).find? test with
      | none => rfl
      | some k =>
        have hne : e.1 ≠ k := by
          rintro rfl
          exact he (List.find?_some hk)
        simp [hne]

theorem findByPath_eq (r : Registry) (path : Text) :
    r.findByPath path = (findKey r.keys path).bind r.lookup := by
  unfold findByPath findKey
  cases h : r.lookup path with
  | some n =>
    have hmem : path ∈ r.keys := (isIndexed_iff r path).mp (by rw [isIndexed, h]; rfl)
    simp [hmem, h]
  | none =>
    have hmem : path ∉ r.keys := by
      rw [← isIndexed_iff, isIndexed, h]
      simp
    rw [if_neg hmem]
    change (if (withoutDot path).isEmpty then none
      else (r.index.find? fun e : Text × Node => isEndOf path e.1).map Prod.snd) = _
    split_ifs with hempty
    · rfl
    · exact find?_fst (isEndOf path) r.index

theorem findByPath_of_lookup {r : Registry} {path : Text} {n : Node}
    (h : r.lookup path = some n) : r.findByPath path = some n := by
  unfold findByPath
  rw [h]

theorem findByPath_mem {r : Registry} {path : Text} {n : Node}
    (h : r.findByPath path = some n) : n ∈ r.nodes := by
  rw [findByPath_eq] at h
  obtain ⟨k, -, hk⟩ := Option.bind_eq_some_iff.mp h
  exact lookup_mem hk

theorem resolve_mem {r : Registry} {source : Text} {s : Specifier} {n : Node}
    (h : r.resolve source s = some n) : n ∈ r.nodes :=
  findByPath_mem h

/-- Which endings are tried depends on the indexed paths alone. -/
theorem candidate_congr {r r' : Registry} (h : ∀ path, path ∈ r.keys ↔ path ∈ r'.keys)
    (source : Text) (s : Specifier) : r.candidate source s = r'.candidate source s := by
  have hindexed : r.isIndexed = r'.isIndexed := by
    funext path
    rw [Bool.eq_iff_iff, isIndexed_iff, isIndexed_iff, h]
  unfold candidate resolvePath
  rw [hindexed]

/-! Registries of bare nodes. -/

/-- The registry with bare nodes, as it is before any identifier is drawn. -/
def bare (r : Registry) : Registry :=
  { entries := r.entries.map fun e => ⟨e.key, e.node.bare⟩ }

theorem nodes_bare (r : Registry) : r.bare.nodes = r.nodes.map Node.bare := by
  simp [bare, nodes, Function.comp_def]

theorem index_bare (r : Registry) : r.bare.index = r.index.map fun e => (e.1, e.2.bare) := by
  unfold index bare
  rw [List.filterMap_map, List.map_filterMap]
  congr 1
  funext e
  simp [Function.comp_def]

theorem keys_bare (r : Registry) : r.bare.keys = r.keys := by
  simp [keys, index_bare, Function.comp_def]

theorem lookup_bare (r : Registry) (path : Text) :
    r.bare.lookup path = (r.lookup path).map Node.bare := by
  unfold lookup
  rw [index_bare, List.find?_map, Option.map_map, Option.map_map]
  rfl

theorem isIndexed_bare (r : Registry) (path : Text) : r.bare.isIndexed path = r.isIndexed path := by
  rw [Bool.eq_iff_iff, isIndexed_iff, isIndexed_iff, keys_bare]

theorem findByPath_bare (r : Registry) (path : Text) :
    r.bare.findByPath path = (r.findByPath path).map Node.bare := by
  rw [findByPath_eq, findByPath_eq, keys_bare, Option.map_bind]
  congr 1
  funext k
  exact lookup_bare r k

theorem resolve_bare (r : Registry) (source : Text) (s : Specifier) :
    r.bare.resolve source s = (r.resolve source s).map Node.bare := by
  have hcandidate : r.bare.candidate source s = r.candidate source s :=
    candidate_congr (fun path => by rw [keys_bare]) source s
  unfold resolve
  rw [hcandidate, findByPath_bare]

theorem findEndpoint_bare (r : Registry) (name : Text) :
    r.bare.findEndpoint name = (r.findEndpoint name).map Node.bare := by
  unfold findEndpoint
  rw [nodes_bare, List.find?_map]
  rfl

end Registry
end CodeGraph
