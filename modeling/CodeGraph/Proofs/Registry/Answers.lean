import CodeGraph.Proofs.Registry.Calls

/-! What a registry answers for a path: the node of exactly this path, else the first one in the
index whose path has this ending. An answer lasts until the path itself is taken. -/
namespace CodeGraph

namespace Registry

variable {r r' : Registry} {path : Text} {n : Node} {claims : List Claim} {handed : List Text}

/-- The node that a path refers to in an index. Nothing ends with nothing. -/
inductive Answers (index : List (Text × Node)) (path : Text) (n : Node) : Prop
  | exact (here : (path, n) ∈ index)
  | ending {before after : List (Text × Node)} {key : Text} (free : path ∉ index.map (·.1))
      (nonempty : withoutDot path ≠ []) (split : index = before ++ (key, n) :: after)
      (ends : withoutDot path <:+ key) (first : ∀ e ∈ before, ¬ withoutDot path <:+ e.1)

theorem lookup_eq_none_iff : r.lookup path = none ↔ path ∉ r.keys := by
  rw [← isIndexed_iff, isIndexed]
  simp

theorem exists_lookup (h : path ∈ r.keys) : ∃ n, r.lookup path = some n := by
  have hsome : r.lookup path ≠ none := fun hnone => lookup_eq_none_iff.mp hnone h
  exact Option.ne_none_iff_exists'.mp hsome

/-- A path that is not in the index is looked for as an ending, unless nothing is left of it. -/
theorem findByPath_of_free (hfree : path ∉ r.keys) : r.findByPath path =
    if withoutDot path = [] then none
    else (r.index.find? fun e => isEndOf path e.1).map (·.2) := by
  unfold findByPath
  rw [lookup_eq_none_iff.mpr hfree]
  by_cases hempty : withoutDot path = []
  · have hisEmpty : ((Text.dropPrefix? "./" path).getD path).isEmpty = true :=
      List.isEmpty_iff.mpr hempty
    simp only [hisEmpty, hempty, if_true]
  · have hisEmpty : ¬ ((Text.dropPrefix? "./" path).getD path).isEmpty = true :=
      fun h => hempty (List.isEmpty_iff.mp h)
    simp only [hisEmpty, hempty, if_false]
    rfl

theorem findByPath_of_free_eq_some_iff (hfree : path ∉ r.keys) :
    r.findByPath path = some n ↔ Answers r.index path n := by
  rw [findByPath_of_free hfree]
  constructor
  · intro hn
    split_ifs at hn with hempty
    obtain ⟨⟨key, m⟩, he, rfl⟩ := Option.map_eq_some_iff.mp hn
    obtain ⟨hend, before, after, hsplit, hbefore⟩ := List.find?_eq_some_iff_append.mp he
    refine .ending hfree hempty hsplit ((isEndOf_iff path key).mp hend) fun e hmem hends => ?_
    have hno := hbefore e hmem
    rw [(isEndOf_iff path e.1).mpr hends] at hno
    exact absurd hno (by decide)
  · intro hanswers
    cases hanswers with
    | exact here => exact absurd (List.mem_map_of_mem here) hfree
    | @ending before after key _ hne hsplit hends hfirst =>
      have he : r.index.find? (fun e => isEndOf path e.1) = some (key, n) := by
        rw [List.find?_eq_some_iff_append]
        refine ⟨(isEndOf_iff path key).mpr hends, before, after, hsplit, fun e hmem => ?_⟩
        have hno : ¬ isEndOf path e.1 = true := fun h => hfirst e hmem ((isEndOf_iff _ _).mp h)
        simpa using hno
      rw [if_neg hne, he]
      rfl

/-- Nothing is found for a path just if it is in the index neither in full nor as an ending. -/
theorem findByPath_eq_none_iff : r.findByPath path = none ↔
    path ∉ r.keys ∧ (withoutDot path = [] ∨ ∀ key ∈ r.keys, ¬ withoutDot path <:+ key) := by
  by_cases hfree : path ∈ r.keys
  · obtain ⟨n, hn⟩ := exists_lookup hfree
    rw [findByPath_of_lookup hn]
    simp [hfree]
  · rw [findByPath_of_free hfree]
    by_cases hempty : withoutDot path = []
    · simp [hempty, hfree]
    · have hend : (∀ e ∈ r.index, ¬ isEndOf path e.1 = true) ↔
          ∀ key ∈ r.keys, ¬ withoutDot path <:+ key := by
        simp [keys, isEndOf_iff]
      rw [if_neg hempty, Option.map_eq_none_iff, List.find?_eq_none, hend]
      simp [hempty, hfree]

namespace Sound

variable (h : r.Sound claims handed)
include h

theorem nodup_keys : r.keys.Nodup := by
  have hkeys : r.keys = (addFirsts (·.path) [] claims).map (·.path) := by
    rw [← map_fst_places, h.places, List.map_map]
    rfl
  have hnil : ([] : List Claim).map (·.path) = [] := rfl
  rw [hkeys]
  exact nodup_map_addFirsts (·.path) (hnil ▸ List.nodup_nil) claims

theorem lookup_eq_some_iff : r.lookup path = some n ↔ (path, n) ∈ r.index := by
  have hfind := find?_key_eq_some_iff Prod.fst h.nodup_keys path
  constructor
  · intro hn
    obtain ⟨e, he, rfl⟩ := Option.map_eq_some_iff.mp hn
    obtain ⟨hmem, rfl⟩ := (hfind e).mp he
    exact hmem
  · intro hmem
    have he := (hfind (path, n)).mpr ⟨hmem, rfl⟩
    exact Option.map_eq_some_iff.mpr ⟨(path, n), he, rfl⟩

theorem findByPath_eq_some_iff : r.findByPath path = some n ↔ Answers r.index path n := by
  by_cases hfree : path ∈ r.keys
  · obtain ⟨m, hm⟩ := exists_lookup hfree
    rw [findByPath_of_lookup hm, ← hm, h.lookup_eq_some_iff]
    constructor
    · exact .exact
    · intro hanswers
      cases hanswers with
      | exact here => exact here
      | ending free => exact absurd hfree free
  · exact findByPath_of_free_eq_some_iff hfree

end Sound

/-! Answers last. -/

theorem Extends.keys (h : r.Extends r') : r.keys <+: r'.keys := by
  have hplaces : r.places <+: r'.places := by
    rw [places_eq, places_eq]
    exact h.filterMap _
  rw [← map_fst_places, ← map_fst_places]
  exact hplaces.map _

/-- The first path with an ending stays the first, so that an answer changes only for the node of
exactly the path that was asked for. -/
theorem Extends.findByPath (h : r.Extends r') (hn : r.findByPath path = some n) :
    ∃ m, r'.findByPath path = some m ∧
      ((m.id = n.id ∧ m.bare = n.bare) ∨ r'.lookup path = some m) := by
  by_cases hlater : path ∈ r'.keys
  · obtain ⟨m, hm⟩ := exists_lookup hlater
    exact ⟨m, findByPath_of_lookup hm, Or.inr hm⟩
  · have hnow : path ∉ r.keys := fun hmem => hlater (h.keys.subset hmem)
    rw [findByPath_eq] at hn
    obtain ⟨key, hkey, hlookup⟩ := Option.bind_eq_some_iff.mp hn
    have hkey' : findKey r'.keys path = some key := by
      obtain ⟨more, hmore⟩ := h.keys
      unfold findKey at hkey ⊢
      rw [if_neg hnow] at hkey
      rw [if_neg hlater]
      split_ifs at hkey ⊢ with hempty
      rw [← hmore, List.find?_append, hkey, Option.some_or]
    obtain ⟨m, hm, hid, hbare⟩ := h.lookup hlookup
    refine ⟨m, ?_, Or.inl ⟨hid, hbare⟩⟩
    rw [findByPath_eq, hkey', Option.bind_some, hm]

namespace Usage

/-- What a program may rely on when it asks for a path. The index holds each path once, for the
first node that claimed it and in the order of these claims. -/
structure Answering (u : Usage) (path : Text) : Prop where
  inserted : u.registry.places = (addFirsts (·.path) [] u.claims).map fun c => (c.path, c.id)
  found : ∀ n, u.registry.findByPath path = some n ↔ Answers u.registry.index path n
  nothing : u.registry.findByPath path = none ↔
    path ∉ u.registry.keys ∧
      (withoutDot path = [] ∨ ∀ key ∈ u.registry.keys, ¬ withoutDot path <:+ key)

/-- However a registry is called, now and later: what a path refers to, and that it goes on
referring to it unless a node takes exactly this path. -/
theorem run_answering (digits : DigitStream) (calls later : List Call) (path : Text) :
    (run digits calls).Answering path ∧
    ∀ n, (run digits calls).registry.findByPath path = some n →
      ∃ m, (run digits (calls ++ later)).registry.findByPath path = some m ∧
        ((m.id = n.id ∧ m.bare = n.bare) ∨
          (run digits (calls ++ later)).registry.lookup path = some m) := by
  have hsound := sound_run digits calls
  have hextends := extends_foldl_call (run digits calls) later
  rw [← run_append] at hextends
  constructor
  · exact {
      inserted := hsound.places
      found := fun _ => hsound.findByPath_eq_some_iff
      nothing := findByPath_eq_none_iff }
  · intro n hn
    exact hextends.findByPath hn

end Usage
end Registry
end CodeGraph
