import CodeGraph.Proofs.Firsts
import CodeGraph.Proofs.Registry.Blocks
import CodeGraph.Proofs.Scan.Analysis

/-! A registry under any calls, in any order: identifiers are never given twice, entries are only
added, and a path belongs to the first node that asked for it. -/
namespace CodeGraph

/-- The paths of the routes of a text, each once, in the order of their first routes. -/
def Route.paths (content : Text) : List Text :=
  addFirsts id [] ((ofContent content).map (·.path))

namespace Registry

variable (r : Registry)

/-- An entry but for the note about databases. -/
def Entry.lasting (e : Entry) : Option Text × Text × Node :=
  (e.key, e.node.id, e.node.bare)

def lasting : List (Option Text × Text × Node) :=
  r.entries.map Entry.lasting

theorem lasting_append (key : Option Text) (node : Node) : (r.append key node).2.lasting =
    r.lasting ++ [(key, (r.append key node).1.id, node.bare)] := by
  rw [lasting, entries_append, List.map_append]
  rfl

theorem lasting_markDatabase (id : Text) : (r.markDatabase id).lasting = r.lasting := by
  unfold lasting markDatabase
  rw [List.map_map]
  apply List.map_congr_left
  intro e _
  simp only [Function.comp_apply]
  split_ifs <;> rfl

theorem roster_append (key : Option Text) (node : Node) : (r.append key node).2.roster =
    r.roster ++ [((r.append key node).1.id, node.bare)] := by
  rw [roster, nodes_append, List.map_append]
  rfl

theorem lookup_append {path : Text} (hfree : r.isIndexed path = false) (node : Node) :
    (r.append (some path) node).2.lookup path = some (r.append (some path) node).1 := by
  have hindex : (r.append (some path) node).2.index =
      r.index ++ [(path, (r.append (some path) node).1)] := by
    rw [index, entries_append, List.filterMap_append]
    rfl
  have hnone : r.index.find? (·.1 = path) = none := by
    simpa [isIndexed, lookup] using hfree
  rw [lookup, hindex, List.find?_append, hnone, Option.none_or, List.find?_cons_of_pos (by simp),
    Option.map_some]

theorem map_lasting : r.lasting.map (·.2) = r.roster := by
  simp [lasting, roster, nodes, Entry.lasting]

/-- The paths in the index and the identifiers of their nodes. -/
def places : List (Text × Text) :=
  r.index.map fun e => (e.1, e.2.id)

theorem places_eq : r.places = r.lasting.filterMap fun l => l.1.map (·, l.2.1) := by
  unfold places lasting index
  rw [List.filterMap_map, List.map_filterMap]
  apply List.filterMap_congr
  intro e _
  cases h : e.key <;> simp [Entry.lasting, h]

theorem places_append (key : Option Text) (node : Node) : (r.append key node).2.places =
    r.places ++ (key.map (·, (r.append key node).1.id)).toList := by
  rw [places_eq, places_eq, lasting_append, List.filterMap_append]
  cases key <;> rfl

theorem map_fst_places : r.places.map (·.1) = r.keys := by
  simp [places, keys]

theorem lookup_id (path : Text) :
    (r.lookup path).map (·.id) = (r.places.find? (·.1 = path)).map (·.2) := by
  unfold lookup places
  rw [List.find?_map, Option.map_map, Option.map_map]
  rfl

theorem lookup_lasting (path : Text) : (r.lookup path).map (fun n => (n.id, n.bare)) =
    (r.lasting.find? (·.1 = some path)).map (·.2) := by
  unfold lookup index lasting
  induction r.entries with
  | nil => rfl
  | cons e entries ih =>
    cases h : e.key with
    | none => simpa [Entry.lasting, h] using ih
    | some key =>
      by_cases hkey : key = path
      · simp [Entry.lasting, h, hkey]
      · simpa [Entry.lasting, h, hkey] using ih

/-- Entries are only added. -/
def Extends (r r' : Registry) : Prop :=
  r.lasting <+: r'.lasting

theorem Extends.append (key : Option Text) (node : Node) : r.Extends (r.append key node).2 := by
  unfold Extends
  rw [lasting_append]
  exact List.prefix_append _ _

theorem Extends.roster {r r' : Registry} (h : r.Extends r') : r.roster <+: r'.roster := by
  rw [← map_lasting, ← map_lasting]
  exact h.map _

/-- What is found under a path is found for ever. -/
theorem Extends.lookup {r r' : Registry} (h : r.Extends r') {path : Text} {n : Node}
    (hn : r.lookup path = some n) :
    ∃ m, r'.lookup path = some m ∧ m.id = n.id ∧ m.bare = n.bare := by
  obtain ⟨more, hmore⟩ := h
  have hnow := r.lookup_lasting path
  have hlater := r'.lookup_lasting path
  rw [hn, Option.map_some] at hnow
  obtain ⟨l, hl, hl2⟩ := Option.map_eq_some_iff.mp hnow.symm
  rw [← hmore, List.find?_append, hl, Option.some_or, Option.map_some, hl2] at hlater
  obtain ⟨m, hm, heq⟩ := Option.map_eq_some_iff.mp hlater
  exact ⟨m, hm, congrArg Prod.fst heq, congrArg Prod.snd heq⟩

/-! What a program may do with a registry. -/

/-- A call of a registry, or the analysis of a text for its routes. -/
inductive Call
  | newId
  | register (path : Text) (node : Node)
  | add (node : Node)
  | detect (content : Text) (source : Node)

/-- A node taken in, by its identifier, and the path that it asked for. What is `added` is taken in
without its path if that is taken. -/
structure Claim where
  path : Text
  id : Text
  added : Bool

/-- A claim of a synthesized node to its own path. -/
def Claim.ofAdded (entry : Text × Node) : Claim :=
  { path := entry.2.path, id := entry.1, added := true }

/-- A scan in progress, with the identifiers that were handed out for no node and the claims, oldest
first. -/
structure Usage where
  progress : Progress
  handed : List Text := []
  claims : List Claim := []

namespace Usage

def registry (u : Usage) : Registry :=
  u.progress.registry

def call (u : Usage) : Call → Usage
  | .newId =>
    let (id, registry) := u.registry.newId
    { u with progress := { u.progress with registry }, handed := u.handed ++ [id] }
  | .register path node =>
    match u.registry.register? path node with
    | none => { u with progress := u.progress.report (.duplicatePath path) }
    | some (node, registry) =>
      { u with
        progress := { u.progress with registry }
        claims := u.claims ++ [{ path, id := node.id, added := false }] }
  | .add node =>
    let (node, registry) := u.registry.add node
    { u with
      progress := { u.progress with registry }
      claims := u.claims ++ [.ofAdded (node.id, node)] }
  | .detect content source =>
    let progress := u.progress.detect content source
    { u with
      progress
      claims := u.claims ++ (progress.registry.roster.drop u.registry.size).map .ofAdded }

/-- An empty registry after some calls. -/
def run (digits : DigitStream) (calls : List Call) : Usage :=
  calls.foldl call { progress := { registry := { digits } } }

end Usage

/-! Adding nodes, which is all that a text does to the entries. -/

/-- The registry with further synthesized nodes. -/
def addAll (nodes : List Node) : Registry :=
  nodes.foldl (fun r n => (r.add n).2) r

theorem Extends.addAll (nodes : List Node) : r.Extends (r.addAll nodes) := by
  induction nodes generalizing r with
  | nil => exact List.prefix_refl _
  | cons node nodes ih => exact (Extends.append r _ _).trans (ih _)

theorem isSome_findEndpoint_iff (name : Text) : (r.findEndpoint name).isSome ↔
    ∃ n ∈ r.nodes, n.kind = .endpoint ∧ n.name = name := by
  unfold findEndpoint
  rw [List.find?_isSome]
  simp

theorem isSome_findEndpoint_addAll (names : List Text) (name : Text) :
    ((r.addAll (names.map Scan.endpointNode)).findEndpoint name).isSome ↔
      (r.findEndpoint name).isSome ∨ name ∈ names := by
  induction names generalizing r with
  | nil => simp [addAll]
  | cons a names ih =>
    have hadd : ((r.add (Scan.endpointNode a)).2.findEndpoint name).isSome ↔
        (r.findEndpoint name).isSome ∨ name = a := by
      have hnew : (r.add (Scan.endpointNode a)).1.name = a ∧
          (r.add (Scan.endpointNode a)).1.kind = .endpoint := ⟨rfl, rfl⟩
      rw [isSome_findEndpoint_iff, isSome_findEndpoint_iff, add, nodes_append, ← add]
      simp only [List.mem_append, List.mem_singleton, or_and_right, exists_or, exists_eq_left,
        hnew, true_and, eq_comm]
    change (((r.add (Scan.endpointNode a)).2.addAll _).findEndpoint name).isSome ↔ _
    rw [ih, hadd, List.mem_cons, or_assoc]

/-- The names that no endpoint has. -/
def missing (names : List Text) : List Text :=
  names.filter fun name => (r.findEndpoint name).isNone

theorem mem_missing_iff (names : List Text) (name : Text) :
    name ∈ r.missing names ↔ name ∈ names ∧ ¬(r.findEndpoint name).isSome := by
  simp [missing]

theorem registry_endpoint (p : Progress) (source : Node) (route : Route) :
    (Progress.endpoint source p route).2.registry =
      p.registry.addAll ((p.registry.missing [route.path]).map Scan.endpointNode) := by
  unfold Progress.endpoint missing
  cases h : p.registry.findEndpoint route.path with
  | some n => simp [h, addAll]
  | none =>
    rw [List.filter_cons_of_pos (by simp [h])]
    rfl

/-- A text adds the endpoints that are missing, in the order of the first routes to them. -/
theorem registry_foldl_followRoute (source : Node) (routes : List Route)
    (state : Progress × List Text) :
    (routes.foldl (Progress.followRoute source) state).1.registry =
      state.1.registry.addAll ((state.1.registry.missing
        (addFirsts id [] (routes.map (·.path)))).map Scan.endpointNode) := by
  induction routes using List.reverseRecOn with
  | nil => rfl
  | append_singleton routes route ih =>
    rw [List.foldl_append, List.map_append, addFirsts_append]
    generalize routes.foldl (Progress.followRoute source) state = last at ih ⊢
    generalize addFirsts id [] (routes.map (·.path)) = names at ih ⊢
    obtain ⟨p, linked⟩ := last
    change p.registry = _ at ih
    have hstep : (Progress.followRoute source (p, linked) route).1.registry =
        (Progress.endpoint source p route).2.registry := by
      rw [Progress.followRoute_eq]
      split_ifs <;> rfl
    have hfound : (p.registry.findEndpoint route.path).isSome ↔
        (state.1.registry.findEndpoint route.path).isSome ∨ route.path ∈ names := by
      rw [ih, isSome_findEndpoint_addAll, mem_missing_iff]
      tauto
    change (Progress.followRoute source (p, linked) route).1.registry = _
    rw [hstep, registry_endpoint, List.map_singleton]
    by_cases hold : route.path ∈ names
    · have hnone : p.registry.missing [route.path] = [] := by
        rw [List.eq_nil_iff_forall_not_mem]
        intro name hname
        rw [mem_missing_iff, List.mem_singleton] at hname
        exact hname.2 (hname.1 ▸ hfound.mpr (Or.inr hold))
      rw [addFirsts_old id (by simpa using hold), hnone]
      exact ih
    · have hsame : p.registry.missing [route.path] = state.1.registry.missing [route.path] := by
        rw [or_iff_left hold] at hfound
        have hnone : (p.registry.findEndpoint route.path).isNone =
            (state.1.registry.findEndpoint route.path).isNone := by
          rw [Bool.eq_iff_iff]
          simpa using not_congr hfound
        simp only [missing, List.filter_cons, List.filter_nil, hnone]
      rw [addFirsts_new id (by simpa using hold), hsame, ih, missing,
        missing, missing, List.filter_append, List.map_append]
      exact List.foldl_append.symm

/-- The registry with the note about databases, if the text calls one. -/
def noteCalls (content : Text) (source : Node) : Registry :=
  if callsDatabase content then r.markDatabase source.id else r

theorem registry_detect (p : Progress) (content : Text) (source : Node) :
    (p.detect content source).registry =
      (p.registry.addAll ((p.registry.missing (Route.paths content)).map
        Scan.endpointNode)).noteCalls content source := by
  have hfollowed := registry_foldl_followRoute source (Route.ofContent content) (p, [])
  rw [Progress.detect_eq, noteCalls]
  split_ifs
  · exact congrArg (Registry.markDatabase · source.id) hfollowed
  · exact hfollowed

theorem exists_addAll_detect (p : Progress) (content : Text) (source : Node) : ∃ nodes,
    (p.detect content source).registry = p.registry.addAll nodes ∨
    (p.detect content source).registry = (p.registry.addAll nodes).markDatabase source.id := by
  have hdetect := registry_detect p content source
  unfold noteCalls at hdetect
  split_ifs at hdetect
  · exact ⟨_, Or.inr hdetect⟩
  · exact ⟨_, Or.inl hdetect⟩

/-! What every call keeps. -/

/-- What holds between two calls of a registry, its claims and the identifiers handed out. -/
structure Sound (claims : List Claim) (handed : List Text) : Prop where
  used : r.used.Perm (r.ids ++ handed)
  nodup : r.used.Nodup
  wellFormed : r.used.length ≤ 36 ^ 9 → ∀ id ∈ r.used, Identifier.IsWellFormed id
  claimed : claims.map (·.id) = r.ids
  places : r.places = (addFirsts (·.path) [] claims).map fun c => (c.path, c.id)
  first : ∀ c ∈ claims, c.added = false → c ∈ addFirsts (·.path) [] claims
  own : ∀ c ∈ claims, c.added = true → ∃ b, (c.id, b) ∈ r.roster ∧ b.path = c.path

variable {r} {claims : List Claim} {handed : List Text}

theorem newId_notMem : r.newId.1 ∉ r.used :=
  Identifier.fresh_notMem r.used (Identifier.tries r.used r.digits) r.digits

/-- A new identifier is as well formed as the others, while one is left. -/
theorem isWellFormed_of_used_cons
    (h : r.used.length ≤ 36 ^ 9 → ∀ id ∈ r.used, Identifier.IsWellFormed id)
    (hroom : (r.newId.1 :: r.used).length ≤ 36 ^ 9) :
    ∀ id ∈ r.newId.1 :: r.used, Identifier.IsWellFormed id := by
  rw [List.length_cons] at hroom
  exact List.forall_mem_cons.mpr
    ⟨Identifier.isWellFormed_fresh (by omega) r.digits, h (by omega)⟩

/-- A further claim is a first one just if its path is free. -/
theorem Sound.firsts_concat (h : r.Sound claims handed) (c : Claim) :
    addFirsts (·.path) [] (claims ++ [c]) =
      addFirsts (·.path) [] claims ++ if r.isIndexed c.path then [] else [c] := by
  have hkeys : c.path ∈ r.keys ↔ c.path ∈ (addFirsts (·.path) [] claims).map (·.path) := by
    rw [← map_fst_places, h.places, List.map_map]
    rfl
  rw [addFirsts_append]
  by_cases hold : r.isIndexed c.path = true
  · rw [if_pos hold, List.append_nil]
    exact addFirsts_old _ (hkeys.mp ((r.isIndexed_iff _).mp hold))
  · rw [if_neg hold]
    exact addFirsts_new _ fun hmem => hold ((r.isIndexed_iff _).mpr (hkeys.mpr hmem))

theorem Sound.newId (h : r.Sound claims handed) :
    r.newId.2.Sound claims (handed ++ [r.newId.1]) where
  used := by
    have hcons : r.newId.2.used = r.newId.1 :: r.used := rfl
    rw [hcons, ← List.append_assoc]
    exact (h.used.cons _).trans (List.perm_append_singleton _ _).symm
  nodup := List.nodup_cons.mpr ⟨newId_notMem, h.nodup⟩
  wellFormed := isWellFormed_of_used_cons h.wellFormed
  claimed := h.claimed
  places := h.places
  first := h.first
  own := h.own

/-- Taking in a node whose path is indexed if it is free. Only what is added may come without. -/
theorem Sound.append (h : r.Sound claims handed) {path : Text} {node : Node} {added : Bool}
    (hown : added = true → node.path = path) (hfree : added = false → ¬r.isIndexed path = true) :
    (r.append (if r.isIndexed path then none else some path) node).2.Sound
      (claims ++ [{ path, id := r.newId.1, added }]) handed := by
  refine ⟨?_, ?_, isWellFormed_of_used_cons h.wellFormed, ?_, ?_, ?_, ?_⟩
  · rw [used_append, ids_append, List.append_assoc]
    exact (h.used.cons _).trans List.perm_middle.symm
  · exact List.nodup_cons.mpr ⟨newId_notMem, h.nodup⟩
  · rw [List.map_append, h.claimed, ids_append]
    rfl
  · rw [places_append, h.places, h.firsts_concat, List.map_append]
    by_cases hold : r.isIndexed path = true
    · rw [if_pos hold, if_pos hold]
      rfl
    · rw [if_neg hold, if_neg hold]
      rfl
  · intro c hc hadded
    rw [h.firsts_concat, List.mem_append]
    rcases List.mem_append.mp hc with hc | hc
    · exact Or.inl (h.first c hc hadded)
    · obtain rfl := List.mem_singleton.mp hc
      rw [if_neg (hfree hadded)]
      exact Or.inr hc
  · intro c hc hadded
    rw [roster_append]
    rcases List.mem_append.mp hc with hc | hc
    · obtain ⟨b, hb, hpath⟩ := h.own c hc hadded
      exact ⟨b, List.mem_append_left _ hb, hpath⟩
    · obtain rfl := List.mem_singleton.mp hc
      exact ⟨node.bare, List.mem_append_right _ (List.mem_singleton.mpr rfl), hown hadded⟩

theorem Sound.markDatabase (h : r.Sound claims handed) (id : Text) :
    (r.markDatabase id).Sound claims handed where
  used := by
    rw [ids_markDatabase]
    exact h.used
  nodup := h.nodup
  wellFormed := h.wellFormed
  claimed := by rw [ids_markDatabase, h.claimed]
  places := by rw [places_eq, lasting_markDatabase, ← places_eq, h.places]
  first := h.first
  own := by
    rw [roster_markDatabase]
    exact h.own

theorem Sound.add (h : r.Sound claims handed) (node : Node) :
    (r.add node).2.Sound (claims ++ [.ofAdded ((r.add node).1.id, node)]) handed :=
  h.append (fun _ => rfl) (fun hadded => absurd hadded (by decide))

/-- What is added makes one claim each, to its own path. -/
theorem Sound.addAll (h : r.Sound claims handed) (nodes : List Node) :
    ∃ more, (r.addAll nodes).roster = r.roster ++ more ∧
      (r.addAll nodes).Sound (claims ++ more.map .ofAdded) handed := by
  induction nodes generalizing r claims with
  | nil =>
    refine ⟨[], (List.append_nil _).symm, ?_⟩
    rw [List.map_nil, List.append_nil]
    exact h
  | cons node nodes ih =>
    obtain ⟨more, hmore, hsound⟩ := ih (h.add node)
    refine ⟨((r.add node).1.id, node.bare) :: more, ?_, ?_⟩
    · have hroster : (r.add node).2.roster = r.roster ++ [((r.add node).1.id, node.bare)] :=
        roster_append _ _ _
      rw [hroster, List.append_assoc] at hmore
      exact hmore
    · rw [List.append_assoc] at hsound
      exact hsound

theorem size_eq_roster : r.size = r.roster.length := by
  simp [size, roster, nodes]

/-- The analysis of a text adds nodes and marks one. -/
theorem Sound.detect (p : Progress) (h : p.registry.Sound claims handed) (content : Text)
    (source : Node) : (p.detect content source).registry.Sound
      (claims ++ ((p.detect content source).registry.roster.drop p.registry.size).map .ofAdded)
      handed := by
  obtain ⟨nodes, hnodes⟩ := exists_addAll_detect p content source
  obtain ⟨more, hmore, hsound⟩ := h.addAll nodes
  have hdrop : (p.registry.addAll nodes).roster.drop p.registry.size = more := by
    rw [hmore, size_eq_roster, List.drop_left]
  rcases hnodes with hnodes | hnodes
  · rw [hnodes, hdrop]
    exact hsound
  · rw [hnodes, roster_markDatabase, hdrop]
    exact hsound.markDatabase source.id

namespace Usage

variable {u : Usage}

/-- A node that `register` refuses leaves everything but the report as it was. -/
theorem call_register_of_isIndexed {path : Text} (h : u.registry.isIndexed path = true)
    (node : Node) :
    u.call (.register path node) =
      { u with progress := u.progress.report (.duplicatePath path) } := by
  simp [call, register?, h]

theorem call_register_of_not {path : Text} (h : ¬u.registry.isIndexed path = true) (node : Node) :
    u.call (.register path node) =
      { u with
        progress := { u.progress with registry := (u.registry.append (some path) node).2 }
        claims := u.claims ++ [{ path, id := u.registry.newId.1, added := false }] } := by
  simp only [call, register?, h]
  rfl

/-- A node that asks for a free path is taken in, and found under it. -/
theorem call_register_accepted {path : Text} (hfree : u.registry.isIndexed path = false)
    (node : Node) :
    u.registry.register? path node = some ({ node with id := u.registry.newId.1 },
        (u.call (.register path node)).registry) ∧
      (u.call (.register path node)).registry.lookup path =
        some { node with id := u.registry.newId.1 } ∧
      (u.call (.register path node)).claims =
        u.claims ++ [{ path, id := u.registry.newId.1, added := false }] := by
  have hnot : ¬u.registry.isIndexed path = true := by simp [hfree]
  rw [call_register_of_not hnot node]
  refine ⟨if_neg hnot, lookup_append _ hfree node, rfl⟩

theorem sound_call (h : u.registry.Sound u.claims u.handed) (c : Call) :
    (u.call c).registry.Sound (u.call c).claims (u.call c).handed := by
  cases c with
  | newId => exact h.newId
  | add node => exact h.add node
  | detect content source => exact Sound.detect u.progress h content source
  | register path node =>
    by_cases hold : u.registry.isIndexed path = true
    · rw [call_register_of_isIndexed hold]
      exact h
    · rw [call_register_of_not hold]
      have hstep : (u.registry.append (if u.registry.isIndexed path then none else some path)
          node).2.Sound (u.claims ++ [{ path, id := u.registry.newId.1, added := false }])
            u.handed :=
        h.append (fun hadded => absurd hadded (by decide)) (fun _ => hold)
      rw [if_neg hold] at hstep
      exact hstep

theorem extends_call (c : Call) : u.registry.Extends (u.call c).registry := by
  cases c with
  | newId => exact List.prefix_refl _
  | add node => exact Extends.append _ _ _
  | detect content source =>
    obtain ⟨nodes, hnodes⟩ := exists_addAll_detect u.progress content source
    have hadd := Extends.addAll u.progress.registry nodes
    change u.progress.registry.lasting <+: (u.progress.detect content source).registry.lasting
    rcases hnodes with hnodes | hnodes
    · rw [hnodes]
      exact hadd
    · rw [hnodes, lasting_markDatabase]
      exact hadd
  | register path node =>
    by_cases hold : u.registry.isIndexed path = true
    · rw [call_register_of_isIndexed hold]
      exact List.prefix_refl _
    · rw [call_register_of_not hold]
      exact Extends.append _ _ _

theorem run_append (digits : DigitStream) (calls later : List Call) :
    run digits (calls ++ later) = later.foldl call (run digits calls) :=
  List.foldl_append

theorem sound_run (digits : DigitStream) (calls : List Call) :
    (run digits calls).registry.Sound (run digits calls).claims (run digits calls).handed := by
  induction calls using List.reverseRecOn with
  | nil => exact ⟨List.Perm.nil, List.nodup_nil, by simp [run, registry], rfl, rfl, by simp [run],
      by simp [run]⟩
  | append_singleton calls c ih =>
    rw [run_append]
    exact sound_call ih c

theorem extends_foldl_call (u : Usage) (calls : List Call) :
    u.registry.Extends (calls.foldl call u).registry := by
  induction calls generalizing u with
  | nil => exact List.prefix_refl _
  | cons c calls ih => exact (extends_call c).trans (ih _)

end Usage

namespace Sound

variable (h : r.Sound claims handed)
include h

theorem distinct : r.Distinct where
  nodup := (List.nodup_append.mp (h.used.nodup_iff.mp h.nodup)).1
  used := fun _ hid => h.used.mem_iff.mpr (List.mem_append_left _ hid)

/-- A path belongs to the node that claimed it first. -/
theorem lookup_eq (path : Text) :
    (r.lookup path).map (·.id) = (claims.find? (·.path = path)).map (·.id) := by
  have hfirst := find?_addFirsts Claim.path [] claims path
  rw [List.find?_nil, Option.none_or] at hfirst
  rw [lookup_id, h.places, List.find?_map, Option.map_map, ← hfirst]
  rfl

/-- There are identifiers of the form for all nodes just if there are enough of them. -/
theorem wellFormed_iff : (∀ id ∈ r.ids ++ handed, Identifier.IsWellFormed id) ↔
    (r.ids ++ handed).length ≤ 36 ^ 9 := by
  constructor
  · exact Identifier.length_le_of_isWellFormed (h.used.nodup_iff.mp h.nodup)
  · intro hroom id hid
    rw [← h.used.length_eq] at hroom
    exact h.wellFormed hroom id (h.used.mem_iff.mpr hid)

/-- A node that nothing finds was added when its path was claimed already. -/
theorem exists_claim {n : Node} (hn : n ∈ r.nodes)
    (hlost : ∀ path m, r.lookup path = some m → m.id ≠ n.id) : ∃ before after,
      claims = before ++ { path := n.path, id := n.id, added := true } :: after ∧
        n.path ∈ before.map (·.path) := by
  have hid : n.id ∈ claims.map (·.id) := by
    rw [h.claimed]
    exact List.mem_map_of_mem hn
  obtain ⟨c, hc, hcid⟩ := List.mem_map.mp hid
  have hlater : c ∉ addFirsts (·.path) [] claims := by
    intro hfirst
    have hfound := h.lookup_eq c.path
    rw [(mem_addFirsts_nil_iff _ _ _).mp hfirst, Option.map_some] at hfound
    obtain ⟨m, hm, hmid⟩ := Option.map_eq_some_iff.mp hfound
    exact hlost c.path m hm (hmid.trans hcid)
  have hadded : c.added = true := by
    by_contra hadded
    exact hlater (h.first c hc (by simpa using hadded))
  obtain ⟨b, hb, hpath⟩ := h.own c hc hadded
  have hbare : b = n.bare := h.distinct.eq_of_mem_roster (hcid ▸ hb) (mem_roster hn)
  have hclaim : c = { path := n.path, id := n.id, added := true } := by
    rw [hbare, n.bare_path] at hpath
    obtain ⟨path, id, added⟩ := c
    simp only at hcid hadded hpath
    rw [hcid, hadded, hpath]
  obtain ⟨before, after, rfl⟩ := List.append_of_mem hc
  refine ⟨before, after, by rw [hclaim], ?_⟩
  by_contra hnew
  rw [hclaim] at hlater
  exact hlater (mem_addFirsts_of_new _ hnew)

end Sound

namespace Usage

/-- What a program may rely on between two calls. There are `36 ^ 9` identifiers of the form: beyond
them none can be drawn. -/
structure Lawful (u : Usage) : Prop where
  nodup : (u.registry.ids ++ u.handed).Nodup
  wellFormed : (∀ id ∈ u.registry.ids ++ u.handed, Identifier.IsWellFormed id) ↔
    (u.registry.ids ++ u.handed).length ≤ 36 ^ 9
  first : ∀ path, (u.registry.lookup path).map (·.id) =
    (u.claims.find? (·.path = path)).map (·.id)
  indexed : ∀ path n, (path, n) ∈ u.registry.index → n ∈ u.registry.nodes
  lost : ∀ n ∈ u.registry.nodes, (∀ path m, u.registry.lookup path = some m → m.id ≠ n.id) →
    ∃ before after, u.claims = before ++ { path := n.path, id := n.id, added := true } :: after ∧
      n.path ∈ before.map (·.path)
  accepted : ∀ path node, u.registry.isIndexed path = false →
    u.registry.register? path node = some ({ node with id := u.registry.newId.1 },
        (u.call (.register path node)).registry) ∧
      (u.call (.register path node)).registry.lookup path =
        some { node with id := u.registry.newId.1 } ∧
      (u.call (.register path node)).claims =
        u.claims ++ [{ path, id := u.registry.newId.1, added := false }]
  refused : ∀ path node, u.registry.isIndexed path = true →
    u.registry.register? path node = none ∧
      u.call (.register path node) = { u with progress := u.progress.report (.duplicatePath path) }

/-- What lasts: all nodes, in their order and but for the notes about databases, and whatever is
found under a path. -/
structure Lasts (u u' : Usage) : Prop where
  nodes : u.registry.roster <+: u'.registry.roster
  lookup : ∀ path n, u.registry.lookup path = some n →
    ∃ m, u'.registry.lookup path = some m ∧ m.id = n.id ∧ m.bare = n.bare

/-- However a registry is called, and whatever digits its identifiers are drawn from: the pending
ones are any digits at all. -/
theorem run_lawful (digits : DigitStream) (calls later : List Call) :
    (run digits calls).Lawful ∧ (run digits calls).Lasts (run digits (calls ++ later)) := by
  have hsound := sound_run digits calls
  have hextends := extends_foldl_call (run digits calls) later
  rw [← run_append] at hextends
  constructor
  · exact {
      nodup := hsound.used.nodup_iff.mp hsound.nodup
      wellFormed := hsound.wellFormed_iff
      first := hsound.lookup_eq
      indexed := fun _ _ => mem_index
      lost := fun _ => hsound.exists_claim
      accepted := fun _ node hfree => call_register_accepted hfree node
      refused := fun _ node hold => ⟨if_pos hold, call_register_of_isIndexed hold node⟩ }
  · exact ⟨hextends.roster, fun _ _ => hextends.lookup⟩

end Usage
end Registry
end CodeGraph
