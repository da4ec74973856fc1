import CodeGraph.Proofs.Faults
import CodeGraph.Proofs.Json.Fields
import CodeGraph.Graph.Payload

/-! Nodes, edges and graphs that come back from their own fields. The fields of a node lie in
layers: those that it merely keeps, then its own, with a note on its database on either side. -/
namespace CodeGraph

theorem NodeKind.ofJson_name (k : NodeKind) : ofJson (some (.str k.name)) = k := by
  cases k <;> decide

theorem EdgeKind.ofJson_name (k : EdgeKind) : ofJson (some (.str k.name)) = k := by
  cases k <;> decide

theorem Fields.plain_eq {key t : Text} {fs : Fields} (h : fs.get? key = some (.str t)) :
    fs.plain key = t := by
  rw [plain, h]
  rfl

namespace Node

/-- The fields of other keys than those of a node. -/
def otherFields (fs : Fields) : Fields :=
  fs.filter fun f => !ownKeys.contains f.1

/-- A note on the database of a node. -/
def noted (v : Json) : Fields :=
  [("hasDb", v)]

/-- What metadata keeps of a note: one that counts as false. -/
def doubt : Option Json → Fields
  | some v => if v.truthy then [] else noted v
  | none => []

/-- The fields that are always written. -/
def basicFields (n : Node) : Fields :=
  [("id", .str n.id), ("name", .str n.name), ("type", .str n.kind.name), ("path", .str n.path)]

/-- The extension, if there is one. -/
def extensionFields (n : Node) : Fields :=
  if n.extension = .null then [] else [("extension", n.extension)]

def ownFields (n : Node) : Fields :=
  n.basicFields ++ n.extensionFields

/-- The metadata of a node: fields of other keys, and then a doubt about its database. -/
structure Keeps (n : Node) (others : Fields) (note : Option Json) : Prop where
  metadata_eq : n.metadata = others ++ doubt note
  foreign : Fields.Foreign ownKeys others

/-- A node with a database has no doubt about it. -/
def Settled (n : Node) : Prop :=
  ∃ others note, n.Keeps others note ∧ (n.hasDb = true → doubt note = [])

variable {n : Node} {others : Fields} {note : Option Json}

theorem doubt_cases (note : Option Json) :
    doubt note = [] ∨ ∃ v : Json, v.truthy = false ∧ doubt note = noted v := by
  cases note with
  | none => exact Or.inl rfl
  | some v =>
    unfold doubt
    by_cases h : v.truthy = true
    · exact Or.inl (if_pos h)
    · exact Or.inr ⟨v, Bool.eq_false_iff.mpr h, if_neg h⟩

theorem get?_noted (v : Json) : (noted v).get? "hasDb" = some v := rfl

/-- A note in doubt counts as false, and doubting it once more changes nothing. -/
theorem doubt_doubt (note : Option Json) :
    ((doubt note).get? "hasDb").any (·.truthy) = false ∧
      doubt ((doubt note).get? "hasDb") = doubt note := by
  rcases doubt_cases note with h | ⟨v, hv, h⟩
  · rw [h]
    exact ⟨rfl, rfl⟩
  · rw [h, get?_noted]
    exact ⟨hv, if_neg (by simp [hv])⟩

theorem metadata_ofFields (fs : Fields) :
    (ofFields fs).metadata = otherFields fs ++ doubt (fs.get? "hasDb") := by
  have hset (v : Json) : (otherFields fs).set "hasDb" v = otherFields fs ++ noted v :=
    Fields.set_of_notMem ((Fields.foreign_filter _ _).notMem_keys (by decide))
  unfold ofFields
  dsimp only
  split
  · next v hv =>
    rw [hv]
    unfold doubt
    dsimp only
    split_ifs
    · exact (List.append_nil _).symm
    · exact hset v
  · next hv =>
    rw [hv]
    exact (List.append_nil _).symm

theorem keeps_ofFields (fs : Fields) (hasDb : Bool) :
    Keeps { ofFields fs with hasDb } (otherFields fs) (fs.get? "hasDb") where
  metadata_eq := metadata_ofFields fs
  foreign := Fields.foreign_filter _ _

theorem settled_of_metadata_eq_nil (h : n.metadata = []) : n.Settled :=
  ⟨[], none, ⟨h, Fields.foreign_nil _⟩, fun _ => rfl⟩

theorem settled_ofFields (fs : Fields) : (ofFields fs).Settled := by
  refine ⟨_, _, keeps_ofFields fs (ofFields fs).hasDb, fun hdb => ?_⟩
  obtain ⟨v, hv, htruthy⟩ := (Option.any_eq_true _ _).mp hdb
  rw [hv]
  exact if_pos htruthy

/-! Writing the fields. -/

theorem ownFields_keys (n : Node) : ∀ f ∈ n.ownFields, f.1 ∈ ownKeys ∧ f.1 ≠ "hasDb" := by
  unfold ownFields basicFields extensionFields
  split_ifs <;> simp [ownKeys]

theorem hasDb_notMem_ownFields (n : Node) : ("hasDb" : Text) ∉ n.ownFields.keys := by
  intro h
  obtain ⟨f, hf, heq⟩ := List.mem_map.mp h
  exact (n.ownFields_keys f hf).2 heq

theorem Keeps.notMem_keys (h : n.Keeps others note) {key : Text} (hkey : key ∈ ownKeys)
    (hne : key ≠ "hasDb") : key ∉ n.metadata.keys := by
  rw [h.metadata_eq, Fields.keys_append, List.mem_append, not_or]
  refine ⟨h.foreign.notMem_keys hkey, ?_⟩
  rcases doubt_cases note with hdoubt | ⟨v, -, hdoubt⟩
  · simp [hdoubt, Fields.keys]
  · simpa [hdoubt, Fields.keys, noted] using hne

/-- The fields of the node itself come behind its metadata, and a note that it has a database
stands in the place of a doubt, else last. -/
theorem Keeps.toFields_eq (h : n.Keeps others note) :
    n.toFields =
      if n.hasDb then (n.metadata ++ n.ownFields).set "hasDb" (.bool true)
      else n.metadata ++ n.ownFields := by
  have hnew (f : Text × Json) (hf : f ∈ n.ownFields) : f.1 ∉ n.metadata.keys :=
    h.notMem_keys (n.ownFields_keys f hf).1 (n.ownFields_keys f hf).2
  have hbasic : n.metadata.update n.basicFields = n.metadata ++ n.basicFields :=
    Fields.update_of_new (by simp [basicFields, Fields.keys]) fun f hf =>
      hnew f (List.mem_append_left _ hf)
  have hextension : (if n.extension = .null then n.metadata ++ n.basicFields else
      (n.metadata ++ n.basicFields).set "extension" n.extension) = n.metadata ++ n.ownFields := by
    unfold ownFields extensionFields
    split_ifs
    · rw [List.append_nil]
    · rw [Fields.set_of_notMem, List.append_assoc]
      rw [Fields.keys_append, List.mem_append, not_or]
      exact ⟨h.notMem_keys (by decide) (by decide), by simp [basicFields, Fields.keys]⟩
  rw [← hextension, ← hbasic]
  rfl

/-- Fields in layers: those of other keys, and those of the node with notes on its database before
or behind them. -/
structure Layers (n : Node) (others ahead behind fs : Fields) : Prop where
  fs_eq : fs = others ++ (ahead ++ (n.ownFields ++ behind))
  foreign : Fields.Foreign ownKeys others
  notes : ∀ f ∈ ahead ++ behind, f.1 = "hasDb"

theorem doubt_notes (note : Option Json) : ∀ f ∈ doubt note, f.1 = "hasDb" := by
  rcases doubt_cases note with h | ⟨v, -, h⟩ <;> simp [h, noted]

/-- A note that the node has a database changes a doubt where that stands. -/
theorem Keeps.layers (h : n.Keeps others note) :
    ∃ ahead behind, n.Layers others ahead behind n.toFields ∧
      ahead ++ behind = if n.hasDb then noted (.bool true) else doubt note := by
  have hforeign : ("hasDb" : Text) ∉ others.keys := h.foreign.notMem_keys (by decide)
  rw [h.toFields_eq, h.metadata_eq, List.append_assoc]
  cases n.hasDb with
  | false => exact ⟨doubt note, [], ⟨by simp, h.foreign, by simpa using doubt_notes note⟩, by simp⟩
  | true =>
    rcases doubt_cases note with hdoubt | ⟨v, -, hdoubt⟩
    · refine ⟨[], noted (.bool true), ⟨?_, h.foreign, by simp [noted]⟩, rfl⟩
      rw [hdoubt, if_pos rfl, Fields.set_of_notMem]
      · simp [noted]
      · rw [List.nil_append, Fields.keys_append, List.mem_append, not_or]
        exact ⟨hforeign, n.hasDb_notMem_ownFields⟩
    · refine ⟨noted (.bool true), [], ⟨?_, h.foreign, by simp [noted]⟩, rfl⟩
      rw [hdoubt, if_pos rfl, List.append_nil]
      exact Fields.set_append_cons hforeign v

section

variable {ahead behind fs : Fields} (h : n.Layers others ahead behind fs)

include h

theorem Layers.get?_own {key : Text} (hkey : key ∈ ownKeys) (hne : key ≠ "hasDb") :
    fs.get? key = n.ownFields.get? key := by
  have hnone (gs : Fields) (hgs : gs ⊆ ahead ++ behind) : gs.get? key = none := by
    refine Fields.get?_eq_none_iff.mpr fun hmem => hne ?_
    obtain ⟨f, hf, rfl⟩ := List.mem_map.mp hmem
    exact h.notes f (hgs hf)
  rw [h.fs_eq, Fields.get?_append, Fields.get?_append, Fields.get?_append,
    h.foreign.get?_eq_none hkey, hnone ahead (List.subset_append_left _ _),
    hnone behind (List.subset_append_right _ _), Option.none_or, Option.none_or, Option.or_none]

theorem Layers.get?_hasDb : fs.get? "hasDb" = (ahead ++ behind).get? "hasDb" := by
  rw [h.fs_eq, Fields.get?_append, Fields.get?_append, Fields.get?_append, Fields.get?_append,
    h.foreign.get?_eq_none (by decide), Fields.get?_eq_none_iff.mpr n.hasDb_notMem_ownFields,
    Option.none_or, Option.none_or]

theorem Layers.otherFields_eq : otherFields fs = others := by
  have hrest (f : Text × Json) (hf : f ∈ ahead ++ (n.ownFields ++ behind)) :
      ¬(!ownKeys.contains f.1) = true := by
    have hnote : f ∈ ahead ++ behind ∨ f ∈ n.ownFields := by
      simp only [List.mem_append] at hf ⊢
      tauto
    rcases hnote with hf | hf
    · rw [h.notes f hf]
      decide
    · simpa using (n.ownFields_keys f hf).1
  rw [h.fs_eq, otherFields, List.filter_append, h.foreign.filter_eq,
    List.filter_eq_nil_iff.mpr hrest, List.append_nil]

/-- What is read from fields in layers. -/
theorem Layers.ofFields_eq :
    ofFields fs = { n with
      hasDb := ((ahead ++ behind).get? "hasDb").any (·.truthy)
      metadata := others ++ doubt ((ahead ++ behind).get? "hasDb") } := by
  have hid : fs.plain "id" = n.id :=
    Fields.plain_eq (h.get?_own (by decide) (by decide))
  have hname : fs.plain "name" = n.name :=
    Fields.plain_eq (h.get?_own (by decide) (by decide))
  have hpath : fs.plain "path" = n.path :=
    Fields.plain_eq (h.get?_own (by decide) (by decide))
  have hkind : NodeKind.ofJson (fs.get? "type") = n.kind := by
    rw [h.get?_own (by decide) (by decide)]
    exact n.kind.ofJson_name
  have hextension : (fs.get? "extension").getD .null = n.extension := by
    rw [h.get?_own (by decide) (by decide)]
    unfold ownFields extensionFields
    split_ifs with hnull
    · exact hnull.symm
    · rfl
  have hmetadata := metadata_ofFields fs
  rw [h.otherFields_eq, h.get?_hasDb] at hmetadata
  calc
    ofFields fs =
        { id := fs.plain "id"
          name := fs.plain "name"
          kind := .ofJson (fs.get? "type")
          path := fs.plain "path"
          extension := (fs.get? "extension").getD .null
          hasDb := (fs.get? "hasDb").any (·.truthy)
          metadata := (ofFields fs).metadata } := rfl
    _ = _ := by rw [hid, hname, hkind, hpath, hextension, h.get?_hasDb, hmetadata]

end

/-- What a node becomes when its fields are read back: a doubt that was overruled is gone. -/
theorem Keeps.ofFields_toFields (h : n.Keeps others note) :
    ofFields n.toFields =
      { n with metadata := others ++ if n.hasDb then [] else doubt note } := by
  obtain ⟨ahead, behind, hlayers, hnotes⟩ := h.layers
  rw [hlayers.ofFields_eq, hnotes]
  cases hdb : n.hasDb with
  | true => rfl
  | false =>
    obtain ⟨hfalsy, hdoubt⟩ := doubt_doubt note
    simp only [Bool.false_eq_true, if_false, hfalsy, hdoubt]

/-- A settled node comes back from its fields. -/
theorem Settled.ofFields_toFields (h : n.Settled) : ofFields n.toFields = n := by
  obtain ⟨others, note, hkeeps, hdoubt⟩ := h
  have hmetadata : others ++ (if n.hasDb then [] else doubt note) = n.metadata := by
    rw [hkeeps.metadata_eq]
    split_ifs with hdb
    · rw [hdoubt hdb]
    · rfl
  rw [hkeeps.ofFields_toFields, hmetadata]

/-- Wherever the notes stand, the fields are the same but for their order. -/
theorem Layers.perm {ahead behind fs : Fields} (h : n.Layers others ahead behind fs) :
    fs.Perm (others ++ (n.ownFields ++ (ahead ++ behind))) := by
  rw [h.fs_eq]
  refine List.Perm.append_left _ ?_
  rw [← List.append_assoc, ← List.append_assoc]
  exact List.perm_append_comm.append_right _

/-- Reading its fields back changes neither what a node says of its database nor its fields, but
for their order. -/
theorem Keeps.reload (h : n.Keeps others note) :
    (ofFields n.toFields).hasDb = n.hasDb ∧ (ofFields n.toFields).toFields.Perm n.toFields := by
  rw [h.ofFields_toFields]
  refine ⟨rfl, ?_⟩
  obtain ⟨ahead, behind, hlayers, hnotes⟩ := h.layers
  have hkeeps : Keeps { n with metadata := others ++ if n.hasDb then [] else doubt note } others
      (if n.hasDb then none else note) := by
    refine ⟨?_, h.foreign⟩
    split_ifs <;> rfl
  obtain ⟨ahead', behind', hlayers', hnotes'⟩ := hkeeps.layers
  have hsame : ahead' ++ behind' = ahead ++ behind := by
    rw [hnotes, hnotes']
    change (if n.hasDb then _ else _) = _
    split_ifs <;> rfl
  have hperm := hlayers'.perm
  rw [hsame] at hperm
  exact hperm.trans hlayers.perm.symm

theorem exists_of_ofJson {v : Json} {n : Node} (h : ofJson v = .ok n) :
    ∃ fs, v = .obj fs ∧ n = ofFields fs := by
  cases v with
  | obj fs => exact ⟨fs, rfl, (Except.ok.inj h).symm⟩
  | _ => cases h

end Node

/-! Edges and graphs. -/

namespace Edge

/-- An edge whose metadata holds fields of other keys only. -/
def Settled (e : Edge) : Prop :=
  Fields.Foreign ownKeys e.metadata

theorem settled_ofFields (fs : Fields) : (ofFields fs).Settled :=
  Fields.foreign_filter _ _

/-- The fields that every edge has. -/
def ownFields (e : Edge) : Fields :=
  [("source", .str e.source), ("target", .str e.target), ("type", .str e.kind.name)]

theorem ownFields_keys (e : Edge) : ∀ f ∈ e.ownFields, f.1 ∈ ownKeys := by
  simp [ownFields, ownKeys]

theorem Settled.toFields_eq {e : Edge} (h : e.Settled) :
    e.toFields = e.metadata ++ e.ownFields :=
  Fields.update_of_new (by simp [Fields.keys]) fun f hf =>
    h.notMem_keys (e.ownFields_keys f hf)

/-- A settled edge comes back from its fields. -/
theorem Settled.ofFields_toFields {e : Edge} (h : e.Settled) : ofFields e.toFields = e := by
  have hown (key : Text) (hkey : key ∈ ownKeys) :
      e.toFields.get? key = e.ownFields.get? key := by
    rw [h.toFields_eq, Fields.get?_append, h.get?_eq_none hkey, Option.none_or]
  have hsource : e.toFields.plain "source" = e.source := Fields.plain_eq (hown _ (by decide))
  have htarget : e.toFields.plain "target" = e.target := Fields.plain_eq (hown _ (by decide))
  have hkind : EdgeKind.ofJson (e.toFields.get? "type") = e.kind := by
    rw [hown _ (by decide)]
    exact e.kind.ofJson_name
  have hmetadata : e.toFields.filter (fun f => !ownKeys.contains f.1) = e.metadata := by
    have hrest (f : Text × Json) (hf : f ∈ e.ownFields) : ¬(!ownKeys.contains f.1) = true := by
      simpa using e.ownFields_keys f hf
    rw [h.toFields_eq, List.filter_append, h.filter_eq, List.filter_eq_nil_iff.mpr hrest,
      List.append_nil]
  rw [ofFields, hsource, htarget, hkind, hmetadata]

theorem exists_of_ofJson {v : Json} {e : Edge} (h : ofJson v = .ok e) :
    ∃ fs, v = .obj fs ∧ e = ofFields fs := by
  cases v with
  | obj fs => exact ⟨fs, rfl, (Except.ok.inj h).symm⟩
  | _ => cases h

end Edge

namespace Graph

structure Settled (g : Graph) : Prop where
  nodes : ∀ n ∈ g.nodes, n.Settled
  edges : ∀ e ∈ g.edges, e.Settled

theorem settled_of_ofFields {fs : Fields} {g : Graph} (h : ofFields fs = .ok g) : g.Settled := by
  unfold ofFields at h
  obtain ⟨nodeItems, -, h⟩ := bind_eq_ok_iff.mp h
  obtain ⟨nodes, hnodes, h⟩ := bind_eq_ok_iff.mp h
  obtain ⟨edgeItems, -, h⟩ := bind_eq_ok_iff.mp h
  obtain ⟨edges, hedges, h⟩ := bind_eq_ok_iff.mp h
  obtain rfl : { nodes, edges } = g := Except.ok.inj h
  constructor
  · intro n hn
    obtain ⟨v, -, hv⟩ := exists_of_mapM_eq_ok hnodes n hn
    obtain ⟨fs, -, rfl⟩ := Node.exists_of_ofJson hv
    exact Node.settled_ofFields fs
  · intro e he
    obtain ⟨v, -, hv⟩ := exists_of_mapM_eq_ok hedges e he
    obtain ⟨fs, -, rfl⟩ := Edge.exists_of_ofJson hv
    exact Edge.settled_ofFields fs

theorem settled_of_load {t : Text} {g : Graph} (h : load t = .ok g) : g.Settled := by
  unfold load at h
  split at h
  · cases h
  · cases h
  · split at h
    · cases h
    · exact settled_of_ofFields (mapError_eq_ok_iff.mp h)

/-- A graph that comes back from its fields, and from its text if that is read as the fields that
it was written from. -/
structure RoundTrips (g : Graph) : Prop where
  fields : ofFields g.toFields = .ok g
  payload : Payload.normalize (.obj g.toFields) = .ok g.toFields
  text : Json.read g.dump = .ok (.obj g.toFields) → load g.dump = .ok g

theorem Settled.ofFields_toFields {g : Graph} (h : g.Settled) : ofFields g.toFields = .ok g := by
  have hnodes : (g.nodes.map fun n : Node => Json.obj n.toFields).mapM Node.ofJson = .ok g.nodes :=
    mapM_map_eq_ok fun n hn => congrArg Except.ok (h.nodes n hn).ofFields_toFields
  have hedges : (g.edges.map fun e : Edge => Json.obj e.toFields).mapM Edge.ofJson = .ok g.edges :=
    mapM_map_eq_ok fun e he => congrArg Except.ok (h.edges e he).ofFields_toFields
  change (do
    let nodes ← (g.nodes.map fun n : Node => Json.obj n.toFields).mapM Node.ofJson
    let edges ← (g.edges.map fun e : Edge => Json.obj e.toFields).mapM Edge.ofJson
    return ({ nodes, edges } : Graph)) = _
  rw [hnodes, hedges]
  rfl

/-- The fields of a graph are already in the form that loading asks for. -/
theorem normalize_toFields (g : Graph) : Payload.normalize (.obj g.toFields) = .ok g.toFields := by
  have hnodes : (g.nodes.map fun n : Node => Json.obj n.toFields).all (·.isObject) = true := by
    simp [Json.isObject]
  have hedges : (g.edges.map fun e : Edge => Json.obj e.toFields).all (·.isObject) = true := by
    simp [Json.isObject]
  change (if !(g.nodes.map fun n : Node => Json.obj n.toFields).all (·.isObject) then _
    else if !(g.edges.map fun e : Edge => Json.obj e.toFields).all (·.isObject) then _ else _) = _
  rw [hnodes, hedges]
  rfl

theorem Settled.roundTrips {g : Graph} (h : g.Settled) : g.RoundTrips where
  fields := h.ofFields_toFields
  payload := g.normalize_toFields
  text := by
    intro hread
    unfold load
    rw [hread]
    dsimp only
    rw [g.normalize_toFields]
    exact mapError_eq_ok_iff.mpr h.ofFields_toFields

end Graph

end CodeGraph
