import CodeGraph.Proofs.Graph.Legible
import CodeGraph.Proofs.Scan.Analysis
import CodeGraph.Proofs.Scan.Run

/-! Graphs of scans and loaded graphs can be stored: each comes back as it was. A scan gives no
metadata, whether it goes to its end undisturbed or not. -/
namespace CodeGraph

namespace Progress

/-- What was found are files, endpoints and edges without metadata. -/
structure Unadorned (p : Progress) : Prop where
  distinct : p.registry.Distinct
  bare : ∃ paths names, p.registry.bare = Scan.catalogue paths names
  edges : ∀ e ∈ p.edges, e.metadata = []

theorem metadata_importEdge? {r : Registry} {source : Node} {s : Specifier} {e : Edge}
    (h : importEdge? r source s = some e) : e.metadata = [] := by
  obtain ⟨target, -, rfl⟩ := Option.map_eq_some_iff.mp h
  rfl

theorem metadata_handlerEdge? {r : Registry} {source : Node} {name : Text} {e : Edge}
    (h : handlerEdge? r source name = some e) : e.metadata = [] := by
  obtain ⟨target, -, rfl⟩ := Option.map_eq_some_iff.mp h
  rfl

theorem Unadorned.analyze {p : Progress} (h : p.Unadorned) (content : Text)
    (language : Option Language) (source : Node) :
    (p.analyze content language source).Unadorned := by
  have hdone := analyzed p source h.distinct content language
  obtain ⟨paths, names, hbare⟩ := h.bare
  refine ⟨hdone.distinct, ⟨paths, ?_⟩, ?_⟩
  · rw [hdone.bare, hbare, Registry.foldl_withEndpoint_catalogue]
    exact ⟨_, rfl⟩
  · intro e he
    rw [hdone.edges, List.mem_append, List.mem_append] at he
    rcases he with (he | he) | he
    · exact h.edges e he
    · obtain ⟨s, -, hs⟩ := List.mem_filterMap.mp he
      exact metadata_importEdge? hs
    · obtain ⟨name, -, hname⟩ := List.mem_filterMap.mp he
      exact metadata_handlerEdge? hname

theorem Unadorned.node_cases {p : Progress} (h : p.Unadorned) {n : Node}
    (hn : n ∈ p.registry.nodes) :
    (∃ path, n.bare = Scan.fileNode path) ∨ ∃ name, n.bare = Scan.endpointNode name := by
  obtain ⟨paths, names, hbare⟩ := h.bare
  have hmem : n.bare ∈ p.registry.bare.nodes := by
    rw [Registry.nodes_bare]
    exact List.mem_map_of_mem hn
  rw [hbare, Scan.nodes_catalogue, List.mem_append, List.mem_map, List.mem_map] at hmem
  rcases hmem with ⟨path, -, hpath⟩ | ⟨name, -, hname⟩
  · exact Or.inl ⟨path, hpath.symm⟩
  · exact Or.inr ⟨name, hname.symm⟩

theorem Unadorned.node_eq {p : Progress} (h : p.Unadorned) {n : Node} (hn : n ∈ p.registry.nodes) :
    n.metadata = [] ∧ n.extension.Legible := by
  change n.bare.metadata = [] ∧ n.bare.extension.Legible
  rcases h.node_cases hn with ⟨path, hpath⟩ | ⟨name, hname⟩
  · rw [hpath]
    exact ⟨rfl, .str _⟩
  · rw [hname]
    exact ⟨rfl, .null⟩

end Progress

namespace Scan

theorem Registered.unadorned {files : List SourceFile} {state : Progress × List Kept}
    (h : Registered files state) : state.1.Unadorned where
  distinct := h.distinct
  bare := ⟨_, [], h.bare⟩
  edges := by simp [h.edges]

theorem unadorned_analyzeAll {isCancelled : Nat → Bool} {texts : List (Nat × Text)}
    {kept : List Kept} {question number : Nat} {p done : Progress} (h : p.Unadorned)
    (hdone : analyzeAll isCancelled texts question number kept p = .ok done) : done.Unadorned := by
  induction kept generalizing question number p with
  | nil =>
    obtain rfl : p = done := Except.ok.inj hdone
    exact h
  | cons k kept ih =>
    unfold analyzeAll at hdone
    split_ifs at hdone
    dsimp only at hdone
    split at hdone
    · exact ih h hdone
    · exact ih h hdone
    · exact ih (h.analyze _ _ _) hdone

/-- What a scan gives is unadorned, even if it is asked to give up in between. -/
theorem exists_unadorned {options : ScanOptions} {files : List SourceFile} {result : ScanResult}
    (h : scan options files = .ok result) :
    ∃ p : Progress, p.Unadorned ∧ result.graph = { nodes := p.registry.nodes, edges := p.edges } := by
  obtain ⟨harvest, p, hcompleted⟩ := scan_eq_ok_iff.mp h
  have hregistered := (registered options.digits
    (acceptedFiles options.extensions files)).unadorned
  have hstart : (startOf options files harvest).Unadorned :=
    ⟨hregistered.distinct, hregistered.bare, hregistered.edges⟩
  exact ⟨p, unadorned_analyzeAll hstart hcompleted.analyzed, by rw [hcompleted.result_eq]; rfl⟩

variable {options : ScanOptions} {files : List SourceFile} {result : ScanResult}

theorem settled_graph (h : scan options files = .ok result) : result.graph.Settled := by
  obtain ⟨p, hp, hgraph⟩ := exists_unadorned h
  rw [hgraph]
  constructor
  · exact fun n hn => Node.settled_of_metadata_eq_nil (hp.node_eq hn).1
  · intro e he
    rw [Edge.Settled, hp.edges e he]
    exact Fields.foreign_nil _

theorem legible_graph (h : scan options files = .ok result) :
    (Json.obj result.graph.toFields).Legible := by
  obtain ⟨p, hp, hgraph⟩ := exists_unadorned h
  rw [hgraph]
  refine Graph.legible_toFields (fun n hn => ?_) fun e he => ?_
  · obtain ⟨hmetadata, hextension⟩ := hp.node_eq hn
    have hkeeps : n.Keeps [] none := ⟨hmetadata, Fields.foreign_nil _⟩
    exact hkeeps.legible_toFields Json.legible_nil nofun hextension
  · have hmetadata : e.metadata = [] := hp.edges e he
    have hsettled : e.Settled := by
      rw [Edge.Settled, hmetadata]
      exact Fields.foreign_nil _
    exact hsettled.legible_toFields (hmetadata ▸ Json.legible_nil)

end Scan

namespace Graph

/-- The graph of a scan and every graph that was loaded come back from their fields and their text
as they were. For the text nothing need be assumed unless there are doubles in it. A node that was
read and whose note on the database was set anew keeps that note and its fields. -/
theorem reload_eq :
    (∀ {options : ScanOptions} {files : List SourceFile} {result : ScanResult},
      scan options files = .ok result →
        result.graph.RoundTrips ∧ load result.graph.dump = .ok result.graph) ∧
    (∀ {t : Text} {g : Graph}, load t = .ok g →
      g.RoundTrips ∧ ((∃ v : Json, v.Legible ∧ Json.read t = .ok v) → load g.dump = .ok g)) ∧
    ∀ (fs : Fields) (hasDb : Bool), let n : Node := { Node.ofFields fs with hasDb }
      (Node.ofFields n.toFields).hasDb = hasDb ∧
        (Node.ofFields n.toFields).toFields.Perm n.toFields := by
  refine ⟨fun hscan => ?_, fun hload => ?_, fun fs hasDb => ?_⟩
  · have htrips := (Scan.settled_graph hscan).roundTrips
    exact ⟨htrips, htrips.text (Json.read_indentedText (Scan.legible_graph hscan))⟩
  · have htrips := (settled_of_load hload).roundTrips
    refine ⟨htrips, fun ⟨v, hv, hread⟩ => htrips.text ?_⟩
    exact Json.read_indentedText (legible_of_load hread hv hload)
  · exact (Node.keeps_ofFields fs hasDb).reload

/-- A payload whose only node has fields of odd types, a false note on its database and a kind that
there is not. -/
def oddPayload : Json :=
  .obj [("links", .arr []),
    ("nodes", .arr [.obj [("hasDb", .int 0), ("id", .int 7), ("extension", .null),
      ("type", .str "robot"), ("comment", .str "caf\u00e9")]])]

def oddGraph : Graph :=
  { nodes := [{ id := "7", name := [], kind := .file, path := []
                metadata := [("comment", .str "caf\u00e9"), ("hasDb", .int 0)] }] }

theorem legible_oddPayload : oddPayload.Legible := by
  refine .obj (by decide) ?_
  simp only [List.forall_mem_cons]
  refine ⟨.arr (List.forall_mem_nil _), .arr ?_, List.forall_mem_nil _⟩
  refine List.forall_mem_singleton.mpr (.obj (by decide) ?_)
  simp only [List.forall_mem_cons]
  exact ⟨.int (by decide), .int (by decide), .null, .str _, .str _, List.forall_mem_nil _⟩

theorem read_oddPayload : Json.read oddPayload.indentedText = .ok oddPayload :=
  Json.read_indentedText legible_oddPayload

theorem load_oddPayload : load oddPayload.indentedText = .ok oddGraph := by
  unfold load
  rw [read_oddPayload]
  decide

theorem reload_eq_oddGraph :
    (∃ result, scan {} Scan.smallProject = .ok result ∧
      load result.graph.dump = .ok result.graph) ∧
    load oddPayload.indentedText = .ok oddGraph ∧ ofFields oddGraph.toFields = .ok oddGraph ∧
      load oddGraph.dump = .ok oddGraph := by
  obtain ⟨hscans, hloads, -⟩ := reload_eq
  obtain ⟨harvest, -, -, hscan⟩ :=
    Scan.scan_visits ScanOptions.undisturbed_default Scan.smallProject_reads
  obtain ⟨htrips, htext⟩ := hloads load_oddPayload
  exact ⟨⟨_, hscan, (hscans hscan).2⟩, load_oddPayload, htrips.fields,
    htext ⟨oddPayload, legible_oddPayload, read_oddPayload⟩⟩

end Graph
end CodeGraph
