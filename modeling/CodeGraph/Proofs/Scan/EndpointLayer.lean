import CodeGraph.Proofs.Pattern.Pieces
import CodeGraph.Proofs.Pattern.Search
import CodeGraph.Proofs.Scan.Follows

/-! The endpoints of a scan: one for each route path of a kept file, linked once with each file that
has the route. The notes about databases say what the texts say. -/
namespace CodeGraph

/-- Somewhere in the text, a dot is followed by the name of a database method in any case. -/
def Text.CallsDatabase (content : Text) : Prop :=
  ∃ before method after : Text, content = before ++ '.' :: (method ++ after) ∧
    method.map foldLetter ∈ databaseMethods

theorem databaseCall_isSome_iff {before : Option Char} {here : Text} :
    (databaseCall before here).isSome = true ↔ ∃ method after : Text,
      here = '.' :: (method ++ after) ∧ method.map foldLetter ∈ databaseMethods := by
  rw [Option.isSome_iff_exists]
  unfold databaseCall
  constructor
  · rintro ⟨found, h⟩
    obtain ⟨r, hdot, h⟩ := Option.bind_eq_some_iff.mp h
    obtain ⟨rest, hmethod, -⟩ := Option.bind_eq_some_iff.mp h
    obtain ⟨word, hword, hdrop⟩ := List.exists_of_findSome?_eq_some hmethod
    obtain ⟨method, rfl, rfl⟩ := dropIgnoringCase?_eq_some_iff.mp hdrop
    exact ⟨method, rest, char?_eq_some_iff.mp hdot, hword⟩
  · rintro ⟨method, after, rfl, hword⟩
    have hdrop : dropIgnoringCase? (method.map foldLetter) (method ++ after) = some after :=
      dropIgnoringCase?_eq_some_iff.mpr ⟨method, rfl, rfl⟩
    have hmethod : (databaseMethods.findSome? (dropIgnoringCase? · (method ++ after))).isSome := by
      rw [List.findSome?_isSome_iff]
      exact ⟨_, hword, by rw [hdrop]; rfl⟩
    obtain ⟨rest, hrest⟩ := Option.isSome_iff_exists.mp hmethod
    refine ⟨((), rest), ?_⟩
    rw [char?_eq_some_iff.mpr rfl]
    simp only [Option.bind_eq_bind, Option.bind_some, hrest]
    rfl

theorem callsDatabase_iff (content : Text) :
    callsDatabase content = true ↔ content.CallsDatabase := by
  have hmem : callsDatabase content = true ↔ () ∈ databaseCall.everywhere none content := by
    unfold callsDatabase
    cases databaseCall.everywhere none content <;> simp
  rw [hmem, Pattern.mem_everywhere]
  constructor
  · rintro ⟨before, c, here, rest, rfl, hcall⟩
    obtain ⟨method, after, hhere, hword⟩ := databaseCall_isSome_iff.mp (by rw [hcall]; rfl)
    exact ⟨before, method, after, by rw [hhere], hword⟩
  · rintro ⟨before, method, after, rfl, hword⟩
    have hcall : (databaseCall (Pattern.charBefore none before)
        ('.' :: (method ++ after))).isSome = true :=
      databaseCall_isSome_iff.mpr ⟨method, after, rfl, hword⟩
    obtain ⟨⟨⟨⟩, rest⟩, hcall⟩ := Option.isSome_iff_exists.mp hcall
    exact ⟨before, '.', method ++ after, rest, rfl, hcall⟩

namespace SourceFile

/-- The file could be read, and its text registers a route of this path. -/
def HasRoute (f : SourceFile) (path : Text) : Prop :=
  ∃ content, f.reading = .text content ∧ ∃ route ∈ Route.ofContent content, route.path = path

/-- The file could be read, and its text calls a database. -/
def CallsDatabase (f : SourceFile) : Prop :=
  ∃ content, f.reading = .text content ∧ content.CallsDatabase

theorem mem_routePaths_iff {f : SourceFile} {path : Text} :
    path ∈ f.routePaths ↔ f.HasRoute path := by
  unfold routePaths HasRoute
  rw [List.mem_map]
  rcases f.content_cases with ⟨content, hreading, hcontent⟩ | ⟨hreading, hcontent⟩
  · simp [hreading, hcontent]
  · have hempty : Route.ofContent [] = [] := rfl
    simp [hreading, hcontent, hempty]

theorem callsDatabase_content_iff {f : SourceFile} :
    callsDatabase f.content = true ↔ f.CallsDatabase := by
  unfold CallsDatabase
  rcases f.content_cases with ⟨content, hreading, hcontent⟩ | ⟨hreading, hcontent⟩
  · simp [hreading, hcontent, callsDatabase_iff]
  · have hempty : callsDatabase [] = false := rfl
    simp [hreading, hcontent, hempty]

end SourceFile

namespace Scan

theorem mem_handlerLinks {f : SourceFile} {path name : Text} :
    handlerLink path name ∈ (addFirsts id [] f.routePaths).map (handlerLink f.path) ↔
      f.path = path ∧ name ∈ f.routePaths := by
  rw [List.mem_map]
  constructor
  · rintro ⟨name', hname', heq⟩
    have hname : name' = name := endpointNode_injective (congrArg Link.target heq)
    rw [mem_addFirsts] at hname'
    exact ⟨fileNode_injective (congrArg Link.source heq), by simpa [hname] using hname'⟩
  · rintro ⟨rfl, hname⟩
    exact ⟨name, (mem_addFirsts _ _ _).mpr (Or.inr hname), rfl⟩

theorem nodup_handlerLinks (f : SourceFile) :
    ((addFirsts id [] f.routePaths).map (handlerLink f.path)).Nodup :=
  (nodup_addFirsts List.nodup_nil _).map fun _ _ h =>
    endpointNode_injective (congrArg Link.target h)

/-- The links from a path to an endpoint are as many as the files of that path with the route. -/
theorem count_links (paths names : List Text) (files : List SourceFile) (path name : Text) :
    (links paths names files).count (handlerLink path name) =
      files.countP fun f => f.path = path && f.routePaths.contains name := by
  have hfiles : (files.flatMap fun f =>
      (addFirsts id [] f.routePaths).map (handlerLink f.path)).count (handlerLink path name) =
      files.countP fun f => f.path = path && f.routePaths.contains name := by
    induction files with
    | nil => rfl
    | cons f files ih =>
      rw [List.flatMap_cons, List.count_append, ih, (nodup_handlerLinks f).count, List.countP_cons,
        Nat.add_comm]
      simp only [mem_handlerLinks, Bool.and_eq_true, decide_eq_true_iff, List.contains_iff_mem]
  rw [← hfiles, ← filter_handlers_links paths names]
  exact (List.count_filter rfl).symm

end Scan

namespace Graph

/-- How many edges of this kind lead from one node to another. -/
def countBetween (g : Graph) (source target : Node) (kind : EdgeKind) : Nat :=
  g.edges.countP fun e => e.source = source.id && e.target = target.id && e.kind = kind

/-- Endpoints, the edges to them and the notes about databases are those of the files' texts. -/
structure EndpointLayer (g : Graph) (files : List SourceFile) : Prop where
  file : ∀ f ∈ files, ∃ n, g.IsFileNode f.path n
  known : ∀ n ∈ g.nodes, n.kind ≠ .endpoint → ∃ f ∈ files, g.IsFileNode f.path n
  handled : ∀ f ∈ files, ∀ s t, g.IsFileNode f.path s → t ∈ g.nodes → t.kind = .endpoint →
    f.HasRoute t.name → g.countBetween s t .endpointHandler = 1
  unhandled : ∀ f ∈ files, ∀ s t, g.IsFileNode f.path s → t ∈ g.nodes → t.kind = .endpoint →
    ¬ f.HasRoute t.name → g.countBetween s t .endpointHandler = 0
  found : ∀ f ∈ files, ∀ path, f.HasRoute path →
    g.nodes.countP (fun n => n.kind = .endpoint && n.name = path) = 1
  named : ∀ n ∈ g.nodes, n.kind = .endpoint → ∃ f ∈ files, f.HasRoute n.name
  noted : ∀ f ∈ files, ∀ s, g.IsFileNode f.path s → (s.hasDb = true ↔ f.CallsDatabase)
  unnoted : ∀ n ∈ g.nodes, n.kind = .endpoint → n.hasDb = false

private theorem countP_forall₂ {α β : Type} {R : α → β → Prop} {p : α → Bool} {q : β → Bool}
    {as : List α} {bs : List β} (h : List.Forall₂ R as bs)
    (hpq : ∀ a b, R a b → (p a = true ↔ q b = true)) : as.countP p = bs.countP q := by
  induction h with
  | nil => rfl
  | cons hab _ ih =>
    rw [List.countP_cons, List.countP_cons, ih]
    simp only [hpq _ _ hab]

namespace Follows

variable {g : Graph} {files : List SourceFile} (h : g.Follows files)
  (hpaths : (files.map (·.path)).Nodup)
include h hpaths

/-- An identifier of the graph is that of a node if both stand for the same bare node. -/
theorem id_eq_iff {id : Text} {b : Node} (hid : (id, b) ∈ g.roster) {n : Node} (hn : n ∈ g.nodes) :
    id = n.id ↔ b = n.bare := by
  obtain ⟨m, hm, rfl, rfl⟩ := mem_roster.mp hid
  constructor
  · intro heq
    rw [h.eq_of_id_eq hm hn heq]
  · intro heq
    rw [h.eq_of_bare_eq hpaths hm hn heq]

theorem countBetween_eq {s t : Node} (hs : s ∈ g.nodes) (ht : t ∈ g.nodes) (kind : EdgeKind) :
    g.countBetween s t kind = (Scan.links (files.map (·.path)) [] files).count
      { source := s.bare, target := t.bare, kind } := by
  unfold countBetween
  rw [List.count_eq_countP]
  refine (countP_forall₂ h.edges fun l e hl => ?_).symm
  obtain ⟨source, target, kind'⟩ := l
  rw [beq_iff_eq, Scan.Link.mk.injEq, Bool.and_eq_true, Bool.and_eq_true, decide_eq_true_iff,
    decide_eq_true_iff, decide_eq_true_iff, h.id_eq_iff hpaths hl.source hs,
    h.id_eq_iff hpaths hl.target ht, hl.kind, and_assoc]

theorem countBetween_endpoint {f : SourceFile} (hf : f ∈ files) {s t : Node}
    (hs : g.IsFileNode f.path s) (ht : t ∈ g.nodes) (hkind : t.kind = .endpoint) :
    g.countBetween s t .endpointHandler = if f.routePaths.contains t.name then 1 else 0 := by
  rw [h.countBetween_eq hpaths hs.mem ht, h.bare_of_isFileNode hs,
    (h.bare_eq_endpointNode ht hkind).1]
  exact (Scan.count_links _ _ _ _ _).trans
    (countP_key_eq _ hpaths hf fun f' => f'.routePaths.contains t.name)

theorem endpointLayer : g.EndpointLayer files where
  file := fun f hf => h.exists_isFileNode hpaths (List.mem_map_of_mem hf)
  known := by
    intro n hn hkind
    obtain ⟨hbare, hpath⟩ := h.bare_eq_fileNode hn hkind
    obtain ⟨f, hf, heq⟩ := List.mem_map.mp hpath
    exact ⟨f, hf, h.isFileNode hpaths hn (by rw [hbare, heq])⟩
  handled := by
    intro f hf s t hs ht hkind hroute
    rw [h.countBetween_endpoint hpaths hf hs ht hkind, if_pos]
    exact List.contains_iff_mem.mpr (SourceFile.mem_routePaths_iff.mpr hroute)
  unhandled := by
    intro f hf s t hs ht hkind hroute
    rw [h.countBetween_endpoint hpaths hf hs ht hkind, if_neg]
    exact fun hmem => hroute (SourceFile.mem_routePaths_iff.mp (List.contains_iff_mem.mp hmem))
  found := by
    intro f hf path hroute
    have hbare : g.nodes.countP (fun n => n.kind = .endpoint && n.name = path) =
        (g.nodes.map Node.bare).countP (fun n => n.kind = .endpoint && n.name = path) := by
      rw [List.countP_map]
      rfl
    have hfiles : (files.map fun f => Scan.fileNode f.path).countP
        (fun n => n.kind = .endpoint && n.name = path) = 0 := by
      rw [List.countP_map, List.countP_eq_zero]
      simp
    have hnames : ((Scan.routeNames files).map Scan.endpointNode).countP
        (fun n => n.kind = .endpoint && n.name = path) = (Scan.routeNames files).count path := by
      rw [List.countP_map, List.count_eq_countP]
      apply List.countP_congr
      intro name _
      simp only [Function.comp_apply, Scan.endpointNode_kind, Scan.endpointNode_name, decide_true,
        Bool.true_and, beq_iff_eq]
      exact decide_eq_true_iff
    have hmem : path ∈ Scan.routeNames files :=
      (Scan.mem_routeNames files path).mpr ⟨f, hf, SourceFile.mem_routePaths_iff.mpr hroute⟩
    rw [hbare, h.nodes, List.countP_append, hfiles, hnames, Nat.zero_add,
      (Scan.nodup_routeNames files).count, if_pos hmem]
  named := by
    intro n hn hkind
    obtain ⟨f, hf, hroute⟩ := (Scan.mem_routeNames _ _).mp (h.bare_eq_endpointNode hn hkind).2
    exact ⟨f, hf, SourceFile.mem_routePaths_iff.mp hroute⟩
  noted := by
    intro f hf s hs
    rw [h.hasDb_iff hpaths hf hs, SourceFile.callsDatabase_content_iff]
  unnoted := by
    intro n hn hkind
    rw [← Bool.not_eq_true, h.flagged n hn]
    rintro ⟨f, -, -, hbare⟩
    rw [(h.bare_eq_endpointNode hn hkind).1] at hbare
    exact Scan.fileNode_ne_endpointNode _ _ hbare.symm

end Follows

end Graph

namespace Scan

/-- In the graph of every scan that nothing ends early, the endpoints are those of the texts of the
kept files. -/
theorem scan_endpointLayer {options : ScanOptions} (ho : options.Undisturbed)
    {files : List SourceFile} (hread : ∀ f ∈ files, ∀ message, f.reading ≠ .crash message) :
    ∃ result, scan options files = .ok result ∧
      result.graph.EndpointLayer (keptFiles options.extensions files) := by
  obtain ⟨result, hscan, hfollows⟩ := scan_follows ho hread
  exact ⟨result, hscan, hfollows.endpointLayer (nodup_keptFiles _ _)⟩

theorem scan_endpointLayer_smallProject :
    ({} : ScanOptions).Undisturbed ∧
    (∀ f ∈ smallProject, ∀ message, f.reading ≠ .crash message) ∧
    ∃ result, scan {} smallProject = .ok result ∧
      result.graph.EndpointLayer (keptFiles defaultExtensions smallProject) :=
  ⟨ScanOptions.undisturbed_default, smallProject_reads,
    scan_endpointLayer ScanOptions.undisturbed_default smallProject_reads⟩

end Scan
end CodeGraph
