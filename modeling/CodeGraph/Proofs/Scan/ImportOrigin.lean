import CodeGraph.Proofs.Scan.EndpointLayer

/-! Where the import edges of a scan come from: each is asked for by a specifier of a file that was
read, and leads to what was known at the turn of that file. -/
namespace CodeGraph

namespace Specifier

theorem language_of_mem {content : Text} {language : Option Language} {s : Specifier}
    (h : s ∈ ofContent content language) : language = some s.language := by
  cases language with
  | none => exact absurd h List.not_mem_nil
  | some l =>
    cases l with
    | javascript =>
      obtain ⟨path, -, rfl⟩ := List.mem_map.mp h
      rfl
    | python =>
      obtain ⟨path, -, rfl⟩ := List.mem_map.mp h
      rfl

end Specifier

namespace SourceFile

/-- The file could be read, its extension tells the language of the specifier, and the specifier
stands in its text. -/
def Asks (f : SourceFile) (s : Specifier) : Prop :=
  ∃ content, f.reading = .text content ∧
    Language.ofExtension? (Path.extension f.path) = some s.language ∧
    s ∈ Specifier.ofContent content (some s.language)

theorem asks_of_mem_specifiers {f : SourceFile} {s : Specifier} (h : s ∈ f.specifiers) :
    f.Asks s := by
  have hlanguage := Specifier.language_of_mem h
  unfold specifiers at h
  rw [hlanguage] at h
  rcases f.content_cases with ⟨content, hreading, hcontent⟩ | ⟨-, hcontent⟩
  · exact ⟨content, hreading, hlanguage, hcontent ▸ h⟩
  · rw [hcontent, Specifier.ofContent_nil] at h
    exact absurd h List.not_mem_nil

end SourceFile

namespace Scan

/-- What a candidate path leads to when the files of `paths` are known and `earlier` had their turn.
It leads to an endpoint only if no file has this path or, where the endpoint is not found under
exactly this path, one that ends with it. -/
structure LeadsTo (paths : List Text) (earlier : List SourceFile) (candidate : Text) (n : Node) :
    Prop where
  ends : n.path = candidate ∨ Registry.withoutDot candidate <:+ n.path
  route : n.kind = .endpoint → ∃ f ∈ earlier, f.HasRoute n.name
  free : n.kind = .endpoint → n.path = candidate ∧ candidate ∉ paths ∨
    ∀ path ∈ paths, ¬ candidate <:+ path

theorem leadsTo_of_findByPath {paths : List Text} {earlier : List SourceFile} {candidate : Text}
    {n : Node} (h : (catalogue paths (routeNames earlier)).findByPath candidate = some n) :
    LeadsTo paths earlier candidate n := by
  rw [Registry.findByPath_eq, keys_catalogue] at h
  obtain ⟨key, hkey, hlookup⟩ := Option.bind_eq_some_iff.mp h
  have hfound := Registry.findKey_append hkey
  rw [lookup_catalogue] at hlookup
  split_ifs at hlookup with hfile hname
  · obtain rfl := Option.some.inj hlookup
    refine ⟨hfound.imp_right And.left, ?_, ?_⟩
    · exact fun hkind => absurd hkind (fileNode_kind_ne key)
    · exact fun hkind => absurd hkind (fileNode_kind_ne key)
  · obtain rfl := Option.some.inj hlookup
    refine ⟨hfound.imp_right And.left, fun _ => ?_, fun _ => ?_⟩
    · obtain ⟨f, hf, hroute⟩ := (mem_routeNames earlier key).mp hname
      exact ⟨f, hf, SourceFile.mem_routePaths_iff.mp hroute⟩
    · rcases hfound with rfl | ⟨-, hmem | hnone⟩
      · exact Or.inl ⟨rfl, hfile⟩
      · exact absurd hmem hfile
      · exact Or.inr fun path hpath hend =>
          hnone path hpath ((Registry.withoutDot_suffix candidate).trans hend)

/-- Which file nodes and endpoints there are does not depend on their identifiers. -/
theorem LeadsTo.of_bare {paths : List Text} {earlier : List SourceFile} {candidate : Text} {n : Node}
    (h : LeadsTo paths earlier candidate n.bare) : LeadsTo paths earlier candidate n :=
  ⟨h.ends, h.route, h.free⟩

/-- A specifier of the file `f`, whose turn came behind the files `earlier`, asks for this edge. -/
structure AskedBy (options : ScanOptions) (files : List SourceFile) (g : Graph)
    (earlier : List SourceFile) (f : SourceFile) (s : Specifier) (e : Edge) : Prop where
  asks : f.Asks s
  source : ∃ m, g.IsFileNode f.path m ∧ e.source = m.id
  target : ∃ p n, before options files earlier.length = .ok p ∧ n ∈ g.nodes ∧ e.target = n.id ∧
    LeadsTo ((keptFiles options.extensions files).map (·.path)) earlier
      (p.registry.candidate f.path s) n

section

variable {options : ScanOptions} (ho : options.Undisturbed) {files : List SourceFile}
  (hread : ∀ f ∈ files, ∀ message, f.reading ≠ .crash message)
  {g : Graph} (hfollows : g.Follows (keptFiles options.extensions files))
include ho hread hfollows

theorem askedBy_of_link {earlier later : List SourceFile} {f : SourceFile}
    (hkept : keptFiles options.extensions files = earlier ++ f :: later) {s : Specifier}
    (hs : s ∈ f.specifiers) {l : Link} (hl : importLink?
      (catalogue ((keptFiles options.extensions files).map (·.path)) (routeNames earlier)) f.path s =
        some l) {e : Edge} (hjoins : l.Joins g.roster e) :
    AskedBy options files g earlier f s e := by
  obtain ⟨target, hresolve, -, rfl⟩ := importLink?_eq_some_iff.mp hl
  obtain ⟨m, hm, hmid, hmbare⟩ := Graph.mem_roster.mp hjoins.source
  obtain ⟨n, hn, hnid, hnbare⟩ := Graph.mem_roster.mp hjoins.target
  obtain ⟨p, hp, houtlined⟩ := before_turn ho hread hkept
  have hcandidate : p.registry.candidate f.path s = (catalogue
      ((keptFiles options.extensions files).map (·.path)) (routeNames earlier)).candidate f.path s := by
    rw [← houtlined.bare]
    exact Registry.candidate_congr (fun path => by rw [Registry.keys_bare]) f.path s
  have hleads := leadsTo_of_findByPath hresolve
  have htarget : n.bare = target := hnbare
  rw [← hcandidate, ← htarget] at hleads
  have hsource := hfollows.isFileNode (nodup_keptFiles _ _) hm hmbare
  exact ⟨SourceFile.asks_of_mem_specifiers hs, ⟨m, hsource, hmid.symm⟩,
    p, n, hp, hn, hnid.symm, hleads.of_bare⟩

theorem exists_askedBy {e : Edge} (he : e ∈ g.edges) (hkind : e.kind = .imports) :
    ∃ earlier f later s, keptFiles options.extensions files = earlier ++ f :: later ∧
      AskedBy options files g earlier f s e := by
  obtain ⟨l, hl, hjoins⟩ := hfollows.link_of_edge he
  obtain ⟨earlier, f, later, hkept, hfile⟩ := mem_links.mp hl
  rcases mem_fileLinks.mp hfile with ⟨s, hs, himport⟩ | ⟨name, -, rfl⟩
  · exact ⟨earlier, f, later, s, hkept, askedBy_of_link ho hread hfollows hkept hs himport hjoins⟩
  · have hhandler : e.kind = .endpointHandler := hjoins.kind
    rw [hkind] at hhandler
    exact absurd hhandler (by decide)

end

/-- Every import edge of a scan that nothing ends early is asked for by a specifier of a kept file,
and leads to a file or to an endpoint of a file before that one in the input. -/
theorem scan_import_askedBy {options : ScanOptions} (ho : options.Undisturbed)
    {files : List SourceFile} (hread : ∀ f ∈ files, ∀ message, f.reading ≠ .crash message) :
    ∃ result, scan options files = .ok result ∧
      (keptFiles options.extensions files).Sublist files ∧
      ∀ e ∈ result.graph.edges, e.kind = .imports → ∃ earlier f later s,
        keptFiles options.extensions files = earlier ++ f :: later ∧
          AskedBy options files result.graph earlier f s e := by
  obtain ⟨result, hscan, hfollows⟩ := scan_follows ho hread
  exact ⟨result, hscan, keptFiles_sublist _ _,
    fun e he hkind => exists_askedBy ho hread hfollows he hkind⟩

/-- A file whose import leads to the endpoint of a route in the file before it. -/
def routedProject : List SourceFile :=
  [⟨"a.js", .text "app.get('/api/users', list)"⟩,
    ⟨"b.js", .text "const users = require('./api/users')"⟩]

theorem scan_import_askedBy_routedProject :
    ({} : ScanOptions).Undisturbed ∧
    (∀ f ∈ routedProject, ∀ message, f.reading ≠ .crash message) ∧
    ∃ result, scan {} routedProject = .ok result ∧
      (keptFiles defaultExtensions routedProject).Sublist routedProject ∧
      (∃ e ∈ result.graph.edges, e.kind = .imports) ∧
      ∀ e ∈ result.graph.edges, e.kind = .imports → ∃ earlier f later s,
        keptFiles defaultExtensions routedProject = earlier ++ f :: later ∧
          AskedBy {} routedProject result.graph earlier f s e := by
  have hread : ∀ f ∈ routedProject, ∀ message, f.reading ≠ .crash message := by
    simp [routedProject]
  obtain ⟨result, hscan, hsublist, hasked⟩ :=
    scan_import_askedBy ScanOptions.undisturbed_default hread
  have hkinds : (scan {} routedProject).map (·.graph.edges.map (·.kind)) =
      .ok [.endpointHandler, .imports] := by decide
  rw [hscan] at hkinds
  have hedges : result.graph.edges.map (·.kind) = [.endpointHandler, .imports] :=
    Except.ok.inj hkinds
  have himport : EdgeKind.imports ∈ result.graph.edges.map (·.kind) := by
    rw [hedges]
    decide
  obtain ⟨e, he, hkind⟩ := List.mem_map.mp himport
  exact ⟨ScanOptions.undisturbed_default, hread, result, hscan, hsublist, ⟨e, he, hkind⟩, hasked⟩

end Scan
end CodeGraph
