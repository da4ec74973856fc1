import CodeGraph.Proofs.Scan.Finished
import CodeGraph.Proofs.Scan.ImportOrigin

/-! Where imports lead along the segments of paths: to a path that is the candidate or ends with it
right behind a slash. Only a guess can cut a name in two: where nothing has the candidate as its
path, the first path with the same last characters is taken. -/
namespace CodeGraph

namespace Path

/-- A path without a leading `./` and without a slash in front. -/
def core (path : Text) : Text :=
  (Text.dropPrefix? "/" (Registry.withoutDot path)).getD (Registry.withoutDot path)

/-- The path is the candidate or ends with it right behind a slash, where a leading `./` or slash of
the candidate does not count. -/
def IsAligned (candidate path : Text) : Prop :=
  path = candidate ∨ path = core candidate ∨ '/' :: core candidate <:+ path

instance (candidate path : Text) : Decidable (IsAligned candidate path) :=
  inferInstanceAs (Decidable (_ ∨ _ ∨ _))

/-- The path is only guessed: no known path is the candidate, and this is the first one with the
same last characters, which are cut out of a longer name. -/
structure IsGuess (known : List Text) (candidate path : Text) : Prop where
  unknown : candidate ∉ known
  unrooted : (Registry.withoutDot candidate).head? ≠ some '/'
  cut : ∃ c, c ≠ '/' ∧ c :: Registry.withoutDot candidate <:+ path
  first : ∃ before after, known = before ++ path :: after ∧
    ∀ k ∈ before, ¬ Registry.withoutDot candidate <:+ k

theorem core_of_head? {path : Text} (h : (Registry.withoutDot path).head? ≠ some '/') :
    core path = Registry.withoutDot path := by
  unfold core
  cases hpath : Registry.withoutDot path with
  | nil => rfl
  | cons c rest =>
    rw [hpath] at h
    have hc : '/' ≠ c := by
      rintro rfl
      exact h rfl
    have hnone : Text.dropPrefix? "/" (c :: rest) = none := if_neg hc
    rw [hnone, Option.getD_none]

theorem withoutDot_eq_of_head? {path : Text} (h : (Registry.withoutDot path).head? = some '/') :
    Registry.withoutDot path = '/' :: core path := by
  unfold core
  cases hpath : Registry.withoutDot path with
  | nil =>
    rw [hpath] at h
    cases h
  | cons c rest =>
    rw [hpath] at h
    obtain rfl : c = '/' := Option.some.inj h
    rfl

/-- Behind a path that ends with the candidate stands a slash, or a name is cut in two. -/
theorem isAligned_or_cut {candidate path : Text} (h : Registry.withoutDot candidate <:+ path) :
    IsAligned candidate path ∨ (Registry.withoutDot candidate).head? ≠ some '/' ∧
      ∃ c, c ≠ '/' ∧ c :: Registry.withoutDot candidate <:+ path := by
  by_cases hroot : (Registry.withoutDot candidate).head? = some '/'
  · rw [withoutDot_eq_of_head? hroot] at h
    exact Or.inl (Or.inr (Or.inr h))
  · obtain ⟨front, rfl⟩ := h
    have hcore := core_of_head? hroot
    rcases List.eq_nil_or_concat front with rfl | ⟨front, c, rfl⟩
    · exact Or.inl (Or.inr (Or.inl hcore.symm))
    · have hend : c :: Registry.withoutDot candidate <:+
          front.concat c ++ Registry.withoutDot candidate := ⟨front, by simp⟩
      by_cases hc : c = '/'
      · rw [hc] at hend ⊢
        rw [← hcore] at hend ⊢
        exact Or.inl (Or.inr (Or.inr hend))
      · exact Or.inr ⟨hroot, c, hc, hend⟩

end Path

namespace Registry

theorem isAligned_or_isGuess {keys : List Text} {path key : Text}
    (h : findKey keys path = some key) : Path.IsAligned path key ∨ Path.IsGuess keys path key := by
  rcases findKey_eq_some h with rfl | ⟨hnew, hend, hfirst⟩
  · exact Or.inl (Or.inl rfl)
  · exact (Path.isAligned_or_cut hend).imp_right fun ⟨hroot, hcut⟩ => ⟨hnew, hroot, hcut, hfirst⟩

end Registry

namespace Scan

/-- A specifier of the file `f`, whose turn came behind the files `earlier`, asks for this edge. It
stands for the path `candidate` and was looked for among the paths `known` at that turn, and the
edge leads to the node of `path`. -/
structure FoundFor (options : ScanOptions) (files : List SourceFile) (g : Graph)
    (earlier : List SourceFile) (f : SourceFile) (s : Specifier) (e : Edge) (known : List Text)
    (candidate path : Text) : Prop where
  asks : f.Asks s
  source : ∃ m, g.IsFileNode f.path m ∧ e.source = m.id
  turn : ∃ p, before options files earlier.length = .ok p ∧ p.registry.keys = known ∧
    p.registry.candidate f.path s = candidate
  target : ∃ n ∈ g.nodes, e.target = n.id ∧ n.path = path

section

variable {paths names : List Text}

theorem findKey_of_findByPath_catalogue {path : Text} {n : Node}
    (h : (catalogue paths names).findByPath path = some n) :
    Registry.findKey (catalogue paths names).keys path = some n.path := by
  rw [Registry.findByPath_eq] at h
  obtain ⟨key, hkey, hlookup⟩ := Option.bind_eq_some_iff.mp h
  rw [lookup_catalogue] at hlookup
  split_ifs at hlookup
  · rw [hkey, ← Option.some.inj hlookup, fileNode_path]
  · rw [hkey, ← Option.some.inj hlookup, endpointNode_path]

end

section

variable {options : ScanOptions} (hcompletes : ∀ k, (options.completion k).Perm (List.range k))
  {files : List SourceFile} {result : ScanResult} (hscan : scan options files = .ok result)
include hcompletes hscan

theorem exists_foundFor {e : Edge} (he : e ∈ result.graph.edges) (hkind : e.kind = .imports) :
    ∃ earlier f later s known candidate path,
      keptFiles options.extensions files = earlier ++ f :: later ∧
      FoundFor options files result.graph earlier f s e known candidate path ∧
      Registry.findKey known candidate = some path := by
  have hfollows := follows_of_ok hcompletes hscan
  obtain ⟨l, hl, hjoins⟩ := hfollows.link_of_edge he
  obtain ⟨earlier, f, later, hkept, hfile⟩ := mem_links.mp hl
  rcases mem_fileLinks.mp hfile with ⟨s, hs, himport⟩ | ⟨name, -, rfl⟩
  · obtain ⟨target, hresolve, -, rfl⟩ := importLink?_eq_some_iff.mp himport
    obtain ⟨m, hm, hmid, hmbare⟩ := Graph.mem_roster.mp hjoins.source
    obtain ⟨n, hn, hnid, hnbare⟩ := Graph.mem_roster.mp hjoins.target
    obtain ⟨p, hp, houtlined⟩ := before_turn_of_ok hcompletes hscan hkept
    have hkeys : p.registry.keys = (catalogue ((keptFiles options.extensions files).map (·.path))
        (routeNames earlier)).keys := by
      rw [← houtlined.bare, Registry.keys_bare]
    have hcandidate : p.registry.candidate f.path s = (catalogue
        ((keptFiles options.extensions files).map (·.path)) (routeNames earlier)).candidate f.path
          s := Registry.candidate_congr (fun path => by rw [hkeys]) f.path s
    have htarget : n.bare = target := hnbare
    refine ⟨earlier, f, later, s, p.registry.keys, p.registry.candidate f.path s, n.path, hkept,
      ⟨SourceFile.asks_of_mem_specifiers hs, ⟨m, ?_, hmid.symm⟩, ⟨p, hp, rfl, rfl⟩,
        n, hn, hnid.symm, rfl⟩, ?_⟩
    · exact hfollows.isFileNode (nodup_keptFiles _ _) hm hmbare
    · rw [hkeys, hcandidate, ← n.bare_path, htarget]
      exact findKey_of_findByPath_catalogue hresolve
  · have hhandler : e.kind = .endpointHandler := hjoins.kind
    rw [hkind] at hhandler
    exact absurd hhandler (by decide)

/-- Every import edge of a scan leads to a path that is aligned with the candidate path of a
specifier, or else to a mere guess: the first known path with the same last characters, where no
known path is the candidate. -/
theorem scan_import_isAligned_or_isGuess :
    ∀ e ∈ result.graph.edges, e.kind = .imports → ∃ earlier f later s known candidate path,
      keptFiles options.extensions files = earlier ++ f :: later ∧
      FoundFor options files result.graph earlier f s e known candidate path ∧
      (Path.IsAligned candidate path ∨ Path.IsGuess known candidate path) := by
  intro e he hkind
  obtain ⟨earlier, f, later, s, known, candidate, path, hkept, hfound, hkey⟩ :=
    exists_foundFor hcompletes hscan he hkind
  exact ⟨earlier, f, later, s, known, candidate, path, hkept, hfound,
    Registry.isAligned_or_isGuess hkey⟩

end

/-- A file whose relative import leads to the file beside it, and one whose import of a library
leads to a file with the same last characters. -/
def shopProject : List SourceFile :=
  [⟨"shop/pos.py", .text "total = 0"⟩, ⟨"shop/till.py", .text "from .pos import total"⟩,
    ⟨"app.py", .text "import os"⟩]

theorem shopProject_reads : ∀ f ∈ shopProject, ∀ message, f.reading ≠ .crash message := by
  simp [shopProject]

/-- The identifiers of the project's files with their paths. -/
def shopFiles : List (Text × Text) :=
  [("id_000000000", "shop/pos.py"), ("id_000000001", "shop/till.py"), ("id_000000002", "app.py")]

theorem graph_shopProject : (scan {} shopProject).map (fun result =>
    (result.graph.nodes.map fun n => (n.id, n.path), result.graph.edges)) =
      .ok (shopFiles,
        [{ source := "id_000000001", target := "id_000000000", kind := .imports },
          { source := "id_000000002", target := "id_000000000", kind := .imports }]) := by
  decide +kernel

/-- The only specifier in `app.py` stands for `os.py`. -/
theorem candidate_app_shopProject {g : Graph} {earlier later : List SourceFile} {f : SourceFile}
    {s : Specifier} {e : Edge} {known : List Text} {candidate path : Text}
    (hkept : keptFiles defaultExtensions shopProject = earlier ++ f :: later)
    (hfound : FoundFor {} shopProject g earlier f s e known candidate path)
    (hsource : f.path = "app.py") : candidate = "os.py" := by
  have hfile : ∀ f ∈ shopProject, f.path = "app.py" → f.reading = .text "import os" := by decide
  have hspecifiers : ∀ s ∈ Specifier.ofContent "import os" (some .python),
      s = ⟨.python, "os.py"⟩ := by decide
  have hmem : f ∈ shopProject := by
    refine (keptFiles_sublist defaultExtensions shopProject).subset ?_
    rw [hkept]
    exact List.mem_append_right _ List.mem_cons_self
  obtain ⟨content, hreading, hlanguage, hs⟩ := hfound.asks
  obtain rfl : "import os" = content :=
    Reading.text.inj ((hfile f hmem hsource).symm.trans hreading)
  rw [hsource] at hlanguage
  have hpython : some Language.python = some s.language := hlanguage
  rw [← hpython] at hs
  obtain ⟨p, -, -, hp⟩ := hfound.turn
  rw [← hp, hspecifiers s hs]
  rfl

/-- The import of `os` leads to `shop/pos.py`, which merely ends with the same characters as
`os.py`. -/
theorem exists_import_not_isAligned : ∃ result, scan {} shopProject = .ok result ∧
    ∃ e ∈ result.graph.edges, e.kind = .imports ∧
      ¬∃ earlier f later s known candidate path,
        keptFiles defaultExtensions shopProject = earlier ++ f :: later ∧
        FoundFor {} shopProject result.graph earlier f s e known candidate path ∧
        Path.IsAligned candidate path := by
  obtain ⟨result, hscan, -⟩ := scan_follows ScanOptions.undisturbed_default shopProject_reads
  have hgraph := graph_shopProject
  rw [hscan] at hgraph
  obtain ⟨hnodes, hedges⟩ := Prod.mk.inj (Except.ok.inj hgraph)
  refine ⟨result, hscan, { source := "id_000000002", target := "id_000000000", kind := .imports },
    by simp [hedges], rfl, ?_⟩
  rintro ⟨earlier, f, later, s, known, candidate, path, hkept, hfound, haligned⟩
  have hplace : ∀ n ∈ result.graph.nodes, (n.id, n.path) ∈ shopFiles := by
    intro n hn
    rw [← hnodes]
    exact List.mem_map_of_mem hn
  have hsource : f.path = "app.py" := by
    have happ : ∀ e ∈ shopFiles, e.1 = "id_000000002" → e.2 = "app.py" := by decide
    obtain ⟨m, hm, hid⟩ := hfound.source
    rw [← hm.path_eq]
    exact happ _ (hplace m hm.mem) hid.symm
  have htarget : path = "shop/pos.py" := by
    have hpos : ∀ e ∈ shopFiles, e.1 = "id_000000000" → e.2 = "shop/pos.py" := by decide
    obtain ⟨n, hn, hid, hpath⟩ := hfound.target
    rw [← hpath]
    exact hpos _ (hplace n hn) hid.symm
  have hcandidate : candidate = "os.py" := candidate_app_shopProject hkept hfound hsource
  rw [hcandidate, htarget] at haligned
  exact absurd haligned (by decide)

theorem scan_import_isAligned_or_isGuess_shopProject :
    (∀ k, (({} : ScanOptions).completion k).Perm (List.range k)) ∧
    ∃ result, scan {} shopProject = .ok result ∧ result.graph.edges.length = 2 ∧
      ∀ e ∈ result.graph.edges, e.kind = .imports → ∃ earlier f later s known candidate path,
        keptFiles defaultExtensions shopProject = earlier ++ f :: later ∧
        FoundFor {} shopProject result.graph earlier f s e known candidate path ∧
        (Path.IsAligned candidate path ∨ Path.IsGuess known candidate path) := by
  have hcompletes : ∀ k, (({} : ScanOptions).completion k).Perm (List.range k) :=
    fun k => List.Perm.refl _
  obtain ⟨result, hscan, -⟩ := scan_follows ScanOptions.undisturbed_default shopProject_reads
  have hgraph := graph_shopProject
  rw [hscan] at hgraph
  obtain ⟨-, hedges⟩ := Prod.mk.inj (Except.ok.inj hgraph)
  refine ⟨hcompletes, result, hscan, ?_, scan_import_isAligned_or_isGuess hcompletes hscan⟩
  rw [hedges]
  rfl

end Scan
end CodeGraph
