import CodeGraph.Proofs.Scan.Labels

/-! A further file at the end of a scan: a specifier resolves as before or to the new file, and
nothing else changes for the files before it. -/
namespace CodeGraph

private theorem find?_eq_or {α : Type} {test test' : α → Bool} {a : α} (ha : test' a = true)
    (h : ∀ b, b ≠ a → test' b = test b) (items : List α) :
    items.find? test' = some a ∨ items.find? test' = items.find? test := by
  induction items with
  | nil => exact Or.inr rfl
  | cons b items ih =>
    by_cases hb : b = a
    · rw [hb, List.find?_cons_of_pos ha]
      exact Or.inl rfl
    · rw [List.find?_cons, List.find?_cons, h b hb]
      cases test b with
      | true => exact Or.inr rfl
      | false => exact ih

namespace Scan

section

variable (paths names : List Text) (new : Text)

theorem lookup_catalogue_new :
    (catalogue (paths ++ [new]) names).lookup new = some (fileNode new) := by
  rw [lookup_catalogue, if_pos (by simp)]

theorem lookup_catalogue_concat {path : Text} (h : path ≠ new) :
    (catalogue (paths ++ [new]) names).lookup path = (catalogue paths names).lookup path := by
  have hmem : path ∈ paths ++ [new] ↔ path ∈ paths := by simp [h]
  rw [lookup_catalogue, lookup_catalogue]
  simp only [hmem]

theorem isIndexed_catalogue_concat {path : Text} (h : path ≠ new) :
    (catalogue (paths ++ [new]) names).isIndexed path = (catalogue paths names).isIndexed path := by
  unfold Registry.isIndexed
  rw [lookup_catalogue_concat paths names new h]

/-- The new key stands before those of the endpoints. An endpoint of the same path loses its own. -/
theorem find?_keys_catalogue_concat (test : Text → Bool) :
    (catalogue (paths ++ [new]) names).keys.find? test = some new ∨
      (catalogue (paths ++ [new]) names).keys.find? test =
        (catalogue paths names).keys.find? test := by
  rw [keys_catalogue, keys_catalogue, List.append_assoc, List.find?_append, List.find?_append,
    List.find?_append]
  cases hpaths : paths.find? test with
  | some path => exact Or.inr rfl
  | none =>
    cases hnew : test new with
    | true =>
      left
      rw [List.find?_cons_of_pos hnew]
      rfl
    | false =>
      right
      have hfilter : ∀ name, (decide (name ∉ paths ++ [new]) = true ∧ test name = true) ↔
          (decide (name ∉ paths) = true ∧ test name = true) := by
        intro name
        by_cases hname : name = new
        · simp [hname, hnew]
        · simp [hname]
      rw [List.find?_cons_of_neg (by simp [hnew]), List.find?_nil, Option.none_or,
        List.find?_filter, List.find?_filter]
      simp only [hfilter]

theorem findKey_catalogue_concat (path : Text) :
    Registry.findKey (catalogue (paths ++ [new]) names).keys path = some new ∨
      Registry.findKey (catalogue (paths ++ [new]) names).keys path =
        Registry.findKey (catalogue paths names).keys path := by
  unfold Registry.findKey
  by_cases hpath : path = new
  · left
    rw [if_pos ((mem_keys_catalogue _ _ _).mpr (Or.inl (by simp [hpath]))), hpath]
  · have hmem : path ∈ (catalogue (paths ++ [new]) names).keys ↔
        path ∈ (catalogue paths names).keys := by
      rw [← Registry.isIndexed_iff, ← Registry.isIndexed_iff,
        isIndexed_catalogue_concat paths names new hpath]
    simp only [hmem]
    split_ifs
    · exact Or.inr rfl
    · exact Or.inr rfl
    · exact find?_keys_catalogue_concat paths names new _

theorem findByPath_catalogue_concat (path : Text) :
    (catalogue (paths ++ [new]) names).findByPath path = some (fileNode new) ∨
      (catalogue (paths ++ [new]) names).findByPath path =
        (catalogue paths names).findByPath path := by
  rw [Registry.findByPath_eq, Registry.findByPath_eq]
  rcases findKey_catalogue_concat paths names new path with hkey | hkey
  · left
    rw [hkey, Option.bind_some, lookup_catalogue_new]
  · rw [hkey]
    cases Registry.findKey (catalogue paths names).keys path with
    | none => exact Or.inr rfl
    | some key =>
      rw [Option.bind_some, Option.bind_some]
      by_cases hnew : key = new
      · left
        rw [hnew, lookup_catalogue_new]
      · right
        exact lookup_catalogue_concat paths names new hnew

/-- Trying the endings stops at the new path at the earliest, or where it stopped before. -/
theorem candidate_catalogue_concat (source : Text) (s : Specifier) :
    (catalogue (paths ++ [new]) names).candidate source s = new ∨
      (catalogue (paths ++ [new]) names).candidate source s =
        (catalogue paths names).candidate source s := by
  unfold Registry.candidate
  cases s.language with
  | python => exact Or.inr rfl
  | javascript =>
    simp only
    unfold Registry.resolvePath
    simp only
    split_ifs
    · exact Or.inr rfl
    · have hnew : (catalogue (paths ++ [new]) names).isIndexed new = true := by
        rw [Registry.isIndexed, lookup_catalogue_new]
        rfl
      rcases find?_eq_or hnew (fun path => isIndexed_catalogue_concat paths names new)
        (Path.suffixes.map (Path.walk (Path.folder source) s.raw ++ ·)) with h | h
      · left
        rw [h, Option.getD_some]
      · right
        rw [h]

theorem resolve_catalogue_concat (source : Text) (s : Specifier) :
    (catalogue (paths ++ [new]) names).resolve source s = some (fileNode new) ∨
      (catalogue (paths ++ [new]) names).resolve source s =
        (catalogue paths names).resolve source s := by
  unfold Registry.resolve
  rcases candidate_catalogue_concat paths names new source s with h | h
  · left
    rw [h]
    exact Registry.findByPath_of_lookup (lookup_catalogue_new paths names new)
  · rw [h]
    exact findByPath_catalogue_concat paths names new _

end

end Scan

/-- What a graph gains by a further file: arrows from the file at the end, and arrows to it. The
other files keep their arrows to endpoints and their notes, and no import is lost. -/
structure Graph.Gains (g short : Graph) (files : List SourceFile) (new : Text) : Prop where
  behind : ∃ old added, g.arrows = old ++ added ∧
    (∀ a ∈ old, ∃ f ∈ files, a.source = some (Scan.fileLabel f.path)) ∧
    (∀ a ∈ added, a.source = some (Scan.fileLabel new)) ∧
    old.filter (·.kind = .endpointHandler) = short.arrowsOf .endpointHandler
  imports : ∀ a ∈ short.arrowsOf .imports,
    a ∈ g.arrowsOf .imports ∨ { a with target := some (Scan.fileLabel new) } ∈ g.arrowsOf .imports
  noted : ∀ f ∈ files, ∃ n m, short.IsFileNode f.path n ∧ g.IsFileNode f.path m ∧
    n.hasDb = m.hasDb

namespace Graph.Follows

variable {short long : Graph} {files : List SourceFile} {f : SourceFile}

theorem behind (h : short.Follows files) (h' : long.Follows (files ++ [f])) :
    ∃ old added, long.arrows = old ++ added ∧
      (∀ a ∈ old, ∃ g ∈ files, a.source = some (Scan.fileLabel g.path)) ∧
      (∀ a ∈ added, a.source = some (Scan.fileLabel f.path)) ∧
      old.filter (·.kind = .endpointHandler) = short.arrowsOf .endpointHandler := by
  refine ⟨(Scan.links ((files ++ [f]).map (·.path)) [] files).map Scan.Link.arrow,
    (Scan.fileLinks ((files ++ [f]).map (·.path)) (Scan.routeNames files) f).map Scan.Link.arrow,
    ?_, ?_, ?_, ?_⟩
  · rw [h'.arrows_eq, Scan.links_concat, List.map_append]
  · intro a ha
    obtain ⟨l, hl, rfl⟩ := List.mem_map.mp ha
    obtain ⟨g, hg, hsource⟩ := Scan.source_of_mem_links hl
    refine ⟨g, hg, ?_⟩
    rw [Scan.Link.arrow, hsource, Scan.label_fileNode]
  · intro a ha
    obtain ⟨l, hl, rfl⟩ := List.mem_map.mp ha
    rw [Scan.Link.arrow, Scan.source_of_mem_fileLinks hl, Scan.label_fileNode]
  · rw [h.arrowsOf_eq, Scan.filter_handlers_links, List.filter_map]
    exact congrArg (List.map Scan.Link.arrow) (Scan.filter_handlers_links _ _ _)

theorem noted (h : short.Follows files) (h' : long.Follows (files ++ [f]))
    (hpaths : ((files ++ [f]).map (·.path)).Nodup) {g : SourceFile} (hg : g ∈ files) :
    ∃ n m, short.IsFileNode g.path n ∧ long.IsFileNode g.path m ∧ n.hasDb = m.hasDb := by
  have hshort : (files.map (·.path)).Nodup := by
    rw [List.map_append] at hpaths
    exact hpaths.of_append_left
  have hg' : g ∈ files ++ [f] := List.mem_append_left _ hg
  obtain ⟨n, hn⟩ := h.exists_isFileNode hshort (List.mem_map_of_mem hg)
  obtain ⟨m, hm⟩ := h'.exists_isFileNode hpaths (List.mem_map_of_mem hg')
  refine ⟨n, m, hn, hm, ?_⟩
  rw [Bool.eq_iff_iff, h.hasDb_iff hshort hg hn, h'.hasDb_iff hpaths hg' hm]

end Graph.Follows

namespace Scan

section

variable {o o' : ScanOptions} (ho : o.Undisturbed) (ho' : o'.Undisturbed)
  {files : List SourceFile} {f : SourceFile}
  (hread : ∀ g ∈ files ++ [f], ∀ message, g.reading ≠ .crash message)
  (hkept : keptFiles o'.extensions (files ++ [f]) = keptFiles o.extensions files ++ [f])
include ho ho' hread hkept

theorem resolvesTo_concat {g : SourceFile} (hg : g ∈ keptFiles o.extensions files)
    (s : Specifier) :
    resolvesTo o' (files ++ [f]) g.path s = some (fileLabel f.path) ∨
      resolvesTo o' (files ++ [f]) g.path s = resolvesTo o files g.path s := by
  have hread' : ∀ g ∈ files, ∀ message, g.reading ≠ .crash message :=
    fun g hg => hread g (List.mem_append_left _ hg)
  obtain ⟨earlier, later, hsplit⟩ := List.append_of_mem hg
  have hsplit' : keptFiles o'.extensions (files ++ [f]) = earlier ++ g :: (later ++ [f]) := by
    rw [hkept, hsplit, List.append_assoc, List.cons_append]
  rw [resolvesTo_eq ho' hread hsplit', resolvesTo_eq ho hread' hsplit, hkept, List.map_append,
    List.map_singleton]
  rcases resolve_catalogue_concat ((keptFiles o.extensions files).map (·.path))
    (routeNames earlier) f.path g.path s with h | h
  · left
    rw [h, Option.map_some, label_fileNode]
  · right
    rw [h]

theorem importArrows_concat {a : Arrow} (ha : a ∈ importArrows o files) :
    a ∈ importArrows o' (files ++ [f]) ∨
      { a with target := some (fileLabel f.path) } ∈ importArrows o' (files ++ [f]) := by
  obtain ⟨g, hg, hfile⟩ := List.mem_flatMap.mp ha
  obtain ⟨s, hs, harrow⟩ := List.mem_filterMap.mp hfile
  have hg' : g ∈ keptFiles o'.extensions (files ++ [f]) := by
    rw [hkept]
    exact List.mem_append_left _ hg
  have hmem : ∀ b, importArrow? g.path (resolvesTo o' (files ++ [f]) g.path s) = some b →
      b ∈ importArrows o' (files ++ [f]) := fun b hb =>
    List.mem_flatMap.mpr ⟨g, hg', List.mem_filterMap.mpr ⟨s, hs, hb⟩⟩
  rcases resolvesTo_concat ho ho' hread hkept hg s with h | h
  · right
    have hother : fileLabel f.path ≠ fileLabel g.path := by
      intro heq
      have hnodup := nodup_keptFiles o'.extensions (files ++ [f])
      rw [hkept, List.map_append, List.nodup_append] at hnodup
      exact hnodup.2.2 g.path (List.mem_map_of_mem hg) f.path (by simp)
        (fileLabel_injective heq).symm
    obtain ⟨target, -, rfl⟩ := Option.map_eq_some_iff.mp harrow
    apply hmem
    rw [h]
    simp [importArrow?, Option.filter, hother]
  · left
    apply hmem
    rw [h]
    exact harrow

end

/-- A further file at the end changes no dependency of the files before it, except that a specifier
may come to refer to the new file. -/
theorem scan_concat {o o' : ScanOptions} (ho : o.Undisturbed) (ho' : o'.Undisturbed)
    (hextensions : o'.extensions = o.extensions) {files : List SourceFile} {f : SourceFile}
    (hread : ∀ g ∈ files ++ [f], ∀ message, g.reading ≠ .crash message)
    (haccepted : isAccepted o.extensions f.path = true)
    (hnew : ∀ g ∈ files, isAccepted o.extensions g.path = true → g.path ≠ f.path) :
    ∃ short long, scan o files = .ok short ∧ scan o' (files ++ [f]) = .ok long ∧
      short.graph.arrowsOf .imports = importArrows o files ∧
      long.graph.arrowsOf .imports = importArrows o' (files ++ [f]) ∧
      (∀ g ∈ keptFiles o.extensions files, ∀ s ∈ g.specifiers,
        resolvesTo o' (files ++ [f]) g.path s = some (fileLabel f.path) ∨
          resolvesTo o' (files ++ [f]) g.path s = resolvesTo o files g.path s) ∧
      long.graph.Gains short.graph (keptFiles o.extensions files) f.path := by
  have hread' : ∀ g ∈ files, ∀ message, g.reading ≠ .crash message :=
    fun g hg => hread g (List.mem_append_left _ hg)
  have hkept : keptFiles o'.extensions (files ++ [f]) = keptFiles o.extensions files ++ [f] := by
    rw [hextensions]
    exact keptFiles_concat haccepted hnew
  have hpaths := nodup_keptFiles o'.extensions (files ++ [f])
  obtain ⟨short, hshort, hfollows⟩ := scan_follows ho hread'
  obtain ⟨long, hlong, hfollows'⟩ := scan_follows ho' hread
  have himports := imports_eq ho hread' hfollows
  have himports' := imports_eq ho' hread hfollows'
  rw [hkept] at hfollows' hpaths
  refine ⟨short, long, hshort, hlong, himports, himports',
    fun g hg s _ => resolvesTo_concat ho ho' hread hkept hg s,
    hfollows.behind hfollows', ?_, fun g hg => hfollows.noted hfollows' hpaths hg⟩
  intro a ha
  rw [himports] at ha
  rw [himports']
  exact importArrows_concat ho ho' hread hkept ha

/-- A file that calls for the first of the small project. -/
def lateFile : SourceFile :=
  ⟨"app/late.js", .text "const m = require('./main.js'); app.get('/users', m.list)"⟩

theorem scan_concat_smallProject :
    (∀ g ∈ smallProject ++ [lateFile], ∀ message, g.reading ≠ .crash message) ∧
    isAccepted defaultExtensions lateFile.path = true ∧
    (∀ g ∈ smallProject, isAccepted defaultExtensions g.path = true → g.path ≠ lateFile.path) ∧
    ∃ short long, scan {} smallProject = .ok short ∧
      scan {} (smallProject ++ [lateFile]) = .ok long ∧
      short.graph.arrowsOf .imports = importArrows {} smallProject ∧
      long.graph.arrowsOf .imports = importArrows {} (smallProject ++ [lateFile]) ∧
      (∀ g ∈ keptFiles defaultExtensions smallProject, ∀ s ∈ g.specifiers,
        resolvesTo {} (smallProject ++ [lateFile]) g.path s = some (fileLabel lateFile.path) ∨
          resolvesTo {} (smallProject ++ [lateFile]) g.path s =
            resolvesTo {} smallProject g.path s) ∧
      long.graph.Gains short.graph (keptFiles defaultExtensions smallProject) lateFile.path := by
  have hread : ∀ g ∈ smallProject ++ [lateFile], ∀ message, g.reading ≠ .crash message := by
    intro g hg
    rcases List.mem_append.mp hg with hg | hg
    · exact smallProject_reads g hg
    · rw [List.mem_singleton.mp hg]
      exact fun message => Reading.noConfusion
  have haccepted : isAccepted defaultExtensions lateFile.path = true := by decide
  have hnew : ∀ g ∈ smallProject, isAccepted defaultExtensions g.path = true →
      g.path ≠ lateFile.path := by decide
  exact ⟨hread, haccepted, hnew, scan_concat ScanOptions.undisturbed_default
    ScanOptions.undisturbed_default rfl hread haccepted hnew⟩

end Scan
end CodeGraph
