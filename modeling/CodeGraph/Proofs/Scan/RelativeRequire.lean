import CodeGraph.Proofs.Path.Walk
import CodeGraph.Proofs.Pattern.RequireCall
import CodeGraph.Proofs.Scan.Follows

/-! No relative call of `require` is lost: the graph has the edge that it asks for, whatever else
the texts say and whatever other files there are. -/
namespace CodeGraph

namespace SourceFile

/-- The text of the file holds a call of `require` with this path that does not continue a word. -/
def Requires (f : SourceFile) (path : Text) : Prop :=
  ∃ read here behind, f.reading = .text (read ++ here) ∧ outsideWord read.getLast? = true ∧
    Specifier.IsRequireCall path behind here

theorem Requires.mem_specifiers {f : SourceFile} {path : Text} (h : f.Requires path)
    (hlanguage : Language.ofExtension? (Path.extension f.path) = some .javascript)
    (hpath : Specifier.isRelative path = true) : ⟨.javascript, path⟩ ∈ f.specifiers := by
  obtain ⟨read, here, behind, hreading, hbefore, hcall⟩ := h
  have hcontent : f.content = read ++ here := by
    unfold content
    rw [hreading]
    rfl
  have hfound := Specifier.mem_findAll_requireCall hbefore hcall hpath
  unfold specifiers
  rw [hcontent, hlanguage]
  apply List.mem_map_of_mem
  exact List.mem_filter.mpr ⟨List.mem_append_right _ hfound, hpath⟩

end SourceFile

namespace Scan

/-- The path between two files names the second in full. -/
theorem isExact_of_leads {paths : List Text} {source relative target : Text}
    (h : Path.Leads source relative target) (hdot : '.' ∈ target) (hmem : target ∈ paths) :
    Specifier.isExact paths source ⟨.javascript, relative⟩ = true := by
  have htarget : Specifier.target source ⟨.javascript, relative⟩ = target := h.walk_folder
  unfold Specifier.isExact
  rw [htarget]
  simp [hdot, hmem]

theorem link_of_requires {files : List SourceFile} {f : SourceFile} (hf : f ∈ files)
    {relative target : Text} (hrequires : f.Requires relative)
    (hlanguage : Language.ofExtension? (Path.extension f.path) = some .javascript)
    (hleads : Path.Leads f.path relative target) (hdot : '.' ∈ target)
    (htarget : target ∈ files.map (·.path)) (hne : f.path ≠ target) :
    { source := fileNode f.path, target := fileNode target, kind := .imports } ∈
      links (files.map (·.path)) [] files := by
  have hrelative : Specifier.isRelative relative = true := by
    obtain ⟨behind, rfl⟩ := hleads.starts
    rfl
  have hspecifier := hrequires.mem_specifiers hlanguage hrelative
  obtain ⟨earlier, later, hsplit⟩ := List.append_of_mem hf
  refine mem_links.mpr ⟨earlier, f, later, hsplit, mem_fileLinks.mpr (Or.inl ⟨_, hspecifier, ?_⟩)⟩
  have hresolve := resolve_catalogue_of_isExact _ (routeNames earlier)
    (isExact_of_leads hleads hdot htarget)
  rw [Specifier.target, hleads.walk_folder] at hresolve
  refine importLink?_eq_some_iff.mpr ⟨fileNode target, hresolve, ?_, rfl⟩
  exact fun heq => hne (fileNode_injective heq).symm

/-- Every relative call of `require` in a script file gives an edge to the file that it leads to. -/
theorem scan_import_of_requires {options : ScanOptions} (ho : options.Undisturbed)
    {files : List SourceFile} (hread : ∀ f ∈ files, ∀ message, f.reading ≠ .crash message)
    {source relative target : Text} (hsource : isAccepted options.extensions source = true)
    (htarget : isAccepted options.extensions target = true) (hne : source ≠ target)
    (hlanguage : Language.ofExtension? (Path.extension source) = some .javascript)
    (hdot : '.' ∈ target) (hexists : target ∈ files.map (·.path)) {f : SourceFile}
    (hfirst : files.find? (·.path = source) = some f)
    (hleads : Path.Leads source relative target) (hrequires : f.Requires relative) :
    ∃ result, scan options files = .ok result ∧
      ∃ s t, result.graph.IsFileNode source s ∧ result.graph.IsFileNode target t ∧
        { source := s.id, target := t.id, kind := .imports } ∈ result.graph.edges := by
  obtain ⟨result, hscan, hfollows⟩ := scan_follows ho hread
  have hpaths := nodup_keptFiles options.extensions files
  obtain rfl : f.path = source := by simpa using List.find?_some hfirst
  have hf : f ∈ keptFiles options.extensions files :=
    (mem_keptFiles_iff _ _ _).mpr ⟨hsource, hfirst⟩
  have hkept : target ∈ (keptFiles options.extensions files).map (·.path) :=
    (mem_map_keptFiles_iff _ _ _).mpr ⟨htarget, hexists⟩
  have hlink := link_of_requires hf hrequires hlanguage hleads hdot hkept hne
  obtain ⟨e, he, hjoins⟩ := hfollows.edge_of_link hlink
  obtain ⟨s, hs, hsid, hsbare⟩ := Graph.mem_roster.mp hjoins.source
  obtain ⟨t, ht, htid, htbare⟩ := Graph.mem_roster.mp hjoins.target
  refine ⟨result, hscan, s, t, hfollows.isFileNode hpaths hs hsbare,
    hfollows.isFileNode hpaths ht htbare, ?_⟩
  rw [hsid, htid]
  exact hjoins.eq_edge ▸ he

/-- A file that calls `require` between other texts, and a file in the folder above it. -/
def callingProject : List SourceFile :=
  [⟨"app/web/main.js", .text
      (("prerequire('x'); a = 'it'; " : Text) ++ "require( \"../users.js\" ); app.get('/')")⟩,
    ⟨"app/users.js", .unreadable "permission denied"⟩]

theorem scan_import_of_requires_callingProject :
    Path.Leads "app/web/main.js" "../users.js" "app/users.js" ∧
    ∃ result, scan {} callingProject = .ok result ∧
      ∃ s t, result.graph.IsFileNode "app/web/main.js" s ∧
        result.graph.IsFileNode "app/users.js" t ∧
        { source := s.id, target := t.id, kind := .imports } ∈ result.graph.edges := by
  have hleads : Path.Leads "app/web/main.js" "../users.js" "app/users.js" :=
    .mk ["app"] ["web"] ["users.js"] "main.js" (by decide) (by decide) (by decide) (by decide)
      (by decide)
  have hcall : Specifier.IsRequireCall "../users.js" "; app.get('/')"
      "require( \"../users.js\" ); app.get('/')" :=
    @Specifier.IsRequireCall.mk _ _ [] [' '] [' '] '"' '"' (List.forall_mem_nil _)
      (List.forall_mem_singleton.mpr (by decide)) (List.forall_mem_singleton.mpr (by decide))
      rfl rfl (by decide) (by simp [isQuote])
  exact ⟨hleads, scan_import_of_requires ScanOptions.undisturbed_default
    (by simp [callingProject]) (by decide) (by decide) (by decide) (by decide) (by decide)
    (by decide) rfl hleads
    ⟨"prerequire('x'); a = 'it'; ", _, _, rfl, by decide, hcall⟩⟩

end Scan
end CodeGraph
