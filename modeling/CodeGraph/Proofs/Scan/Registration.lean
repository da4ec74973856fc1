import CodeGraph.Proofs.Registry.Growth
import CodeGraph.Proofs.Scan.Catalogue

/-! Registration: the first file of each path gets a node, in order of arrival. -/
namespace CodeGraph

namespace Scan

/-- The files of a scan: those with an accepted extension, of several with one path the first. -/
def keptFiles (extensions : List Text) (files : List SourceFile) : List SourceFile :=
  addFirsts (·.path) [] (files.filter fun f => isAccepted extensions f.path)

theorem nodup_keptFiles (extensions : List Text) (files : List SourceFile) :
    ((keptFiles extensions files).map (·.path)).Nodup :=
  nodup_map_addFirsts _ (by simp) _

theorem keptFiles_sublist (extensions : List Text) (files : List SourceFile) :
    (keptFiles extensions files).Sublist files :=
  (addFirsts_sublist _ [] _).trans List.filter_sublist

/-- A file is kept if it is the first of its path and its extension is accepted. -/
theorem mem_keptFiles_iff (extensions : List Text) (files : List SourceFile) (f : SourceFile) :
    f ∈ keptFiles extensions files ↔
      isAccepted extensions f.path = true ∧ files.find? (·.path = f.path) = some f := by
  unfold keptFiles
  rw [mem_addFirsts_nil_iff, List.find?_filter]
  by_cases h : isAccepted extensions f.path = true
  · rw [and_iff_right h]
    have htest : ∀ g : SourceFile, (isAccepted extensions g.path = true ∧
        decide (g.path = f.path) = true) ↔ g.path = f.path := by
      intro g
      rw [decide_eq_true_iff, and_iff_right_iff_imp]
      intro hg
      rw [hg]
      exact h
    simp only [htest]
  · refine iff_of_false ?_ fun hf => h hf.1
    intro hf
    have htest := List.find?_some hf
    simp [h] at htest

theorem mem_map_keptFiles_iff (extensions : List Text) (files : List SourceFile) (path : Text) :
    path ∈ (keptFiles extensions files).map (·.path) ↔
      isAccepted extensions path = true ∧ path ∈ files.map (·.path) := by
  unfold keptFiles
  rw [mem_map_addFirsts, List.map_nil, List.mem_map, List.mem_map]
  constructor
  · rintro (h | ⟨f, hf, rfl⟩)
    · exact absurd h List.not_mem_nil
    · obtain ⟨hmem, haccepted⟩ := List.mem_filter.mp hf
      exact ⟨haccepted, f, hmem, rfl⟩
  · rintro ⟨haccepted, f, hf, rfl⟩
    exact Or.inr ⟨f, List.mem_filter.mpr ⟨hf, haccepted⟩, rfl⟩

/-- A new accepted file at the end is kept behind the others. -/
theorem keptFiles_concat {extensions : List Text} {files : List SourceFile} {f : SourceFile}
    (haccepted : isAccepted extensions f.path = true)
    (hnew : ∀ g ∈ files, isAccepted extensions g.path = true → g.path ≠ f.path) :
    keptFiles extensions (files ++ [f]) = keptFiles extensions files ++ [f] := by
  have hpath : f.path ∉ (keptFiles extensions files).map (·.path) := by
    rw [mem_map_keptFiles_iff, List.mem_map]
    rintro ⟨-, g, hg, heq⟩
    exact hnew g hg (heq ▸ haccepted) heq
  have hlast : [f].filter (fun g => isAccepted extensions g.path) = [f] := by simp [haccepted]
  unfold keptFiles
  rw [List.filter_append, hlast, addFirsts_append]
  exact addFirsts_new _ hpath

/-- What holds between two files of the registration, when `files` were taken in. -/
structure Registered (files : List SourceFile) (state : Progress × List Kept) : Prop where
  files_eq : state.2.map (·.file) = addFirsts (·.path) [] files
  entries : state.1.registry.entries = state.2.map fun k => ⟨some k.file.path, k.node⟩
  anonymous : ∀ k ∈ state.2, { k.node with id := [] } = fileNode k.file.path
  distinct : state.1.registry.Distinct
  edges : state.1.edges = []

theorem Registered.keys {files : List SourceFile} {state : Progress × List Kept}
    (h : Registered files state) :
    state.1.registry.keys = (addFirsts (·.path) [] files).map (·.path) := by
  rw [← h.files_eq, List.map_map]
  unfold Registry.keys Registry.index
  rw [h.entries, List.filterMap_map]
  simp [Function.comp_def]

theorem registerFile_eq (p : Progress) (kept : List Kept) (f : SourceFile) :
    registerFile (p, kept) f =
      if p.registry.isIndexed f.path then (p.report (.duplicatePath f.path), kept)
      else ({ p with registry := (p.registry.append (some f.path) (fileNode f.path)).2 },
        kept ++ [⟨f, (p.registry.append (some f.path) (fileNode f.path)).1⟩]) := by
  unfold registerFile Registry.register?
  split_ifs with h <;> simp [h]

theorem Registered.step {files : List SourceFile} {p : Progress} {kept : List Kept}
    (h : Registered files (p, kept)) (f : SourceFile) :
    Registered (files ++ [f]) (registerFile (p, kept) f) := by
  have hindexed : p.registry.isIndexed f.path = true ↔
      f.path ∈ (addFirsts (·.path) [] files).map (·.path) := by
    rw [Registry.isIndexed_iff, h.keys]
  rw [registerFile_eq]
  split_ifs with hold
  · refine ⟨?_, h.entries, h.anonymous, h.distinct, h.edges⟩
    rw [addFirsts_append, addFirsts_old _ (hindexed.mp hold)]
    exact h.files_eq
  · refine ⟨?_, ?_, ?_, h.distinct.append _ _, h.edges⟩
    · rw [addFirsts_append, addFirsts_new _ (fun hmem => hold (hindexed.mpr hmem)), ← h.files_eq]
      simp
    · rw [Registry.entries_append, h.entries]
      simp
    · intro k hk
      rcases List.mem_append.mp hk with hk | hk
      · exact h.anonymous k hk
      · rw [List.mem_singleton.mp hk]
        rfl

theorem registered (digits : DigitStream) (files : List SourceFile) :
    Registered files (registerAll digits files) := by
  have hfold : ∀ (done : List SourceFile) (state : Progress × List Kept),
      Registered done state → Registered (done ++ files) (files.foldl registerFile state) := by
    induction files with
    | nil =>
      intro done state h
      simpa using h
    | cons f files ih =>
      intro done state h
      simpa using ih _ _ (h.step f)
  refine hfold [] _ ⟨rfl, rfl, by simp, ⟨?_, ?_⟩, rfl⟩
  · exact List.nodup_nil
  · simp [Registry.ids, Registry.nodes]

namespace Registered

variable {files : List SourceFile} {state : Progress × List Kept}

theorem bare (h : Registered files state) :
    state.1.registry.bare = catalogue ((addFirsts (·.path) [] files).map (·.path)) [] := by
  unfold Registry.bare catalogue
  rw [h.entries, ← h.files_eq, List.map_map, List.map_map, List.map_map, List.map_nil,
    List.append_nil]
  congr 1
  apply List.map_congr_left
  intro k hk
  have hbare : k.node.bare = fileNode k.file.path := congrArg Node.bare (h.anonymous k hk)
  simp [hbare]

theorem mem_roster (h : Registered files state) {k : Kept} (hk : k ∈ state.2) :
    (k.node.id, fileNode k.file.path) ∈ state.1.registry.roster := by
  have hbare : k.node.bare = fileNode k.file.path := congrArg Node.bare (h.anonymous k hk)
  rw [← hbare]
  apply Registry.mem_roster
  unfold Registry.nodes
  rw [h.entries, List.map_map]
  exact List.mem_map.mpr ⟨k, hk, rfl⟩

theorem not_flagged (h : Registered files state) (id : Text) :
    ¬state.1.registry.Flagged id := by
  rintro ⟨n, hn, -, hdb⟩
  unfold Registry.nodes at hn
  rw [h.entries, List.map_map] at hn
  obtain ⟨k, hk, rfl⟩ := List.mem_map.mp hn
  have hfile := congrArg Node.hasDb (h.anonymous k hk)
  exact absurd (hfile.symm.trans hdb) (by simp [fileNode])

end Registered

end Scan
end CodeGraph
