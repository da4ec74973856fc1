import CodeGraph.Proofs.Scan.Analysis
import CodeGraph.Proofs.Scan.Pool
import CodeGraph.Proofs.Scan.Run

/-! Neither the workers nor the order of the readings show in a graph, and a file that cannot be read
counts as an empty one. The warnings name the kept files whose reading failed. -/
namespace CodeGraph

namespace Progress

/-- The same but for what was reported. -/
structure Agrees (p q : Progress) : Prop where
  registry : p.registry = q.registry
  edges : p.edges = q.edges

section

variable {p q : Progress} (h : p.Agrees q) (source : Node)
include h

theorem agrees_followImport (s : Specifier) :
    (followImport source p s).Agrees (followImport source q s) where
  registry := by rw [registry_followImport, registry_followImport, h.registry]
  edges := by rw [edges_followImport, edges_followImport, h.registry, h.edges]

theorem agrees_endpoint (route : Route) :
    (endpoint source p route).1 = (endpoint source q route).1 ∧
      (endpoint source p route).2.Agrees (endpoint source q route).2 := by
  unfold endpoint
  rw [h.registry]
  cases q.registry.findEndpoint route.path with
  | some n => exact ⟨rfl, h⟩
  | none => exact ⟨rfl, rfl, h.edges⟩

theorem agrees_followRoute (linked : List Text) (route : Route) :
    (followRoute source (p, linked) route).1.Agrees (followRoute source (q, linked) route).1 ∧
      (followRoute source (p, linked) route).2 = (followRoute source (q, linked) route).2 := by
  obtain ⟨hnode, hagrees⟩ := agrees_endpoint h source route
  rw [followRoute_eq, followRoute_eq, hnode]
  split_ifs
  · exact ⟨hagrees, rfl⟩
  · exact ⟨⟨hagrees.registry, congrArg (· ++ _) hagrees.edges⟩, rfl⟩

end

theorem agrees_foldl_followImport {p q : Progress} (h : p.Agrees q) (source : Node)
    (specifiers : List Specifier) : (specifiers.foldl (followImport source) p).Agrees
      (specifiers.foldl (followImport source) q) := by
  induction specifiers generalizing p q with
  | nil => exact h
  | cons s specifiers ih => exact ih (agrees_followImport h source s)

theorem agrees_foldl_followRoute {p q : Progress} (h : p.Agrees q) (source : Node)
    (linked : List Text) (routes : List Route) :
    (routes.foldl (followRoute source) (p, linked)).1.Agrees
      (routes.foldl (followRoute source) (q, linked)).1 := by
  induction routes generalizing p q linked with
  | nil => exact h
  | cons route routes ih =>
    obtain ⟨hagrees, hlinked⟩ := agrees_followRoute h source linked route
    rw [List.foldl_cons, List.foldl_cons]
    generalize followRoute source (p, linked) route = s at hagrees hlinked ⊢
    generalize followRoute source (q, linked) route = t at hagrees hlinked ⊢
    obtain ⟨p', linked'⟩ := s
    obtain ⟨q', linked''⟩ := t
    obtain rfl : linked' = linked'' := hlinked
    exact ih hagrees linked'

theorem agrees_detect {p q : Progress} (h : p.Agrees q) (content : Text) (source : Node) :
    (p.detect content source).Agrees (q.detect content source) := by
  have hroutes := agrees_foldl_followRoute h source [] (Route.ofContent content)
  rw [detect_eq, detect_eq]
  simp only
  split_ifs
  · exact ⟨congrArg (Registry.markDatabase · source.id) hroutes.registry, hroutes.edges⟩
  · exact hroutes

theorem agrees_visit {p q : Progress} (h : p.Agrees q) (k : Scan.Kept) :
    (p.visit k).Agrees (q.visit k) :=
  agrees_detect (agrees_foldl_followImport h k.node _) k.file.content k.node

theorem agrees_foldl_visit {p q : Progress} (h : p.Agrees q) (kept : List Scan.Kept) :
    (kept.foldl visit p).Agrees (kept.foldl visit q) := by
  induction kept generalizing p q with
  | nil => exact h
  | cons k kept ih => exact ih (agrees_visit h k)

end Progress

namespace SourceFile

/-- The warning that a failed reading gives. -/
def failure? (f : SourceFile) : Option Warning :=
  match f.reading with
  | .unreadable reason => some ⟨f.path, reason⟩
  | _ => none

/-- A file that cannot be read is replaced by an empty one. -/
def filled (f : SourceFile) : SourceFile :=
  match f.reading with
  | .unreadable _ => { f with reading := .text [] }
  | _ => f

@[simp] theorem filled_path (f : SourceFile) : f.filled.path = f.path := by
  unfold filled
  split <;> rfl

@[simp] theorem filled_content (f : SourceFile) : f.filled.content = f.content := by
  obtain ⟨path, reading⟩ := f
  cases reading <;> rfl

theorem filled_reads {f : SourceFile} (h : ∀ message, f.reading ≠ .crash message) :
    ∀ message, f.filled.reading ≠ .crash message := by
  obtain ⟨path, reading⟩ := f
  cases reading with
  | text content => exact fun message => nofun
  | unreadable reason => exact fun message => nofun
  | crash message => exact absurd rfl (h message)

theorem failure?_eq_some_iff {f : SourceFile} {w : Warning} :
    f.failure? = some w ↔ f = ⟨w.path, .unreadable w.reason⟩ := by
  obtain ⟨path, reading⟩ := f
  obtain ⟨path', reason'⟩ := w
  cases reading <;> simp [failure?]

end SourceFile

namespace Scan

/-- The warnings of a harvest stand in the order of the readings that failed. -/
theorem gather_warnings {isCancelled : Nat → Bool} {files : List SourceFile} {question : Nat}
    {order : List Nat} {h h' : Harvest}
    (hgather : gather isCancelled files question order h = .ok h') :
    h'.warnings = h.warnings ++ order.filterMap fun i => files[i]?.bind SourceFile.failure? := by
  induction order generalizing question h with
  | nil =>
    rw [← Except.ok.inj hgather]
    simp
  | cons i order ih =>
    unfold gather at hgather
    split_ifs at hgather
    rw [List.filterMap_cons]
    cases hi : files[i]? with
    | none =>
      rw [hi] at hgather
      exact ih hgather
    | some f =>
      obtain ⟨path, reading⟩ := f
      rw [hi] at hgather
      cases reading with
      | text content =>
        have hrest : gather isCancelled files (question + 1) order
            { h with texts := (i, content) :: h.texts } = .ok h' := hgather
        have hwarnings := ih hrest
        exact hwarnings
      | unreadable reason =>
        have hrest : gather isCancelled files (question + 1) order
            { h with warnings := h.warnings ++ [⟨path, reason⟩] } = .ok h' := hgather
        rw [ih hrest, List.append_assoc]
        rfl
      | crash message => cases hgather

theorem filterMap_range {α β : Type} (items : List α) (f : α → Option β) :
    (List.range items.length).filterMap (fun i => items[i]?.bind f) = items.filterMap f := by
  induction items with
  | nil => rfl
  | cons a items ih =>
    rw [List.length_cons, List.range_succ_eq_map, List.filterMap_cons, List.filterMap_map,
      List.filterMap_cons, ← ih]
    rfl

/-- The warnings of a scan are, up to their order, those of the files in it that cannot be read. -/
theorem warnings_perm {options : ScanOptions} (ho : options.Undisturbed) {files : List SourceFile}
    {harvest : Harvest} (hgather : gather options.isCancelled
      ((keptOf options files).map (·.file)) 0 (options.completion (keptOf options files).length) {} =
        .ok harvest) :
    harvest.warnings.Perm ((keptFiles options.extensions files).filterMap SourceFile.failure?) := by
  have hfiles : (keptOf options files).map (·.file) = keptFiles options.extensions files :=
    (registered _ _).files_eq
  have hlength : (keptOf options files).length = (keptFiles options.extensions files).length := by
    rw [← hfiles, List.length_map]
  rw [gather_warnings hgather, hfiles, hlength]
  refine ((ho.completes _).filterMap _).trans ?_
  rw [filterMap_range]

theorem failures_sublist (files : List SourceFile) :
    ((files.filterMap SourceFile.failure?).map (·.path)).Sublist (files.map (·.path)) := by
  induction files with
  | nil => exact List.Sublist.refl _
  | cons f files ih =>
    rw [List.filterMap_cons, List.map_cons]
    cases hf : f.failure? with
    | none => exact ih.cons f.path
    | some w =>
      have hpath : w.path = f.path := by rw [SourceFile.failure?_eq_some_iff.mp hf]
      rw [List.map_cons, hpath]
      exact ih.cons_cons f.path

/-- The warnings name the kept files whose reading failed, each once, with the reason. -/
structure Warned (extensions : List Text) (files : List SourceFile) (warnings : List Warning) :
    Prop where
  perm : warnings.Perm ((keptFiles extensions files).filterMap SourceFile.failure?)
  kept : ∀ w ∈ warnings, isAccepted extensions w.path = true ∧
    files.find? (·.path = w.path) = some ⟨w.path, .unreadable w.reason⟩
  once : (warnings.map (·.path)).Nodup

theorem warned_of_perm {extensions : List Text} {files : List SourceFile} {warnings : List Warning}
    (h : warnings.Perm ((keptFiles extensions files).filterMap SourceFile.failure?)) :
    Warned extensions files warnings where
  perm := h
  kept := by
    intro w hw
    obtain ⟨f, hf, hfailure⟩ := List.mem_filterMap.mp (h.subset hw)
    rw [SourceFile.failure?_eq_some_iff.mp hfailure] at hf
    exact (mem_keptFiles_iff _ _ _).mp hf
  once := by
    rw [(h.map _).nodup_iff]
    exact (nodup_keptFiles extensions files).sublist (failures_sublist _)

/-! Registration and visits of filled files. -/

namespace Kept

def filled (k : Kept) : Kept :=
  { k with file := k.file.filled }

end Kept

theorem registerFile_filled (p : Progress) (kept : List Kept) (f : SourceFile) :
    registerFile (p, kept.map Kept.filled) f.filled =
      ((registerFile (p, kept) f).1, (registerFile (p, kept) f).2.map Kept.filled) := by
  rw [registerFile_eq, registerFile_eq, SourceFile.filled_path]
  split_ifs
  · rfl
  · simp only [List.map_append]
    rfl

theorem registerAll_filled (digits : DigitStream) (files : List SourceFile) :
    registerAll digits (files.map SourceFile.filled) =
      ((registerAll digits files).1, (registerAll digits files).2.map Kept.filled) := by
  have hfold : ∀ (p : Progress) (kept : List Kept),
      (files.map SourceFile.filled).foldl registerFile (p, kept.map Kept.filled) =
        ((files.foldl registerFile (p, kept)).1,
          (files.foldl registerFile (p, kept)).2.map Kept.filled) := by
    induction files with
    | nil => exact fun _ _ => rfl
    | cons f files ih =>
      intro p kept
      rw [List.map_cons, List.foldl_cons, List.foldl_cons, registerFile_filled]
      exact ih _ _
  exact hfold _ []

theorem acceptedFiles_filled (extensions : List Text) (files : List SourceFile) :
    acceptedFiles extensions (files.map SourceFile.filled) =
      (acceptedFiles extensions files).map SourceFile.filled := by
  unfold acceptedFiles
  rw [List.filter_map]
  congr 1
  apply List.filter_congr
  intro f _
  rw [Function.comp_apply, SourceFile.filled_path]

theorem foldl_visit_filled (kept : List Kept) (p : Progress) :
    (kept.map Kept.filled).foldl Progress.visit p = kept.foldl Progress.visit p := by
  rw [List.foldl_map]
  congr 1
  funext p k
  unfold Progress.visit Kept.filled
  rw [SourceFile.filled_content]

/-- The graph of a scan that visits all files, from their texts alone. -/
def graphOf (extensions : List Text) (digits : DigitStream) (files : List SourceFile) : Graph :=
  let (start, kept) := registerAll digits (acceptedFiles extensions files)
  let p := kept.foldl Progress.visit start
  { nodes := p.registry.nodes, edges := p.edges }

theorem graphOf_filled (extensions : List Text) (digits : DigitStream) (files : List SourceFile) :
    graphOf extensions digits (files.map SourceFile.filled) = graphOf extensions digits files := by
  unfold graphOf
  rw [acceptedFiles_filled, registerAll_filled]
  simp only
  rw [foldl_visit_filled]

theorem scan_graphOf {options : ScanOptions} (ho : options.Undisturbed) {files : List SourceFile}
    (hread : ∀ f ∈ files, ∀ message, f.reading ≠ .crash message) :
    ∃ result, scan options files = .ok result ∧
      result.graph = graphOf options.extensions options.digits files ∧
      Warned options.extensions files result.warnings := by
  obtain ⟨harvest, hgather, -, hscan⟩ := scan_visits ho hread
  refine ⟨_, hscan, ?_, warned_of_perm (warnings_perm ho hgather)⟩
  have hstart : (startOf options files harvest).Agrees
      (registerAll options.digits (acceptedFiles options.extensions files)).1 := ⟨rfl, rfl⟩
  have hvisits := Progress.agrees_foldl_visit hstart (keptOf options files)
  unfold resultOf graphOf
  simp only
  rw [hvisits.registry, hvisits.edges]
  rfl

/-- However many workers read the files and in whatever order the readings complete, the pool gets
through, and the scan gives the same graph. It is the graph that the files have when those that
cannot be read are empty; all that shows of them is a warning for each kept one. -/
theorem scan_eq_of_workers (extensions : List Text) (digits : DigitStream) {files : List SourceFile}
    (hread : ∀ f ∈ files, ∀ message, f.reading ≠ .crash message) :
    ∃ g : Graph, ∀ asked : Option Int,
      (∀ count p, Pool.Steps (Pool.size asked count) (Pool.start count) p →
        ∃ order, Pool.Steps (Pool.size asked count) p (Pool.finished order)) ∧
      ∀ completion : Nat → List Nat,
        (∀ count, Pool.Yields (Pool.size asked count) count (completion count)) →
        (∃ result, scan { extensions, digits, completion } files = .ok result ∧
          result.graph = g ∧ Warned extensions files result.warnings) ∧
        ∃ result, scan { extensions, digits, completion } (files.map SourceFile.filled) =
          .ok result ∧ result.graph = g := by
  refine ⟨graphOf extensions digits files, fun asked => ⟨fun count p hp => ?_, ?_⟩⟩
  · exact Pool.exists_steps_finished_of_start asked hp
  · intro completion hcompletion
    have ho : ({ extensions, digits, completion } : ScanOptions).Undisturbed :=
      ⟨fun _ => rfl, fun count => (hcompletion count).perm⟩
    have hfilled : ∀ f ∈ files.map SourceFile.filled, ∀ message, f.reading ≠ .crash message := by
      intro f hf
      obtain ⟨f, hmem, rfl⟩ := List.mem_map.mp hf
      exact SourceFile.filled_reads (hread f hmem)
    obtain ⟨result, hscan, hgraph, -⟩ := scan_graphOf ho hfilled
    exact ⟨scan_graphOf ho hread, result, hscan,
      hgraph.trans (graphOf_filled extensions digits files)⟩

/-- Readings that complete in reverse order. -/
def backwards (count : Nat) : List Nat :=
  (List.range count).reverse

theorem scan_eq_of_workers_smallProject :
    (∀ f ∈ smallProject, ∀ message, f.reading ≠ .crash message) ∧
    (∀ count, Pool.Yields (Pool.size (some 2) count) count (backwards count)) ∧
    ∃ result filled, scan { completion := backwards } smallProject = .ok result ∧
      scan { completion := backwards } (smallProject.map SourceFile.filled) = .ok filled ∧
      filled.graph = result.graph ∧
      result.warnings = [⟨"app/broken.py", "permission denied"⟩] := by
  have hyields : ∀ count, Pool.Yields (Pool.size (some 2) count) count (backwards count) :=
    fun count => Pool.yields_size (some 2) (List.reverse_perm _)
  obtain ⟨g, hg⟩ := scan_eq_of_workers defaultExtensions {} smallProject_reads
  obtain ⟨⟨result, hscan, hgraph, hwarned⟩, filled, hfilled, hsame⟩ :=
    (hg (some 2)).2 backwards hyields
  have hfailures : (keptFiles defaultExtensions smallProject).filterMap SourceFile.failure? =
      [⟨"app/broken.py", "permission denied"⟩] := by decide
  have hwarnings := hwarned.perm
  rw [hfailures, List.perm_singleton] at hwarnings
  exact ⟨smallProject_reads, hyields, result, filled, hscan, hfilled, hsame.trans hgraph.symm,
    hwarnings⟩

end Scan
end CodeGraph
