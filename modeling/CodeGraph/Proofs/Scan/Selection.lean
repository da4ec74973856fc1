import CodeGraph.Proofs.Scan.Questions
import CodeGraph.Proofs.Scan.ReadingOrder
import Mathlib.Data.List.Induction

/-! Files that are not kept leave no trace: what a scan gives, how it ends and how often it asks
whether to give up are the same when they are taken away before. -/
namespace CodeGraph

namespace Scan

theorem keptFiles_eq (extensions : List Text) (files : List SourceFile) :
    keptFiles extensions files = addFirsts (·.path) [] (acceptedFiles extensions files) := rfl

theorem acceptedFiles_keptFiles (extensions : List Text) (files : List SourceFile) :
    acceptedFiles extensions (keptFiles extensions files) = keptFiles extensions files :=
  List.filter_eq_self.mpr fun _ hf => ((mem_keptFiles_iff _ _ _).mp hf).1

/-- A file whose path is taken changes nothing but the reports. -/
theorem registerAll_addFirsts (digits : DigitStream) (files : List SourceFile) :
    (registerAll digits (addFirsts (·.path) [] files)).1.Agrees (registerAll digits files).1 ∧
      (registerAll digits (addFirsts (·.path) [] files)).2 = (registerAll digits files).2 := by
  induction files using List.reverseRecOn with
  | nil => exact ⟨⟨rfl, rfl⟩, rfl⟩
  | append_singleton files f ih =>
    obtain ⟨hagrees, hkept⟩ := ih
    have hlast : registerAll digits (files ++ [f]) = registerFile (registerAll digits files) f :=
      List.foldl_append
    have hindexed : (registerAll digits files).1.registry.isIndexed f.path = true ↔
        f.path ∈ (addFirsts (·.path) [] files).map (·.path) := by
      rw [Registry.isIndexed_iff, (registered digits files).keys]
    rw [hlast, addFirsts_append]
    generalize registerAll digits files = state at *
    obtain ⟨p, kept⟩ := state
    rw [registerFile_eq]
    split_ifs with hold
    · rw [addFirsts_old _ (hindexed.mp hold)]
      exact ⟨⟨hagrees.registry, hagrees.edges⟩, hkept⟩
    · rw [addFirsts_new _ fun hmem => hold (hindexed.mpr hmem)]
      have hlast' : registerAll digits (addFirsts (·.path) [] files ++ [f]) =
          registerFile (registerAll digits (addFirsts (·.path) [] files)) f := List.foldl_append
      rw [hlast']
      generalize registerAll digits (addFirsts (·.path) [] files) = state' at *
      obtain ⟨p', kept'⟩ := state'
      have hregistry : p'.registry = p.registry := hagrees.registry
      obtain rfl : kept' = kept := hkept
      rw [registerFile_eq, hregistry, if_neg hold]
      exact ⟨⟨rfl, hagrees.edges⟩, rfl⟩

theorem agrees_turn {p q : Progress} (h : p.Agrees q) (texts : List (Nat × Text)) (number : Nat)
    (k : Kept) : (turn texts number k p).Agrees (turn texts number k q) := by
  unfold turn
  split
  · exact h
  · exact h
  · exact Progress.agrees_detect (Progress.agrees_foldl_followImport h k.node _) _ k.node

/-- What was reported before does not show in what the files add. -/
theorem analyzeAll_agrees {p q : Progress} (h : p.Agrees q) (isCancelled : Nat → Bool)
    (texts : List (Nat × Text)) (question number : Nat) (kept : List Kept) :
    (analyzeAll isCancelled texts question number kept p).map (fun p => (p.registry, p.edges)) =
      (analyzeAll isCancelled texts question number kept q).map fun q => (q.registry, q.edges) := by
  induction kept generalizing question number p q with
  | nil => exact congrArg Except.ok (Prod.ext h.registry h.edges)
  | cons k kept ih =>
    rw [analyzeAll_cons, analyzeAll_cons]
    split_ifs
    · rfl
    · exact ih (agrees_turn h texts number k) _ _

theorem keptOf_keptFiles (options : ScanOptions) (files : List SourceFile) :
    keptOf options (keptFiles options.extensions files) = keptOf options files := by
  unfold keptOf
  rw [acceptedFiles_keptFiles, keptFiles_eq]
  exact (registerAll_addFirsts options.digits _).2

theorem startOf_keptFiles (options : ScanOptions) (files : List SourceFile) (harvest : Harvest) :
    (startOf options (keptFiles options.extensions files) harvest).Agrees
      (startOf options files harvest) := by
  have hagrees := (registerAll_addFirsts options.digits
    (acceptedFiles options.extensions files)).1
  unfold startOf
  rw [acceptedFiles_keptFiles, keptFiles_eq]
  exact ⟨hagrees.registry, hagrees.edges⟩

theorem harvestOf_keptFiles (options : ScanOptions) (files : List SourceFile) :
    harvestOf options (keptFiles options.extensions files) = harvestOf options files := by
  unfold harvestOf
  rw [keptOf_keptFiles]

theorem questions_keptFiles (options : ScanOptions) (files : List SourceFile) :
    questions options (keptFiles options.extensions files) = questions options files := by
  unfold questions harvestQuestions
  rw [harvestOf_keptFiles, keptOf_keptFiles]

/-- The graph and the warnings of a result. -/
def findings (result : ScanResult) : Graph × List Warning :=
  (result.graph, result.warnings)

theorem findings_resultOf (options : ScanOptions) (files : List SourceFile) (harvest : Harvest)
    (end_ : Except ScanFault Progress) :
    (end_.map (resultOf options files harvest)).map findings =
      (end_.map fun p => (p.registry, p.edges)).map fun found =>
        ({ nodes := found.1.nodes, edges := found.2 }, harvest.warnings) := by
  cases end_ <;> rfl

/-- Taking away every file that is not accepted or repeats the path of an accepted file before it
changes neither the graph with its identifiers, nor the warnings, nor the fault that a scan may end
with, nor the number of questions whether to give up. -/
theorem scan_keptFiles (options : ScanOptions) (files : List SourceFile) :
    (scan options (keptFiles options.extensions files)).map findings =
        (scan options files).map findings ∧
      questions options (keptFiles options.extensions files) = questions options files := by
  refine ⟨?_, questions_keptFiles options files⟩
  have hharvests := harvestOf_keptFiles options files
  cases hharvest : harvestOf options files with
  | error fault => rw [scan_of_error hharvest, scan_of_error (hharvests.trans hharvest)]
  | ok harvest =>
    rw [scan_of_ok hharvest, scan_of_ok (hharvests.trans hharvest), findings_resultOf,
      findings_resultOf, keptOf_keptFiles,
      analyzeAll_agrees (startOf_keptFiles options files harvest)]

end Scan
end CodeGraph
