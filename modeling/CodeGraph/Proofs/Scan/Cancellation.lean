import CodeGraph.Proofs.Scan.Selection
import Mathlib.Data.Nat.Find

/-! Giving a scan up is all or nothing. A scan asks two questions for each kept file, one when its
reading completes and one at its turn. A yes to one of them ends it, and if there is none among them
nothing shows of the questions. -/
namespace CodeGraph

/-- The same but for the order of the warnings and for what was reported. -/
structure ScanResult.Matches (a b : ScanResult) : Prop where
  graph : a.graph = b.graph
  warnings : a.warnings.Perm b.warnings
  filesSeen : a.filesSeen = b.filesSeen
  filesAccepted : a.filesAccepted = b.filesAccepted

namespace Scan

theorem turnQuestions_of_calm {a : Nat → Bool} (ha : ∀ n, a n = false) (question count : Nat) :
    turnQuestions a question count = count := by
  induction count generalizing question with
  | zero => rfl
  | succ count ih => rw [turnQuestions_of_no (ha question), ih]

section

variable {options : ScanOptions} (ho : options.Undisturbed) {files : List SourceFile}
  (hread : ∀ f ∈ keptFiles options.extensions files, ∀ message, f.reading ≠ .crash message)
include ho hread

/-- A scan that nobody gives up asks twice for each kept file. -/
theorem questions_undisturbed :
    questions options files = 2 * (keptFiles options.extensions files).length := by
  have hfiles : (keptOf options files).map (·.file) = keptFiles options.extensions files :=
    (registered _ _).files_eq
  have hreads : ∀ f ∈ (keptOf options files).map (·.file), ∀ message, f.reading ≠ .crash message :=
    fun f hf => hread f (hfiles ▸ hf)
  obtain ⟨harvest, hharvest, -⟩ := gather_kept ho hreads
  have hlength (count : Nat) : (options.completion count).length = count := by
    rw [(ho.completes count).length_eq, List.length_range]
  rw [questions_of_ok hlength hharvest, turnQuestions_of_calm ho.goes_on, ← hfiles, List.length_map,
    Nat.two_mul]

/-- What a scan that nobody gives up finds, from the kept files alone. -/
theorem exists_scan_undisturbed : ∃ result, scan options files = .ok result ∧
    result.graph = graphOf options.extensions options.digits (keptFiles options.extensions files) ∧
    result.warnings.Perm ((keptFiles options.extensions files).filterMap SourceFile.failure?) ∧
    result.filesSeen = files.length ∧
    result.filesAccepted = (acceptedFiles options.extensions files).length := by
  obtain ⟨found, hfound, hgraph, hwarned⟩ := scan_graphOf ho hread
  have hsame := (scan_keptFiles options files).1
  rw [hfound] at hsame
  cases hscan : scan options files with
  | error fault =>
    rw [hscan] at hsame
    cases hsame
  | ok result =>
    rw [hscan] at hsame
    have hfindings : findings found = findings result := Except.ok.inj hsame
    have hkept : keptFiles options.extensions (keptFiles options.extensions files) =
        keptFiles options.extensions files := by
      rw [keptFiles_eq, acceptedFiles_keptFiles]
      exact addFirsts_of_nodup _ (nodup_keptFiles options.extensions files)
    obtain ⟨harvest, p, hdone⟩ := scan_eq_ok_iff.mp hscan
    refine ⟨result, rfl, ?_, ?_, ?_⟩
    · exact (congrArg Prod.fst hfindings).symm.trans hgraph
    · have hwarnings : found.warnings = result.warnings := congrArg Prod.snd hfindings
      rw [← hwarnings, ← hkept]
      exact hwarned.perm
    · rw [hdone.result_eq]
      exact ⟨rfl, rfl⟩

end

/-- Let the readings complete in any order, and let every kept file give a text or be unreadable. A
scan of `k` kept files is given up if one of the first `2 * k` answers is yes. Otherwise it returns
what the same scan returns when nobody asks, whatever the order of the readings there. -/
theorem scan_cancelled_or_matches {options : ScanOptions}
    (hcompletes : ∀ count, (options.completion count).Perm (List.range count))
    {files : List SourceFile}
    (hread : ∀ f ∈ keptFiles options.extensions files, ∀ message, f.reading ≠ .crash message) :
    ((∃ n < 2 * (keptFiles options.extensions files).length, options.isCancelled n = true) →
      scan options files = .error .cancelled) ∧
    ((∀ n < 2 * (keptFiles options.extensions files).length, options.isCancelled n = false) →
      ∃ result, scan options files = .ok result ∧
        ∀ completion : Nat → List Nat, (∀ count, (completion count).Perm (List.range count)) →
          ∃ undisturbed,
            scan { extensions := options.extensions, digits := options.digits, completion } files =
              .ok undisturbed ∧ result.Matches undisturbed) := by
  let calm : ScanOptions := { options with isCancelled := fun _ => false }
  have hcalm : calm.Undisturbed := ⟨fun _ => rfl, hcompletes⟩
  have hlength (count : Nat) : (calm.completion count).length = count := by
    rw [(hcompletes count).length_eq, List.length_range]
  have hquestions : questions calm files = 2 * (keptFiles options.extensions files).length :=
    questions_undisturbed hcalm hread
  constructor
  · intro hyes
    -- Up to the first yes the scan goes the way of one that is not given up.
    obtain ⟨hn, hfirst⟩ := Nat.find_spec hyes
    have hearlier : ∀ m < Nat.find hyes, calm.isCancelled m = options.isCancelled m := by
      intro m hm
      have hno := Nat.find_min hyes hm
      rw [not_and, Bool.not_eq_true] at hno
      exact (hno (hm.trans hn)).symm
    have hasked : Nat.find hyes < questions calm files := by
      rw [hquestions]
      exact hn
    have hends : scan { calm with isCancelled := options.isCancelled } files = .error .cancelled :=
      scan_cancelled_of_lt_questions hlength hasked hearlier hfirst
    exact hends
  · intro hno
    have hscan : scan options files = scan calm files :=
      (scan_congr_of_questions hlength fun n hn => (hno n (hquestions ▸ hn)).symm).1
    obtain ⟨result, hresult, hgraph, hwarnings, hseen, haccepted⟩ :=
      exists_scan_undisturbed hcalm hread
    refine ⟨result, hscan.trans hresult, fun completion hcompletion => ?_⟩
    let other : ScanOptions :=
      { extensions := options.extensions, digits := options.digits, completion }
    have hother : other.Undisturbed := ⟨fun _ => rfl, hcompletion⟩
    obtain ⟨undisturbed, hscan', hgraph', hwarnings', hseen', haccepted'⟩ :=
      exists_scan_undisturbed hother hread
    exact ⟨undisturbed, hscan', hgraph.trans hgraph'.symm, hwarnings.trans hwarnings'.symm,
      hseen.trans hseen'.symm, haccepted.trans haccepted'.symm⟩

/-- Three files are kept, so that the answer number 5 is the last one that counts. -/
theorem scan_cancelled_or_matches_smallProject :
    (∀ count, (backwards count).Perm (List.range count)) ∧
    (∀ f ∈ keptFiles defaultExtensions smallProject, ∀ message, f.reading ≠ .crash message) ∧
    scan { completion := backwards, isCancelled := (· = 5) } smallProject = .error .cancelled ∧
    ∃ result undisturbed,
      scan { completion := backwards, isCancelled := (5 < ·) } smallProject = .ok result ∧
      scan {} smallProject = .ok undisturbed ∧ result.Matches undisturbed := by
  have hbackwards (count : Nat) : (backwards count).Perm (List.range count) := List.reverse_perm _
  have hread : ∀ f ∈ keptFiles defaultExtensions smallProject, ∀ message,
      f.reading ≠ .crash message := fun f hf =>
    smallProject_reads f ((keptFiles_sublist _ _).subset hf)
  have hlength : (keptFiles defaultExtensions smallProject).length = 3 := by decide
  let last : ScanOptions := { completion := backwards, isCancelled := (· = 5) }
  let late : ScanOptions := { completion := backwards, isCancelled := (5 < ·) }
  have hlast : ∃ n < 2 * (keptFiles last.extensions smallProject).length,
      last.isCancelled n = true := ⟨5, hlength ▸ by decide, rfl⟩
  have hlate : ∀ n < 2 * (keptFiles late.extensions smallProject).length,
      late.isCancelled n = false := by
    intro n hn
    change n < 2 * (keptFiles defaultExtensions smallProject).length at hn
    exact decide_eq_false (by omega)
  obtain ⟨result, hresult, hmatches⟩ := (scan_cancelled_or_matches hbackwards hread).2 hlate
  obtain ⟨undisturbed, hscan, hsame⟩ := hmatches List.range fun _ => List.Perm.refl _
  exact ⟨hbackwards, hread, (scan_cancelled_or_matches hbackwards hread).1 hlast, result,
    undisturbed, hresult, hscan, hsame⟩

end Scan
end CodeGraph
