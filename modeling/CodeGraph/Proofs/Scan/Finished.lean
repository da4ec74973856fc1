import CodeGraph.Proofs.Scan.Follows
import CodeGraph.Proofs.Scan.Questions

/-! A scan that gave a result went its way undisturbed: no question that it asked got a yes and no
kept file crashed it. So its graph follows its outline, whatever could have ended it. -/
namespace CodeGraph
namespace Scan

section

variable {a : Nat → Bool} {files : List SourceFile} {order : List Nat} {question : Nat}
  {h h' : Harvest}

theorem gather_calm (hgather : gather a files question order h = .ok h') :
    gather (fun _ => false) files question order h = .ok h' := by
  induction order generalizing question h with
  | nil => exact hgather
  | cons i order ih =>
    rw [gather_cons] at hgather ⊢
    split_ifs at hgather
    obtain ⟨next, hadd, hrest⟩ := bind_eq_ok_iff.mp hgather
    exact bind_eq_ok_iff.mpr ⟨next, hadd, ih hrest⟩

theorem reading_ne_of_add_eq_ok {i : Nat} (hadd : h.add files i = .ok h') {f : SourceFile}
    (hf : files[i]? = some f) (message : Text) : f.reading ≠ .crash message := by
  obtain ⟨path, reading⟩ := f
  rintro rfl
  rw [Harvest.add, hf] at hadd
  cases hadd

theorem reading_ne_of_gather_eq_ok (hgather : gather a files question order h = .ok h') {i : Nat}
    (hi : i ∈ order) {f : SourceFile} (hf : files[i]? = some f) (message : Text) :
    f.reading ≠ .crash message := by
  induction order generalizing question h with
  | nil => exact absurd hi List.not_mem_nil
  | cons j order ih =>
    rw [gather_cons] at hgather
    split_ifs at hgather
    obtain ⟨next, hadd, hrest⟩ := bind_eq_ok_iff.mp hgather
    rcases List.mem_cons.mp hi with rfl | hi
    · exact reading_ne_of_add_eq_ok hadd hf message
    · exact ih hrest hi

theorem turn_eq_visit {texts : List (Nat × Text)} {number : Nat} {k : Kept}
    (htext : texts.lookup number = k.file.reading.text?) (p : Progress) :
    turn texts number k p = p.visit k := by
  have hcontent : k.file.content = k.file.reading.text?.getD [] := rfl
  unfold turn Progress.visit
  rw [htext, hcontent]
  cases k.file.reading.text? with
  | none => exact (Progress.analyze_nil ..).symm
  | some content =>
    cases content with
    | nil => exact (Progress.analyze_nil ..).symm
    | cons c content => rfl

/-- If all files had their turn, so had the first few, and each of them was visited. -/
theorem analyzeAll_take {texts : List (Nat × Text)} {number : Nat} {kept : List Kept}
    {p p' : Progress} (hanalyze : analyzeAll a texts question number kept p = .ok p')
    (htexts : ∀ i, ∀ k ∈ kept[i]?, texts.lookup (number + i) = k.file.reading.text?) (count : Nat) :
    analyzeAll a texts question number (kept.take count) p =
      .ok ((kept.take count).foldl Progress.visit p) := by
  induction kept generalizing question number p count with
  | nil =>
    rw [List.take_nil]
    rfl
  | cons k kept ih =>
    cases count with
    | zero => rfl
    | succ count =>
      have hfirst : texts.lookup number = k.file.reading.text? := htexts 0 k rfl
      have hrest : ∀ i, ∀ k ∈ kept[i]?, texts.lookup (number + 1 + i) = k.file.reading.text? := by
        intro i k' hk'
        rw [Nat.add_right_comm]
        exact htexts (i + 1) k' hk'
      rw [analyzeAll_cons] at hanalyze
      split_ifs at hanalyze with ha
      rw [turn_eq_visit hfirst] at hanalyze
      rw [List.take_succ_cons, analyzeAll_cons, if_neg ha, turn_eq_visit hfirst]
      exact ih hanalyze hrest count

end

variable {options : ScanOptions} (hcompletes : ∀ k, (options.completion k).Perm (List.range k))
  {files : List SourceFile} {result : ScanResult} (hscan : scan options files = .ok result)
include hcompletes hscan

/-- A scan that gave a result has visited the kept files in order. -/
theorem visits_of_ok : ∃ harvest,
    (∀ number, before options files number = .ok (((keptOf options files).take number).foldl
      Progress.visit (startOf options files harvest))) ∧
    result = resultOf options files harvest
      ((keptOf options files).foldl Progress.visit (startOf options files harvest)) := by
  obtain ⟨harvest, p, hdone⟩ := scan_eq_ok_iff.mp hscan
  have hcalm : ({ options with isCancelled := fun _ => false } : ScanOptions).Undisturbed :=
    ⟨fun _ => rfl, hcompletes⟩
  have hread : ∀ f ∈ (keptOf options files).map (·.file), ∀ message,
      f.reading ≠ .crash message := by
    intro f hf
    obtain ⟨i, hi, hfile⟩ := List.mem_iff_getElem.mp hf
    rw [List.length_map] at hi
    have hmem : i ∈ options.completion (keptOf options files).length := by
      rw [(hcompletes _).mem_iff, List.mem_range]
      exact hi
    exact reading_ne_of_gather_eq_ok hdone.gathered hmem (List.getElem?_eq_some_iff.mpr ⟨_, hfile⟩)
  obtain ⟨harvest', hgather, htexts⟩ := gather_kept hcalm hread
  obtain rfl : harvest' = harvest :=
    Except.ok.inj (hgather.symm.trans (gather_calm hdone.gathered))
  have htake := analyzeAll_take hdone.analyzed htexts
  have hall := htake (keptOf options files).length
  rw [List.take_length, hdone.analyzed] at hall
  refine ⟨harvest', fun number => ?_, ?_⟩
  · rw [before_eq, hdone.gathered]
    exact htake number
  · rw [hdone.result_eq, Except.ok.inj hall]

theorem before_turn_of_ok {earlier later : List SourceFile}
    (hkept : keptFiles options.extensions files = earlier ++ later) :
    ∃ p, before options files earlier.length = .ok p ∧
      Outlined ((keptFiles options.extensions files).map (·.path)) earlier p := by
  obtain ⟨harvest, hbefore, -⟩ := visits_of_ok hcompletes hscan
  have hreg := registered options.digits (acceptedFiles options.extensions files)
  have hstart : Registered (acceptedFiles options.extensions files)
      (startOf options files harvest, keptOf options files) :=
    ⟨hreg.files_eq, hreg.entries, hreg.anonymous, hreg.distinct, hreg.edges⟩
  have houtlined := hstart.outlined earlier.length
  have hdone : (keptFiles options.extensions files).take earlier.length = earlier := by
    rw [hkept, List.take_left]
  change Outlined ((keptFiles options.extensions files).map (·.path))
    ((keptFiles options.extensions files).take earlier.length) _ at houtlined
  rw [hdone] at houtlined
  exact ⟨_, hbefore _, houtlined⟩

/-- The graph of a result follows its outline. -/
theorem follows_of_ok : result.graph.Follows (keptFiles options.extensions files) := by
  obtain ⟨harvest, hbefore, hresult⟩ := visits_of_ok hcompletes hscan
  have hkept := (List.append_nil (keptFiles options.extensions files)).symm
  obtain ⟨p, hp, houtlined⟩ := before_turn_of_ok hcompletes hscan hkept
  have hlength : (keptOf options files).length =
      (keptFiles options.extensions files).length := by
    rw [keptFiles, ← (registered options.digits _).files_eq, List.length_map]
    rfl
  have hall := (hbefore _).symm.trans hp
  rw [← hlength, List.take_length] at hall
  rw [hresult]
  exact (Except.ok.inj hall) ▸ houtlined.follows

end Scan
end CodeGraph
