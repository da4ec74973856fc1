import CodeGraph.Proofs.Scan.Outcome
import Mathlib.Tactic.SplitIfs

/-! How often a scan asks whether to give up: before each reading that it takes in and before each
file that it comes to, until an answer or a crash ends it. The answers that it asks for decide the
outcome, and each of them could end it. -/
namespace CodeGraph
namespace Scan

/-- What a harvest becomes when the reading of this number completes. -/
def Harvest.add (files : List SourceFile) (h : Harvest) (i : Nat) : Except ScanFault Harvest :=
  match files[i]? with
  | none => .ok h
  | some ⟨_, .text content⟩ => .ok { h with texts := (i, content) :: h.texts }
  | some ⟨path, .unreadable reason⟩ => .ok { h with warnings := h.warnings ++ [⟨path, reason⟩] }
  | some ⟨_, .crash message⟩ => .error (.crashed message)

/-- What the turn of a file adds, with the text that was read under its number. -/
def turn (texts : List (Nat × Text)) (number : Nat) (k : Kept) (p : Progress) : Progress :=
  match texts.lookup number with
  | none | some [] => p
  | some content =>
    p.analyze content (Language.ofExtension? (Path.extension k.node.path)) k.node

/-- The questions that are asked while the readings are taken in. -/
def gatherQuestions (isCancelled : Nat → Bool) (files : List SourceFile) :
    (question : Nat) → (order : List Nat) → Harvest → Nat
  | _, [], _ => 0
  | question, i :: order, h =>
    if isCancelled question then 1
    else
      match h.add files i with
      | .ok h => gatherQuestions isCancelled files (question + 1) order h + 1
      | .error _ => 1

/-- The questions that are asked while this many files have their turn. -/
def turnQuestions (isCancelled : Nat → Bool) : (question count : Nat) → Nat
  | _, 0 => 0
  | question, count + 1 =>
    if isCancelled question then 1 else turnQuestions isCancelled (question + 1) count + 1

section

variable (options : ScanOptions) (files : List SourceFile)

/-- The texts and warnings that the readings of a scan give. -/
def harvestOf : Except ScanFault Harvest :=
  gather options.isCancelled ((keptOf options files).map (·.file)) 0
    (options.completion (keptOf options files).length) {}

def harvestQuestions : Nat :=
  gatherQuestions options.isCancelled ((keptOf options files).map (·.file)) 0
    (options.completion (keptOf options files).length) {}

/-- The number of questions that a scan asks. No file has its turn if the readings end the scan. -/
def questions : Nat :=
  harvestQuestions options files +
    match harvestOf options files with
    | .ok _ =>
      turnQuestions options.isCancelled (keptOf options files).length (keptOf options files).length
    | .error _ => 0

theorem scan_eq_of_harvestOf : scan options files = do
    let harvest ← harvestOf options files
    let p ← analyzeAll options.isCancelled harvest.texts (keptOf options files).length 0
      (keptOf options files) (startOf options files harvest)
    return resultOf options files harvest p := rfl

end

section

variable {a b : Nat → Bool} {files : List SourceFile} {order : List Nat}

theorem gather_cons (a : Nat → Bool) (files : List SourceFile) (question i : Nat) (order : List Nat)
    (h : Harvest) : gather a files question (i :: order) h =
      if a question then .error .cancelled
      else h.add files i >>= gather a files (question + 1) order := by
  unfold gather Harvest.add
  split_ifs
  · rfl
  · cases files[i]? with
    | none => rfl
    | some f =>
      obtain ⟨path, reading⟩ := f
      cases reading <;> rfl

theorem analyzeAll_cons (a : Nat → Bool) (texts : List (Nat × Text)) (question number : Nat)
    (k : Kept) (kept : List Kept) (p : Progress) :
    analyzeAll a texts question number (k :: kept) p =
      if a question then .error .cancelled
      else analyzeAll a texts (question + 1) (number + 1) kept (turn texts number k p) := rfl

theorem gatherQuestions_of_yes {question : Nat} (ha : a question = true) (i : Nat) (h : Harvest) :
    gatherQuestions a files question (i :: order) h = 1 := by
  rw [gatherQuestions, if_pos ha]

theorem gatherQuestions_of_ok {question i : Nat} (ha : a question = false) {h h' : Harvest}
    (hadd : h.add files i = .ok h') : gatherQuestions a files question (i :: order) h =
      gatherQuestions a files (question + 1) order h' + 1 := by
  rw [gatherQuestions, ha, hadd]
  rfl

theorem gatherQuestions_of_error {question i : Nat} (ha : a question = false) {h : Harvest}
    {fault : ScanFault} (hadd : h.add files i = .error fault) :
    gatherQuestions a files question (i :: order) h = 1 := by
  rw [gatherQuestions, ha, hadd]
  rfl

theorem gatherQuestions_pos (a : Nat → Bool) (files : List SourceFile) (question i : Nat)
    (order : List Nat) (h : Harvest) : 0 < gatherQuestions a files question (i :: order) h := by
  unfold gatherQuestions
  split_ifs
  · exact Nat.one_pos
  · split
    · exact Nat.succ_pos _
    · exact Nat.one_pos

/-- One question is asked for each reading that is taken in. -/
theorem gatherQuestions_eq {question : Nat} {h h' : Harvest}
    (hgather : gather a files question order h = .ok h') :
    gatherQuestions a files question order h = order.length := by
  induction order generalizing question h with
  | nil => rfl
  | cons i order ih =>
    rw [gather_cons] at hgather
    split_ifs at hgather with ha
    obtain ⟨next, hadd, hrest⟩ := bind_eq_ok_iff.mp hgather
    rw [gatherQuestions_of_ok (Bool.eq_false_iff.mpr ha) hadd, ih hrest, List.length_cons]

/-- Answers that are not asked for do not count. -/
theorem gather_congr {question : Nat} {h : Harvest}
    (hab : ∀ n, question ≤ n → n < question + gatherQuestions a files question order h →
      a n = b n) :
    gather a files question order h = gather b files question order h ∧
      gatherQuestions a files question order h = gatherQuestions b files question order h := by
  induction order generalizing question h with
  | nil => exact ⟨rfl, rfl⟩
  | cons i order ih =>
    have hpos := gatherQuestions_pos a files question i order h
    have hfirst : a question = b question := hab question (by omega) (by omega)
    rw [gather_cons, gather_cons, ← hfirst]
    cases ha : a question with
    | true =>
      have hb : b question = true := hfirst.symm.trans ha
      rw [gatherQuestions_of_yes ha, gatherQuestions_of_yes hb]
      exact ⟨rfl, rfl⟩
    | false =>
      have hb : b question = false := hfirst.symm.trans ha
      cases hadd : h.add files i with
      | error fault =>
        rw [gatherQuestions_of_error ha hadd, gatherQuestions_of_error hb hadd]
        exact ⟨rfl, rfl⟩
      | ok next =>
        rw [gatherQuestions_of_ok ha hadd] at hab ⊢
        rw [gatherQuestions_of_ok hb hadd]
        have hrest : ∀ n, question + 1 ≤ n →
            n < question + 1 + gatherQuestions a files (question + 1) order next → a n = b n :=
          fun n hle hlt => hab n (by omega) (by omega)
        exact ⟨(ih hrest).1, congrArg (· + 1) (ih hrest).2⟩

/-- A yes to any question that is asked ends the taking in. -/
theorem gather_cancelled {question n : Nat} {h : Harvest} (hle : question ≤ n)
    (hlt : n < question + gatherQuestions a files question order h)
    (hab : ∀ m, question ≤ m → m < n → a m = b m) (hyes : b n = true) :
    gather b files question order h = .error .cancelled := by
  induction order generalizing question h with
  | nil => exact absurd hlt (Nat.not_lt.mpr hle)
  | cons i order ih =>
    rw [gather_cons]
    by_cases hn : n = question
    · rw [← hn, if_pos hyes]
    · have hfirst : a question = b question := hab question (by omega) (by omega)
      cases ha : a question with
      | true =>
        rw [gatherQuestions_of_yes ha] at hlt
        omega
      | false =>
        cases hadd : h.add files i with
        | error fault =>
          rw [gatherQuestions_of_error ha hadd] at hlt
          omega
        | ok next =>
          rw [gatherQuestions_of_ok ha hadd] at hlt
          rw [← hfirst, ha]
          exact ih (by omega) (by omega) fun m hm => hab m (by omega)

theorem turnQuestions_of_yes {question : Nat} (ha : a question = true) (count : Nat) :
    turnQuestions a question (count + 1) = 1 := by
  rw [turnQuestions, if_pos ha]

theorem turnQuestions_of_no {question : Nat} (ha : a question = false) (count : Nat) :
    turnQuestions a question (count + 1) = turnQuestions a (question + 1) count + 1 := by
  rw [turnQuestions, ha]
  rfl

theorem turnQuestions_pos (a : Nat → Bool) (question count : Nat) :
    0 < turnQuestions a question (count + 1) := by
  unfold turnQuestions
  split_ifs
  · exact Nat.one_pos
  · exact Nat.succ_pos _

variable {texts : List (Nat × Text)} {kept : List Kept}

theorem analyzeAll_congr (question number : Nat) (p : Progress)
    (hab : ∀ n, question ≤ n → n < question + turnQuestions a question kept.length → a n = b n) :
    analyzeAll a texts question number kept p = analyzeAll b texts question number kept p ∧
      turnQuestions a question kept.length = turnQuestions b question kept.length := by
  induction kept generalizing question number p with
  | nil => exact ⟨rfl, rfl⟩
  | cons k kept ih =>
    rw [List.length_cons] at hab ⊢
    have hpos := turnQuestions_pos a question kept.length
    have hfirst : a question = b question := hab question (by omega) (by omega)
    rw [analyzeAll_cons, analyzeAll_cons, ← hfirst]
    cases ha : a question with
    | true =>
      rw [turnQuestions_of_yes ha, turnQuestions_of_yes (hfirst.symm.trans ha)]
      exact ⟨rfl, rfl⟩
    | false =>
      rw [turnQuestions_of_no ha] at hab ⊢
      rw [turnQuestions_of_no (hfirst.symm.trans ha)]
      obtain ⟨hanalyze, hcount⟩ := ih (question + 1) (number + 1) (turn texts number k p)
        fun n hle hlt => hab n (by omega) (by omega)
      exact ⟨hanalyze, congrArg (· + 1) hcount⟩

theorem analyzeAll_cancelled {question n : Nat} (number : Nat) (p : Progress) (hle : question ≤ n)
    (hlt : n < question + turnQuestions a question kept.length)
    (hab : ∀ m, question ≤ m → m < n → a m = b m) (hyes : b n = true) :
    analyzeAll b texts question number kept p = .error .cancelled := by
  induction kept generalizing question number p with
  | nil => exact absurd hlt (Nat.not_lt.mpr hle)
  | cons k kept ih =>
    rw [List.length_cons] at hlt
    rw [analyzeAll_cons]
    by_cases hn : n = question
    · rw [← hn, if_pos hyes]
    · have hfirst : a question = b question := hab question (by omega) (by omega)
      cases ha : a question with
      | true =>
        rw [turnQuestions_of_yes ha] at hlt
        omega
      | false =>
        rw [turnQuestions_of_no ha] at hlt
        rw [← hfirst, ha]
        exact ih _ _ (by omega) (by omega) fun m hm => hab m (by omega)

end

section

variable {options : ScanOptions} {files : List SourceFile} {answers : Nat → Bool}

theorem questions_of_error {fault : ScanFault} (hharvest : harvestOf options files = .error fault) :
    questions options files = harvestQuestions options files := by
  rw [questions, hharvest, Nat.add_zero]

theorem scan_of_error {fault : ScanFault} (hharvest : harvestOf options files = .error fault) :
    scan options files = .error fault := by
  rw [scan_eq_of_harvestOf, hharvest]
  rfl

theorem scan_of_ok {harvest : Harvest} (hharvest : harvestOf options files = .ok harvest) :
    scan options files = (analyzeAll options.isCancelled harvest.texts (keptOf options files).length
      0 (keptOf options files) (startOf options files harvest)).map
        (resultOf options files harvest) := by
  rw [scan_eq_of_harvestOf, hharvest]
  rfl

theorem harvestOf_congr
    (hagree : ∀ n < harvestQuestions options files, options.isCancelled n = answers n) :
    harvestOf { options with isCancelled := answers } files = harvestOf options files ∧
      harvestQuestions { options with isCancelled := answers } files =
        harvestQuestions options files := by
  have hsame : ∀ n, 0 ≤ n → n < 0 + harvestQuestions options files →
      options.isCancelled n = answers n := fun n _ hn => hagree n (by omega)
  exact ⟨(gather_congr hsame).1.symm, (gather_congr hsame).2.symm⟩

variable (hlength : ∀ count, (options.completion count).length = count)
include hlength

theorem harvestQuestions_of_ok {harvest : Harvest}
    (hharvest : harvestOf options files = .ok harvest) :
    harvestQuestions options files = (keptOf options files).length :=
  (gatherQuestions_eq hharvest).trans (hlength _)

theorem questions_of_ok {harvest : Harvest} (hharvest : harvestOf options files = .ok harvest) :
    questions options files = (keptOf options files).length +
      turnQuestions options.isCancelled (keptOf options files).length
        (keptOf options files).length := by
  rw [questions, hharvest, harvestQuestions_of_ok hlength hharvest]

/-- The answers that a scan asks for decide how it ends. -/
theorem scan_congr_of_questions
    (hagree : ∀ n < questions options files, options.isCancelled n = answers n) :
    scan { options with isCancelled := answers } files = scan options files ∧
      questions { options with isCancelled := answers } files = questions options files := by
  have hasked : ∀ n < harvestQuestions options files, options.isCancelled n = answers n :=
    fun n hn => hagree n (Nat.lt_add_right _ hn)
  have hharvests := harvestOf_congr hasked
  cases hharvest : harvestOf options files with
  | error fault =>
    have hharvest' := hharvests.1.trans hharvest
    rw [scan_of_error hharvest, scan_of_error hharvest', questions_of_error hharvest,
      questions_of_error hharvest']
    exact ⟨rfl, hharvests.2⟩
  | ok harvest =>
    have hharvest' := hharvests.1.trans hharvest
    have hquestions := questions_of_ok hlength hharvest
    have hturns : analyzeAll options.isCancelled harvest.texts (keptOf options files).length 0
        (keptOf options files) (startOf options files harvest) =
          analyzeAll answers harvest.texts (keptOf options files).length 0 (keptOf options files)
            (startOf options files harvest) ∧
        turnQuestions options.isCancelled (keptOf options files).length
          (keptOf options files).length =
            turnQuestions answers (keptOf options files).length (keptOf options files).length :=
      analyzeAll_congr _ 0 _ fun n _ hn => hagree n (hquestions ▸ hn)
    rw [scan_of_ok hharvest, scan_of_ok hharvest', hquestions, hturns.2]
    exact ⟨congrArg (Except.map _) hturns.1.symm, questions_of_ok hlength hharvest'⟩

/-- A yes to any question that a scan asks ends it. -/
theorem scan_cancelled_of_lt_questions {n : Nat} (hn : n < questions options files)
    (hagree : ∀ m < n, options.isCancelled m = answers m) (hyes : answers n = true) :
    scan { options with isCancelled := answers } files = .error .cancelled := by
  by_cases hearly : n < harvestQuestions options files
  · exact scan_of_error (gather_cancelled (Nat.zero_le n) ((Nat.zero_add _).symm ▸ hearly)
      (fun m _ hm => hagree m hm) hyes)
  · have hasked : ∀ m < harvestQuestions options files, options.isCancelled m = answers m :=
      fun m hm => hagree m (by omega)
    have hharvests := harvestOf_congr hasked
    cases hharvest : harvestOf options files with
    | error fault =>
      rw [questions_of_error hharvest] at hn
      exact absurd hn hearly
    | ok harvest =>
      rw [questions_of_ok hlength hharvest] at hn
      rw [harvestQuestions_of_ok hlength hharvest] at hearly
      have hturns : analyzeAll answers harvest.texts (keptOf options files).length 0
          (keptOf options files) (startOf options files harvest) = .error .cancelled :=
        analyzeAll_cancelled 0 _ (Nat.not_lt.mp hearly) hn (fun m _ hm => hagree m hm) hyes
      rw [scan_of_ok (hharvests.1.trans hharvest)]
      exact congrArg (Except.map _) hturns

end
end Scan
end CodeGraph
