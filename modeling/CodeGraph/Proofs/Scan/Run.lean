import CodeGraph.Proofs.Scan.Outcome
import CodeGraph.Proofs.Scan.Registration

/-! A scan that nothing ends early analyzes every kept file once, in input order and with its own
text, whatever the order in which the readings complete. -/
namespace CodeGraph

namespace Reading

def text? : Reading → Option Text
  | .text content => some content
  | .unreadable _ | .crash _ => none

end Reading

namespace SourceFile

/-- The text of a file, empty if it cannot be read. -/
def content (f : SourceFile) : Text :=
  f.reading.text?.getD []

theorem content_cases (f : SourceFile) :
    (∃ content, f.reading = .text content ∧ f.content = content) ∨
      (∀ content, f.reading ≠ .text content) ∧ f.content = [] := by
  obtain ⟨path, reading⟩ := f
  cases reading with
  | text content => exact Or.inl ⟨content, rfl, rfl⟩
  | unreadable reason => exact Or.inr ⟨by simp, rfl⟩
  | crash message => exact Or.inr ⟨by simp, rfl⟩

end SourceFile

/-- Nobody gives the scan up, and every reading completes exactly once. -/
structure ScanOptions.Undisturbed (options : ScanOptions) : Prop where
  goes_on : ∀ n, options.isCancelled n = false
  completes : ∀ k, (options.completion k).Perm (List.range k)

theorem ScanOptions.undisturbed_default : ({} : ScanOptions).Undisturbed :=
  ⟨fun _ => rfl, fun _ => List.Perm.refl _⟩

/-- Files with imports, a shared route, a database, a repeated path and a failed reading. -/
def Scan.smallProject : List SourceFile :=
  [⟨"app/main.js", .text "const u = require('./users.js'); app.get('/users', u.list)"⟩,
    ⟨"app/users.js", .text "import '../app/main.js'; router.post('/users', db.create)"⟩,
    ⟨"app/main.js", .text "app.get('/hidden', none)"⟩,
    ⟨"app/broken.py", .unreadable "permission denied"⟩,
    ⟨"notes.txt", .text "app.get('/ignored', none)"⟩]

theorem Scan.smallProject_reads :
    ∀ f ∈ Scan.smallProject, ∀ message, f.reading ≠ .crash message := by
  simp [Scan.smallProject]

theorem Specifier.ofContent_nil (language : Option Language) :
    Specifier.ofContent [] language = [] := by
  cases language with
  | none => rfl
  | some l => cases l <;> rfl

namespace Progress

/-- What a kept file adds at its turn. -/
def visit (p : Progress) (k : Scan.Kept) : Progress :=
  p.analyze k.file.content (Language.ofExtension? (Path.extension k.node.path)) k.node

theorem analyze_nil (p : Progress) (language : Option Language) (source : Node) :
    p.analyze [] language source = p := by
  unfold analyze
  rw [Specifier.ofContent_nil]
  rfl

end Progress

namespace Scan

variable {isCancelled : Nat → Bool}

/-- The text that a harvest holds for a file is the one that its reading gave. -/
theorem gather_ok (hcancel : ∀ n, isCancelled n = false) {files : List SourceFile}
    (hread : ∀ f ∈ files, ∀ message, f.reading ≠ .crash message) (order : List Nat)
    (question : Nat) (h : Harvest) :
    ∃ h', gather isCancelled files question order h = .ok h' ∧ ∀ i,
      h'.texts.lookup i =
        (if i ∈ order then files[i]?.bind (·.reading.text?) else none).or (h.texts.lookup i) := by
  induction order generalizing question h with
  | nil => exact ⟨h, rfl, by simp⟩
  | cons j order ih =>
    unfold gather
    simp only [hcancel, Bool.false_eq_true, if_false]
    cases hj : files[j]? with
    | none =>
      obtain ⟨h', hok, hlookup⟩ := ih (question + 1) h
      refine ⟨h', hok, fun i => ?_⟩
      rw [hlookup]
      by_cases hij : i = j
      · simp [hij, hj]
      · simp [hij]
    | some f =>
      obtain ⟨path, reading⟩ := f
      cases reading with
      | text content =>
        obtain ⟨h', hok, hlookup⟩ := ih (question + 1) { h with texts := (j, content) :: h.texts }
        refine ⟨h', hok, fun i => ?_⟩
        rw [hlookup, List.lookup_cons]
        by_cases hij : i = j
        · by_cases hmem : j ∈ order <;> simp [hij, hj, hmem, Reading.text?]
        · simp [hij, beq_false_of_ne hij]
      | unreadable reason =>
        obtain ⟨h', hok, hlookup⟩ :=
          ih (question + 1) { h with warnings := h.warnings ++ [⟨path, reason⟩] }
        refine ⟨h', hok, fun i => ?_⟩
        rw [hlookup]
        by_cases hij : i = j
        · simp [hij, hj, Reading.text?]
        · simp [hij]
      | crash message =>
        exact absurd rfl (hread _ (List.mem_of_getElem? hj) message)

theorem analyzeAll_ok (hcancel : ∀ n, isCancelled n = false) (texts : List (Nat × Text))
    (kept : List Kept) (question number : Nat) (p : Progress)
    (htexts : ∀ i, ∀ k ∈ kept[i]?, texts.lookup (number + i) = k.file.reading.text?) :
    analyzeAll isCancelled texts question number kept p = .ok (kept.foldl Progress.visit p) := by
  induction kept generalizing question number p with
  | nil => rfl
  | cons k kept ih =>
    have hfirst : texts.lookup number = k.file.reading.text? := htexts 0 k rfl
    have hrest : ∀ i, ∀ k ∈ kept[i]?,
        texts.lookup (number + 1 + i) = k.file.reading.text? := by
      intro i k' hk'
      rw [Nat.add_right_comm]
      exact htexts (i + 1) k' hk'
    have hcontent : k.file.content = k.file.reading.text?.getD [] := rfl
    unfold analyzeAll
    simp only [hcancel, Bool.false_eq_true, if_false]
    rw [List.foldl_cons, hfirst, Progress.visit, hcontent]
    cases k.file.reading.text? with
    | none =>
      rw [Option.getD_none, Progress.analyze_nil]
      exact ih _ _ _ hrest
    | some content =>
      cases content with
      | nil =>
        rw [Option.getD_some, Progress.analyze_nil]
        exact ih _ _ _ hrest
      | cons c content => exact ih _ _ _ hrest

/-- What a scan has found when it comes to the kept file of this number. -/
def before (options : ScanOptions) (files : List SourceFile) (number : Nat) :
    Except ScanFault Progress := do
  let accepted := files.filter fun f => isAccepted options.extensions f.path
  let (p, kept) := registerAll options.digits accepted
  let count := kept.length
  let harvest ← gather options.isCancelled (kept.map (·.file)) 0 (options.completion count) {}
  let p := { p with events := p.events ++
    harvest.warnings.map fun w => .unreadable w.path w.reason }
  analyzeAll options.isCancelled harvest.texts count 0 (kept.take number) p

/-- Every kept file that can be read has its text in the harvest. -/
theorem gather_kept {options : ScanOptions} (ho : options.Undisturbed) {kept : List Kept}
    (hread : ∀ f ∈ kept.map (·.file), ∀ message, f.reading ≠ .crash message) :
    ∃ harvest, gather options.isCancelled (kept.map (·.file)) 0 (options.completion kept.length) {} =
        .ok harvest ∧
      ∀ i, ∀ k ∈ kept[i]?, harvest.texts.lookup (0 + i) = k.file.reading.text? := by
  obtain ⟨harvest, hgather, hlookup⟩ :=
    gather_ok ho.goes_on hread (options.completion kept.length) 0 {}
  refine ⟨harvest, hgather, fun i k hk => ?_⟩
  have hi : i ∈ options.completion kept.length := by
    rw [(ho.completes _).mem_iff, List.mem_range]
    exact (List.getElem?_eq_some_iff.mp hk).1
  rw [Nat.zero_add, hlookup, if_pos hi, List.getElem?_map, Option.mem_def.mp hk]
  simp

theorem before_eq (options : ScanOptions) (files : List SourceFile) (number : Nat) :
    before options files number = (do
      let harvest ← gather options.isCancelled ((keptOf options files).map (·.file)) 0
        (options.completion (keptOf options files).length) {}
      analyzeAll options.isCancelled harvest.texts (keptOf options files).length 0
        ((keptOf options files).take number) (startOf options files harvest)) := rfl

theorem file_mem_of_keptOf {options : ScanOptions} {files : List SourceFile} {f : SourceFile}
    (hf : f ∈ (keptOf options files).map (·.file)) : f ∈ files := by
  rw [keptOf, (registered _ _).files_eq, mem_addFirsts_nil_iff] at hf
  exact List.mem_of_mem_filter (List.mem_of_find?_eq_some hf)

/-- A scan that nothing ends early visits the kept files in order. -/
theorem scan_visits {options : ScanOptions} (ho : options.Undisturbed) {files : List SourceFile}
    (hread : ∀ f ∈ files, ∀ message, f.reading ≠ .crash message) :
    ∃ harvest, gather options.isCancelled ((keptOf options files).map (·.file)) 0
        (options.completion (keptOf options files).length) {} = .ok harvest ∧
      (∀ number, before options files number =
        .ok (((keptOf options files).take number).foldl Progress.visit
          (startOf options files harvest))) ∧
      scan options files = .ok (resultOf options files harvest
        ((keptOf options files).foldl Progress.visit (startOf options files harvest))) := by
  obtain ⟨harvest, hgather, htexts⟩ :=
    gather_kept ho fun f hf => hread f (file_mem_of_keptOf hf)
  have hanalyze : ∀ number, analyzeAll options.isCancelled harvest.texts
      (keptOf options files).length 0 ((keptOf options files).take number)
      (startOf options files harvest) = .ok (((keptOf options files).take number).foldl
        Progress.visit (startOf options files harvest)) := by
    intro number
    refine analyzeAll_ok ho.goes_on _ _ _ _ _ fun i k hk => htexts i k ?_
    rw [Option.mem_def, List.getElem?_take] at hk
    exact (Option.ite_none_right_eq_some.mp hk).2
  have hall := hanalyze (keptOf options files).length
  rw [List.take_length] at hall
  refine ⟨harvest, hgather, fun number => ?_, scan_eq_ok_iff.mpr ⟨_, _, hgather, hall, rfl⟩⟩
  rw [before_eq, hgather]
  exact hanalyze number

/-- A scan registers the files and then visits them in order. -/
theorem scan_run {options : ScanOptions} (ho : options.Undisturbed) {files : List SourceFile}
    (hread : ∀ f ∈ files, ∀ message, f.reading ≠ .crash message) :
    ∃ p kept result,
      Registered (files.filter fun f => isAccepted options.extensions f.path) (p, kept) ∧
      (∀ number, before options files number = .ok ((kept.take number).foldl Progress.visit p)) ∧
      scan options files = .ok result ∧
      result.graph = { nodes := (kept.foldl Progress.visit p).registry.nodes
                       edges := (kept.foldl Progress.visit p).edges } := by
  obtain ⟨harvest, -, hbefore, hscan⟩ := scan_visits ho hread
  have hreg := registered options.digits
    (files.filter fun f => isAccepted options.extensions f.path)
  exact ⟨startOf options files harvest, keptOf options files, _,
    ⟨hreg.files_eq, hreg.entries, hreg.anonymous, hreg.distinct, hreg.edges⟩, hbefore, hscan, rfl⟩

end Scan
end CodeGraph
