import CodeGraph.Proofs.Pattern.ImportStatement

/-! Texts of import statements and calls of `require`, each of which ends its line. -/
namespace CodeGraph

namespace Specifier

theorem quote_ne {q c : Char} (hq : isQuote q = true) (hc : isQuote c = false) : q ≠ c := by
  rintro rfl
  rw [hc] at hq
  exact absurd hq (by decide)

/-- A path in two quotes, of either sort each. -/
structure QuotedPath where
  opening : Char
  path : Text
  closing : Char
  opens : isQuote opening = true
  closes : isQuote closing = true
  nonempty : path ≠ []
  plain : ∀ c ∈ path, isQuote c = false ∧ Text.isBlank c = false ∧ c ≠ '(' ∧ c ≠ ')'

namespace QuotedPath

def text (source : QuotedPath) : Text :=
  source.opening :: (source.path ++ [source.closing])

theorem unquoted (source : QuotedPath) : ∀ c ∈ source.path, isQuote c = false :=
  fun c hc => (source.plain c hc).1

theorem text_append (source : QuotedPath) (rest : Text) :
    source.text ++ rest = source.opening :: (source.path ++ source.closing :: rest) := by
  simp [text]

theorem paren_notMem_text (source : QuotedPath) : '(' ∉ source.text := by
  have hquote : isQuote '(' = false := by decide
  unfold text
  rw [List.mem_cons, List.mem_append, List.mem_singleton]
  rintro (h | h | h)
  · exact quote_ne source.opens hquote h.symm
  · exact (source.plain _ h).2.2.1 rfl
  · exact quote_ne source.closes hquote h.symm

end QuotedPath

/-- A statement that names a path: an import of names, of a path alone, or a call of `require`. -/
inductive Statement
  | names (clause : Text) (source : QuotedPath) (chars : ∀ c ∈ clause, isClauseChar c = true)
      (nonblank : ∃ c ∈ clause, Text.isBlank c = false)
  | path (source : QuotedPath)
  | require (name : Text) (source : QuotedPath) (word : ∀ c ∈ name, Text.isWord c = true)

namespace Statement

def text : Statement → Text
  | names clause source _ _ =>
    "import ".toList ++ clause ++ " from ".toList ++ source.text ++ ";\n".toList
  | path source => "import ".toList ++ source.text ++ ";\n".toList
  | require name source _ =>
    "const ".toList ++ name ++ " = require(".toList ++ source.text ++ ");\n".toList

def importedPath? : Statement → Option Text
  | names _ source _ _ => some source.path
  | path source => some source.path
  | require _ _ _ => none

def requiredPath? : Statement → Option Text
  | names _ _ _ _ => none
  | path _ => none
  | require _ source _ => some source.path

theorem charBefore_text (s : Statement) (before : Option Char) :
    Pattern.charBefore before s.text = some '\n' := by
  cases s <;> unfold text <;> rw [Pattern.charBefore_append] <;> rfl

end Statement

/-! What is found in one statement. -/

/-- Names between blanks with `from` behind them are a clause, also if they hold that word. -/
theorem isImportClause_names {names : Text} (h : names ≠ []) :
    isImportClause (' ' :: (names ++ " from ".toList)) = true := by
  obtain ⟨c, back, hback⟩ := List.exists_cons_of_ne_nil
    (fun hnil => h (List.reverse_eq_nil_iff.mp hnil) : names.reverse ≠ [])
  obtain ⟨first, more, hmore⟩ := List.exists_cons_of_ne_nil
    (List.append_ne_nil_of_right_ne_nil back (by simp) : back ++ [' '] ≠ [])
  have hreverse : (' ' :: (names ++ " from ".toList)).reverse =
      " morf ".toList ++ c :: first :: more := by
    rw [List.reverse_cons, List.reverse_append, hback, List.append_assoc, List.cons_append, hmore]
    rfl
  have hlast : (first :: more).getLastD first = ' ' := by
    rw [← hmore, List.getLastD_concat]
  unfold isImportClause endsInFrom
  rw [hreverse]
  have hstrip : Text.stripLeft (" morf ".toList ++ c :: first :: more) =
      "morf ".toList ++ c :: first :: more := rfl
  have hdrop : Text.dropPrefix? "morf" ("morf ".toList ++ c :: first :: more) =
      some (' ' :: c :: first :: more) := rfl
  rw [hstrip, hdrop, Bool.or_eq_true]
  right
  simp only [hlast]
  rfl

/-- An import is passed up to its closing quote. -/
theorem importStatement_passes_import {before : Option Char} (hbefore : outsideWord before = true)
    {clause : Text} (hchars : ∀ c ∈ clause, isClauseChar c = true)
    (hform : isImportClause clause = true) (source : QuotedPath) (rest : Text) :
    importStatement.Passes before ("import".toList ++ (clause ++ source.text)) [source.path]
      rest := by
  apply Pattern.Passes.of_match (by simp)
  rw [importStatement_eq_some_iff, List.append_assoc, List.append_assoc, source.text_append]
  exact ⟨hbefore, .mk hchars hform source.opens source.closes source.nonempty source.unquoted⟩

theorem isClauseChar_of_isWord {c : Char} (h : Text.isWord c = true) : isClauseChar c = true := by
  simp [isClauseChar, h]

theorem require_unquoted {name : Text} (hname : ∀ c ∈ name, Text.isWord c = true) :
    ∀ c ∈ "const ".toList ++ name ++ " = require".toList, isQuote c = false := by
  have hconst : "const ".toList.all (!isQuote ·) = true := by decide
  have hequals : " = require".toList.all (!isQuote ·) = true := by decide
  intro c hc
  rw [List.mem_append, List.mem_append] at hc
  rcases hc with (hc | hc) | hc
  · simpa using List.all_eq_true.mp hconst c hc
  · exact isQuote_of_isClauseChar (isClauseChar_of_isWord (hname c hc))
  · simpa using List.all_eq_true.mp hequals c hc

theorem import_blank : "import ".toList = "import".toList ++ [' '] := by decide +kernel

theorem equals_require : " = require(".toList = " = require".toList ++ ['('] := by decide +kernel

theorem paren_semicolon : ");\n".toList = [')'] ++ ";\n".toList := by decide +kernel

theorem equals_require_split :
    " = require(".toList = [' '] ++ "= ".toList ++ ("require".toList ++ ['(']) := by decide +kernel

/-- In a call of `require` no import is found: before the parenthesis there is no quote, and the
path has no blank. -/
theorem importStatement_passes_require {name : Text} (hword : ∀ c ∈ name, Text.isWord c = true)
    (source : QuotedPath) (before : Option Char) (rest : Text) :
    importStatement.Passes before
      ("const ".toList ++ name ++ " = require(".toList ++ source.text ++ ");\n".toList) []
      rest := by
  have hquote : isQuote 'i' = false := by decide
  have hblank : ∀ c ∈ source.path, Text.isBlank c = false := fun c hc => (source.plain c hc).2.1
  have hcall : importStatement.Passes before ("const ".toList ++ name ++ " = require".toList) []
      (['(', source.opening] ++ (source.path ++ (source.closing :: (");\n".toList ++ rest)))) :=
    importStatement_passes_stop (require_unquoted hword) (by decide) (by decide)
  have hopen : ∀ before rest, importStatement.Passes before ['(', source.opening] [] rest :=
    fun _ _ => .of_notMem starts_importStatement
      (by simp [(quote_ne source.opens hquote).symm])
  have hpath : ∀ before, importStatement.Passes before source.path []
      (source.closing :: (");\n".toList ++ rest)) :=
    fun _ => importStatement_passes_quoted source.unquoted hblank source.closes
  have hclose : ∀ before, importStatement.Passes before (source.closing :: ");\n".toList) [] rest :=
    fun _ => .of_notMem starts_importStatement
      (by simp [(quote_ne source.closes hquote).symm])
  have hsplit : "const ".toList ++ name ++ " = require(".toList ++ source.text ++ ");\n".toList =
      "const ".toList ++ name ++ " = require".toList ++ ['(', source.opening] ++ source.path ++
        source.closing :: ");\n".toList := by
    rw [equals_require, QuotedPath.text]
    simp
  rw [hsplit]
  exact ((hcall.append (hopen _ _)).append (hpath _)).append (hclose _)

theorem importStatement_passes (s : Statement) {before : Option Char}
    (hbefore : outsideWord before = true) (rest : Text) :
    importStatement.Passes before s.text s.importedPath?.toList rest := by
  have hend : ∀ before, importStatement.Passes before ";\n".toList [] rest :=
    fun _ => .of_notMem starts_importStatement (by decide)
  cases s with
  | names clause source hchars hnonblank =>
    have hne : clause ≠ [] := by
      obtain ⟨c, hc, -⟩ := hnonblank
      exact List.ne_nil_of_mem hc
    have hall : ∀ c ∈ ' ' :: (clause ++ " from ".toList), isClauseChar c = true := by
      have hfrom : " from ".toList.all isClauseChar = true := by decide
      rw [List.forall_mem_cons, List.forall_mem_append]
      exact ⟨by decide, hchars, List.all_eq_true.mp hfrom⟩
    have hmatch := importStatement_passes_import hbefore hall (isImportClause_names hne) source
      (";\n".toList ++ rest)
    have hsplit : (Statement.names clause source hchars hnonblank).text =
        ("import".toList ++ (' ' :: (clause ++ " from ".toList) ++ source.text)) ++
          ";\n".toList := by
      show "import ".toList ++ clause ++ " from ".toList ++ source.text ++ ";\n".toList = _
      rw [import_blank, List.append_assoc "import".toList, List.append_assoc "import".toList,
        List.append_assoc "import".toList, List.singleton_append, List.cons_append,
        List.cons_append, ← List.cons_append]
    rw [hsplit]
    exact hmatch.append (hend _)
  | path source =>
    have hblank : ∀ c ∈ [' '], isClauseChar c = true :=
      List.forall_mem_singleton.mpr (by decide)
    have hmatch := importStatement_passes_import hbefore hblank (by decide) source
      (";\n".toList ++ rest)
    have hsplit : (Statement.path source).text =
        ("import".toList ++ ([' '] ++ source.text)) ++ ";\n".toList := by
      show "import ".toList ++ source.text ++ ";\n".toList = _
      rw [import_blank, List.append_assoc "import".toList]
    rw [hsplit]
    exact hmatch.append (hend _)
  | require name source hword => exact importStatement_passes_require hword source before rest

/-- A call of `require` is passed with its path. -/
theorem requireCall_passes_call {before : Option Char} (hbefore : outsideWord before = true)
    (source : QuotedPath) (rest : Text) :
    requireCall.Passes before ("require".toList ++ ['('] ++ source.text ++ [')']) [source.path]
      rest := by
  have hnone : ∀ c ∈ ([] : Text), Text.isBlank c = true := List.forall_mem_nil _
  have hsplit : "require".toList ++ ['('] ++ source.text ++ [')'] ++ rest =
      "require".toList ++ ([] ++ '(' :: ([] ++ source.opening :: (source.path ++
        source.closing :: ([] ++ ')' :: rest)))) := by
    simp [QuotedPath.text]
  apply Pattern.Passes.of_match (by simp)
  rw [hsplit, requireCall_eq_some_iff]
  exact ⟨hbefore, .mk hnone hnone hnone source.opens source.closes source.nonempty source.unquoted⟩

/-- Without a parenthesis there is no call, up to a semicolon. -/
theorem requireCall_passes_semicolon {before : Option Char} {body : Text} (hbody : '(' ∉ body)
    (rest : Text) : requireCall.Passes before (body ++ ";\n".toList) [] rest := by
  have hstop : requireCall.Passes before body [] (";\n".toList ++ rest) :=
    requireCall_passes_stop hbody (by decide) (by decide) (by decide)
  exact hstop.append (.of_notMem starts_requireCall (by decide))

theorem requireCall_passes (s : Statement) (before : Option Char) (rest : Text) :
    requireCall.Passes before s.text s.requiredPath?.toList rest := by
  cases s with
  | names clause source hchars hnonblank =>
    have hclause : '(' ∉ clause := fun h => absurd (hchars '(' h) (by decide)
    apply requireCall_passes_semicolon
    simp only [List.mem_append, not_or]
    exact ⟨⟨⟨by decide, hclause⟩, by decide⟩, source.paren_notMem_text⟩
  | path source =>
    apply requireCall_passes_semicolon
    rw [List.mem_append, not_or]
    exact ⟨by decide, source.paren_notMem_text⟩
  | require name source hword =>
    have hname : '(' ∉ name := fun h => absurd (hword '(' h) (by decide)
    have hconst : requireCall.Passes before ("const ".toList ++ name ++ [' ']) []
        ("= ".toList ++ (("require".toList ++ ['('] ++ source.text ++ [')']) ++
          (";\n".toList ++ rest))) := by
      refine requireCall_passes_stop ?_ (by decide) (by decide) (by decide)
      simp only [List.mem_append, not_or]
      exact ⟨⟨by decide, hname⟩, by decide⟩
    have hequals : ∀ before rest, requireCall.Passes before "= ".toList [] rest :=
      fun _ _ => .of_notMem starts_requireCall (by decide)
    have hend : ∀ before, requireCall.Passes before ";\n".toList [] rest :=
      fun _ => .of_notMem starts_requireCall (by decide)
    have hsplit : (Statement.require name source hword).text =
        "const ".toList ++ name ++ [' '] ++ "= ".toList ++
          ("require".toList ++ ['('] ++ source.text ++ [')']) ++ ";\n".toList := by
      show "const ".toList ++ name ++ " = require(".toList ++ source.text ++ ");\n".toList = _
      rw [equals_require_split, paren_semicolon]
      simp only [List.append_assoc]
    have hbefore : outsideWord (Pattern.charBefore before
        ("const ".toList ++ name ++ [' '] ++ "= ".toList)) = true := by
      rw [Pattern.charBefore_append]
      rfl
    have hcall := requireCall_passes_call hbefore source (";\n".toList ++ rest)
    rw [hsplit]
    exact ((hconst.append (hequals _ _)).append hcall).append (hend _)

/-- The relative paths that a text of statements names are taken each once: those of imports, then
those of calls. -/
theorem javascriptPaths_statements (statements : List Statement) :
    javascriptPaths (statements.flatMap Statement.text) =
      (statements.filterMap Statement.importedPath? ++
        statements.filterMap Statement.requiredPath?).filter isRelative := by
  have himports : importStatement.findAll (statements.flatMap Statement.text) =
      statements.flatMap fun s => s.importedPath?.toList := by
    apply Pattern.findAll_flatMap (fun before => outsideWord before = true) rfl
    intro s before rest hbefore
    exact ⟨importStatement_passes s hbefore rest, by rw [s.charBefore_text]; decide⟩
  have hcalls : requireCall.findAll (statements.flatMap Statement.text) =
      statements.flatMap fun s => s.requiredPath?.toList := by
    apply Pattern.findAll_flatMap (fun _ => True) trivial
    intro s before rest _
    exact ⟨requireCall_passes s before rest, trivial⟩
  unfold javascriptPaths
  rw [himports, hcalls, List.filterMap_eq_flatMap_toList, List.filterMap_eq_flatMap_toList]

/-- The word `from` among the names and a mark at the other end do no harm. -/
example : javascriptPaths
    "import from from './a\";\nconst import = require(\"../b\");\nimport 'c';\n" =
      ["./a".toList, "../b".toList] := by
  decide +kernel

end Specifier
end CodeGraph
