import CodeGraph.Proofs.Pattern.Passing
import CodeGraph.Proofs.Pattern.RequireCall

/-! Import statements: their form, and texts that are made of statements. From such a text every
relative path is taken, none is made up, and no match runs on into the next statement. -/
namespace CodeGraph

namespace Specifier

theorem isClauseChar_of_isQuote {q : Char} (hq : isQuote q = true) : isClauseChar q = false := by
  unfold isQuote at hq
  rw [Bool.or_eq_true, beq_iff_eq, beq_iff_eq] at hq
  rcases hq with rfl | rfl <;> decide

theorem isQuote_of_isClauseChar {c : Char} (hc : isClauseChar c = true) : isQuote c = false := by
  rw [Bool.eq_false_iff]
  intro hq
  rw [isClauseChar_of_isQuote hq] at hc
  exact absurd hc (by decide)

/-- The text `here` starts with an import statement of the quoted `path`, and `rest` is behind. -/
inductive IsImportStatement (path rest : Text) : (here : Text) → Prop
  | mk {clause : Text} {open_ close : Char} (chars : ∀ c ∈ clause, isClauseChar c = true)
      (form : isImportClause clause = true) (opens : isQuote open_ = true)
      (closes : isQuote close = true) (nonempty : path ≠ [])
      (unquoted : ∀ c ∈ path, isQuote c = false) :
      IsImportStatement path rest
        ("import".toList ++ (clause ++ open_ :: (path ++ close :: rest)))

theorem importStatement_eq_some_iff {before : Option Char} {here path rest : Text} :
    importStatement before here = some (path, rest) ↔
      outsideWord before = true ∧ IsImportStatement path rest here := by
  constructor
  · intro h
    unfold importStatement at h
    rw [guard_bind_eq_some_iff] at h
    obtain ⟨hbefore, h⟩ := h
    obtain ⟨r, hword, h⟩ := Option.bind_eq_some_iff.mp h
    rw [guard_bind_eq_some_iff] at h
    obtain ⟨hform, hquoted⟩ := h
    obtain ⟨q, q', hq, hq', hne, hunquoted, hdrop⟩ := quotedText?_eq_some_iff.mp hquoted
    rw [Text.dropPrefix?_eq_some_iff] at hword
    have hsplit : r = r.takeWhile isClauseChar ++ q :: (path ++ q' :: rest) := by
      rw [← hdrop, List.takeWhile_append_dropWhile]
    refine ⟨hbefore, ?_⟩
    rw [hword, hsplit]
    exact .mk (fun c hc => List.mem_takeWhile_imp hc) hform hq hq' hne hunquoted
  · rintro ⟨hbefore, hstatement⟩
    cases hstatement with
    | @mk clause q q' hchars hform hq hq' hne hunquoted =>
      have hstop : ¬ isClauseChar q = true := by simp [isClauseChar_of_isQuote hq]
      have htake : (clause ++ q :: (path ++ q' :: rest)).takeWhile isClauseChar = clause := by
        rw [List.takeWhile_append_of_pos hchars, List.takeWhile_cons_of_neg hstop,
          List.append_nil]
      have hdrop : (clause ++ q :: (path ++ q' :: rest)).dropWhile isClauseChar =
          q :: (path ++ q' :: rest) := by
        rw [List.dropWhile_append_of_pos hchars, List.dropWhile_cons_of_neg hstop]
      have hword := Text.dropPrefix?_eq_some_iff.mpr
        (rfl : "import".toList ++ (clause ++ q :: (path ++ q' :: rest)) = _)
      have hquoted := quotedText?_eq_some_iff.mpr
        ⟨q, q', hq, hq', hne, hunquoted, (rfl : q :: (path ++ q' :: rest) = _)⟩
      unfold importStatement
      rw [guard_bind_eq_some_iff]
      refine ⟨hbefore, Option.bind_eq_some_iff.mpr ⟨_, hword, ?_⟩⟩
      rw [guard_bind_eq_some_iff, htake, hdrop]
      exact ⟨hform, hquoted⟩

theorem exists_isBlank_of_isImportClause {clause : Text} (h : isImportClause clause = true) :
    ∃ c ∈ clause, Text.isBlank c = true := by
  unfold isImportClause at h
  rw [Bool.or_eq_true, Bool.and_eq_true] at h
  rcases h with ⟨hne, hblank⟩ | hends
  · cases clause with
    | nil => exact absurd hne (by decide)
    | cons c clause =>
      exact ⟨c, List.mem_cons_self, List.all_eq_true.mp hblank c List.mem_cons_self⟩
  · have hlast : clause.reverse.head?.any Text.isBlank = true := by
      unfold endsInFrom at hends
      split at hends
      · rw [Bool.and_eq_true, Bool.and_eq_true] at hends
        exact hends.1.1
      · exact absurd hends (by decide)
    rw [List.head?_reverse, Option.any_eq_true] at hlast
    obtain ⟨c, hc, hblank⟩ := hlast
    exact ⟨c, List.mem_of_getLast? hc, hblank⟩

/-- What stands before the first quote of a statement is its clause, with a blank in it. -/
theorem IsImportStatement.first_quote {path rest here : Text}
    (h : IsImportStatement path rest here) : ∃ (word : Text) (q : Char) (behind : Text),
      (∀ c ∈ word, isClauseChar c = true) ∧ (∃ c ∈ word, Text.isBlank c = true) ∧
        isQuote q = true ∧ here = word ++ q :: behind := by
  cases h with
  | @mk clause q q' hchars hform hq hq' hne hunquoted =>
    obtain ⟨b, hb, hblank⟩ := exists_isBlank_of_isImportClause hform
    have hword : "import".toList.all isClauseChar = true := by decide
    refine ⟨"import".toList ++ clause, q, path ++ q' :: rest, ?_,
      ⟨b, List.mem_append_right _ hb, hblank⟩, hq, by rw [List.append_assoc]⟩
    intro c hc
    rcases List.mem_append.mp hc with hc | hc
    · exact List.all_eq_true.mp hword c hc
    · exact hchars c hc

theorem IsImportStatement.starts {path rest here : Text} (h : IsImportStatement path rest here) :
    ∃ behind, here = 'i' :: behind := by
  cases h with
  | mk => exact ⟨_, rfl⟩

theorem starts_importStatement : importStatement.Starts 'i' := by
  intro before c here hne
  rw [Option.eq_none_iff_forall_not_mem]
  rintro ⟨path, rest⟩ hmatch
  obtain ⟨-, hstatement⟩ := importStatement_eq_some_iff.mp hmatch
  obtain ⟨behind, hbehind⟩ := hstatement.starts
  exact hne (List.cons.inj hbehind).1

theorem starts_requireCall : requireCall.Starts 'r' := by
  intro before c here hne
  rw [Option.eq_none_iff_forall_not_mem]
  rintro ⟨path, rest⟩ hmatch
  obtain ⟨-, hcall⟩ := requireCall_eq_some_iff.mp hmatch
  obtain ⟨behind, hbehind⟩ := hcall.starts
  exact hne (List.cons.inj hbehind).1

/-! What no match runs across. -/

/-- A statement is over at a character that neither a clause nor a quoted path can begin with. -/
theorem importStatement_passes_stop {before : Option Char} {part rest : Text} {stop : Char}
    (hpart : ∀ c ∈ part, isQuote c = false) (hquote : isQuote stop = false)
    (hclause : isClauseChar stop = false) :
    importStatement.Passes before part [] (stop :: rest) := by
  apply Pattern.Passes.of_no_match
  rintro read c here ⟨path, behind⟩ rfl hmatch
  obtain ⟨-, hstatement⟩ := importStatement_eq_some_iff.mp hmatch
  obtain ⟨word, q, behind', hword, -, hq, heq⟩ := hstatement.first_quote
  have hfree : ∀ x ∈ c :: here, isQuote x = false :=
    fun x hx => hpart x (List.mem_append_right read hx)
  have hmem : stop ∈ word := Text.mem_of_append_eq hfree hquote hq heq
  have hchar := hword stop hmem
  rw [hclause] at hchar
  exact absurd hchar (by decide)

/-- A path without blanks holds no statement up to its closing quote. -/
theorem importStatement_passes_quoted {before : Option Char} {part rest : Text} {close : Char}
    (hpart : ∀ c ∈ part, isQuote c = false) (hblank : ∀ c ∈ part, Text.isBlank c = false)
    (hclose : isQuote close = true) :
    importStatement.Passes before part [] (close :: rest) := by
  apply Pattern.Passes.of_no_match
  rintro read c here ⟨path, behind⟩ rfl hmatch
  obtain ⟨-, hstatement⟩ := importStatement_eq_some_iff.mp hmatch
  obtain ⟨word, q, behind', hword, ⟨b, hb, hblank'⟩, hq, heq⟩ := hstatement.first_quote
  have hfree : ∀ x ∈ c :: here, isQuote x = false :=
    fun x hx => hpart x (List.mem_append_right read hx)
  have hword' : ∀ x ∈ word, isQuote x = false := fun x hx => isQuote_of_isClauseChar (hword x hx)
  obtain ⟨hsame, -, -⟩ := append_quote_inj hfree hword' hclose hq heq
  rw [← hsame] at hb
  rw [hblank b (List.mem_append_right read hb)] at hblank'
  exact absurd hblank' (by decide)

theorem IsRequireCall.first_paren {path rest here : Text} (h : IsRequireCall path rest here) :
    ∃ (word behind : Text), (∀ c ∈ word, c ∈ "require".toList ∨ Text.isBlank c = true) ∧
      here = word ++ '(' :: behind := by
  cases h with
  | @mk b₁ b₂ b₃ q q' hb₁ hb₂ hb₃ hq hq' hne hunquoted =>
    refine ⟨"require".toList ++ b₁, b₂ ++ q :: (path ++ q' :: (b₃ ++ ')' :: rest)), ?_,
      by rw [List.append_assoc]⟩
    intro c hc
    rcases List.mem_append.mp hc with hc | hc
    · exact Or.inl hc
    · exact Or.inr (hb₁ c hc)

/-- A call is over at a character that cannot stand before its opening parenthesis. -/
theorem requireCall_passes_stop {before : Option Char} {part rest : Text} {stop : Char}
    (hpart : '(' ∉ part) (hparen : stop ≠ '(') (hword : stop ∉ "require".toList)
    (hblank : Text.isBlank stop = false) : requireCall.Passes before part [] (stop :: rest) := by
  apply Pattern.Passes.of_no_match
  rintro read c here ⟨path, behind⟩ rfl hmatch
  obtain ⟨-, hcall⟩ := requireCall_eq_some_iff.mp hmatch
  obtain ⟨word, behind', hchars, heq⟩ := hcall.first_paren
  have hfree : ∀ x ∈ c :: here, (x == '(') = false := by
    intro x hx
    rw [beq_eq_false_iff_ne]
    rintro rfl
    exact hpart (List.mem_append_right read hx)
  have hmem : stop ∈ word :=
    Text.mem_of_append_eq hfree (beq_eq_false_iff_ne.mpr hparen) (beq_self_eq_true '(') heq
  rcases hchars stop hmem with hletter | hstop
  · exact hword hletter
  · rw [hblank] at hstop
    exact absurd hstop (by decide)

end Specifier
end CodeGraph
