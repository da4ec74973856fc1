import CodeGraph.Proofs.Pattern.ImportLine
import CodeGraph.Proofs.Pattern.Passing

/-! Lines that import modules by dotted names. Every module is taken from such a text, as long as
its name is of word characters: a name with other characters is cut at the first of them, or its
line is passed over. -/
namespace CodeGraph

namespace Specifier

/-! The word `from` is found nowhere else. -/

theorem starts_fromStatement : fromStatement.Starts 'f' := by
  intro before c here hne
  have hdrop : Text.dropPrefix? "from" (c :: here) = none := if_neg (Ne.symm hne)
  unfold fromStatement
  rw [hdrop]
  cases outsideWord before <;> rfl

theorem starts_plainImport : plainImport.Starts 'i' := by
  intro before c here hne
  have hdrop : Text.dropPrefix? "import" (c :: here) = none := if_neg (Ne.symm hne)
  unfold plainImport
  rw [hdrop]
  cases atLineStart before <;> rfl

/-- A match of the pattern begins with the word and a blank. -/
theorem of_fromStatement_eq_some {before : Option Char} {here : Text} {found : Text × Text}
    (h : fromStatement before here = some found) : outsideWord before = true ∧
      ∃ blank behind, Text.isBlank blank = true ∧ here = "from".toList ++ blank :: behind := by
  unfold fromStatement at h
  rw [guard_bind_eq_some_iff] at h
  obtain ⟨hbefore, h⟩ := h
  obtain ⟨r, hword, h⟩ := Option.bind_eq_some_iff.mp h
  obtain ⟨r', hblanks, -⟩ := Option.bind_eq_some_iff.mp h
  rw [Text.dropPrefix?_eq_some_iff] at hword
  refine ⟨hbefore, ?_⟩
  cases r with
  | nil => exact absurd hblanks (by simp [blanks?])
  | cons c r =>
    refine ⟨c, r, ?_, hword⟩
    rw [blanks?] at hblanks
    split_ifs at hblanks with hc
    exact hc

theorem outsideWord_of_charBefore {before : Option Char} {read : Text}
    (h : outsideWord (Pattern.charBefore before read) = true) :
    outsideWord read.getLast? = true := by
  unfold Pattern.charBefore at h
  cases hlast : read.getLast? with
  | none => rfl
  | some c => rwa [hlast, Option.some_or] at h

/-- A part without blanks is passed unless it ends in the word, which can then begin a match. -/
theorem fromStatement_passes_solid {before : Option Char} {part rest : Text}
    (hsolid : ∀ c ∈ part, Text.isBlank c = false)
    (hfree : ∀ read, part = read ++ "from".toList → outsideWord read.getLast? = false)
    (hend : atWordEnd rest = true) : fromStatement.Passes before part [] rest := by
  apply Pattern.Passes.of_no_match
  rintro read c here found rfl hmatch
  obtain ⟨hbefore, blank, behind, hblank, heq⟩ := of_fromStatement_eq_some hmatch
  have hread := outsideWord_of_charBefore hbefore
  have hword : c :: here ≠ "from".toList := by
    intro hword
    rw [hfree read (by rw [hword])] at hread
    exact absurd hread (by decide)
  rw [← List.cons_append] at heq
  rcases List.append_eq_append_iff.mp heq with ⟨more, hfrom, hrest⟩ | ⟨more, hpart, hmore⟩
  · cases more with
    | nil => exact hword (by rw [hfrom, List.append_nil])
    | cons x more =>
      -- The word would run on into what stands behind the part.
      have hletters : "from".toList.all Text.isWord = true := by decide
      have hx : Text.isWord x = true := by
        apply List.all_eq_true.mp hletters
        rw [hfrom]
        exact List.mem_append_right _ List.mem_cons_self
      rw [hrest] at hend
      simp [atWordEnd, hx] at hend
  · cases more with
    | nil => exact hword (by rw [hpart, List.append_nil])
    | cons x more =>
      have hx : Text.isBlank x = false := by
        apply hsolid
        rw [hpart]
        exact List.mem_append_right _ (List.mem_append_right _ List.mem_cons_self)
      rw [← (List.cons.inj hmore).1, hblank] at hx
      exact absurd hx (by decide)

theorem fromStatement_passes_join {sep : Text} (hsep : 'f' ∉ sep)
    (hstop : ∀ t, atWordEnd (sep ++ t) = true) (names : List Name) {before : Option Char}
    {rest : Text} (hend : atWordEnd rest = true) :
    fromStatement.Passes before (Text.join sep (names.map (·.text))) [] rest := by
  induction names generalizing before with
  | nil => exact .nil before rest
  | cons n names ih =>
    cases names with
    | nil => exact fromStatement_passes_solid n.isBlank_eq_false n.free hend
    | cons m names =>
      rw [List.map_cons, Text.join_cons (by simp)]
      have hname : fromStatement.Passes before n.text []
          (sep ++ (Text.join sep ((m :: names).map (·.text)) ++ rest)) :=
        fromStatement_passes_solid n.isBlank_eq_false n.free (hstop _)
      exact (hname.append (.of_notMem starts_fromStatement hsep)).append ih

theorem fromStatement_passes_module (target : ModuleName) {before : Option Char} {rest : Text}
    (hend : atWordEnd rest = true) : fromStatement.Passes before target.text [] rest := by
  have hdots : 'f' ∉ List.replicate target.dots '.' := by
    intro h
    exact absurd (List.eq_of_mem_replicate h) (by decide)
  have hnames : ∀ before, fromStatement.Passes before
      (Text.join "." (target.names.map (·.text))) [] rest :=
    fun _ => fromStatement_passes_join (by decide) (fun _ => rfl) target.names hend
  exact (Pattern.Passes.of_notMem starts_fromStatement hdots).append (hnames _)

/-! What is found in one line. -/

theorem import_space : " import ".toList = " import".toList ++ [' '] := by decide +kernel

theorem fromStatement_passes_members {before : Option Char} (hbefore : outsideWord before = true)
    (target : ModuleName) {rest : Text} (hend : atWordEnd rest = true) :
    fromStatement.Passes before ("from ".toList ++ target.text ++ " import".toList)
      (if leadOf target.text = target.text then [target.text] else []) rest := by
  have heq := fromStatement_eq hbefore target hend
  rw [List.append_assoc]
  split_ifs at heq ⊢ with hfull
  · apply Pattern.Passes.of_match (by simp)
    rw [List.append_assoc, List.append_assoc]
    exact heq
  · have hword : ∀ before rest, fromStatement.Passes before "rom ".toList [] rest :=
      fun _ _ => .of_notMem starts_fromStatement (by decide)
    have hmodule : ∀ before, fromStatement.Passes before target.text []
        (" import".toList ++ rest) :=
      fun _ => fromStatement_passes_module target rfl
    have himport : ∀ before, fromStatement.Passes before " import".toList [] rest :=
      fun _ => .of_notMem starts_fromStatement (by decide)
    have hbehind : fromStatement.Passes (some 'f')
        ("rom ".toList ++ (target.text ++ " import".toList)) [] rest :=
      (hword _ _).append ((hmodule _).append (himport _))
    have hfirst : fromStatement before
        ('f' :: ("rom ".toList ++ (target.text ++ " import".toList) ++ rest)) = none := by
      rw [List.append_assoc, List.append_assoc]
      exact heq
    exact .cons hfirst hbehind

theorem fromStatement_passes_asName (renamed : Option Name) {before : Option Char} {rest : Text}
    (hend : atWordEnd rest = true) :
    fromStatement.Passes before (ImportLine.asName renamed) [] rest := by
  cases renamed with
  | none => exact .nil before rest
  | some name =>
    have has : ∀ before rest, fromStatement.Passes before " as ".toList [] rest :=
      fun _ _ => .of_notMem starts_fromStatement (by decide)
    exact (has _ _).append
      (fromStatement_passes_solid name.isBlank_eq_false name.free hend)

theorem atWordEnd_asName (renamed : Option Name) {rest : Text} (hend : atWordEnd rest = true) :
    atWordEnd (ImportLine.asName renamed ++ rest) = true := by
  cases renamed with
  | none => exact hend
  | some name => rfl

theorem outsideWord_indent {before : Option Char} (hbefore : outsideWord before = true) (n : ℕ) :
    outsideWord (Pattern.charBefore before (List.replicate n ' ')) = true := by
  cases n with
  | zero => exact hbefore
  | succ n =>
    rw [List.replicate_succ', Pattern.charBefore_append]
    rfl

theorem fromStatement_passes (line : ImportLine) {before : Option Char}
    (hbefore : outsideWord before = true) {rest : Text} (hend : atWordEnd rest = true) :
    fromStatement.Passes before line.text
      (line.ofMembers?.filter fun m => leadOf m = m).toList rest := by
  have hspace : ∀ before rest, fromStatement.Passes before "import ".toList [] rest :=
    fun _ _ => .of_notMem starts_fromStatement (by decide)
  cases line with
  | members indent target names =>
    have hindent : ∀ rest, fromStatement.Passes before (List.replicate indent ' ') [] rest := by
      intro rest
      apply Pattern.Passes.of_notMem starts_fromStatement
      intro h
      exact absurd (List.eq_of_mem_replicate h) (by decide)
    have hmodule : fromStatement.Passes (Pattern.charBefore before (List.replicate indent ' '))
        ("from ".toList ++ target.text ++ " import".toList)
        (if leadOf target.text = target.text then [target.text] else [])
        ([' '] ++ (Text.join ", " (names.map (·.text)) ++ rest)) :=
      fromStatement_passes_members (outsideWord_indent hbefore indent) target rfl
    have hblank : ∀ before rest, fromStatement.Passes before [' '] [] rest :=
      fun _ _ => .of_notMem starts_fromStatement (by decide)
    have hnames : ∀ before, fromStatement.Passes before
        (Text.join ", " (names.map (·.text))) [] rest :=
      fun _ => fromStatement_passes_join (by decide) (fun _ => rfl) names hend
    have hsplit : (ImportLine.members indent target names).text =
        List.replicate indent ' ' ++ ("from ".toList ++ target.text ++ " import".toList) ++
          [' '] ++ Text.join ", " (names.map (·.text)) := by
      unfold ImportLine.text
      rw [import_space]
      simp only [List.append_assoc]
    have hfound : ((ImportLine.members indent target names).ofMembers?.filter
        fun m => leadOf m = m).toList =
          if leadOf target.text = target.text then [target.text] else [] := by
      by_cases hfull : leadOf target.text = target.text <;> simp [ImportLine.ofMembers?, hfull]
    have hpasses := (((hindent _).append hmodule).append (hblank _ _)).append (hnames _)
    rw [hsplit, hfound]
    simpa using hpasses
  | whole target renamed =>
    have hmodule : ∀ before, fromStatement.Passes before target.text []
        (ImportLine.asName renamed ++ rest) :=
      fun _ => fromStatement_passes_module target (atWordEnd_asName renamed hend)
    exact ((hspace _ _).append (hmodule _)).append (fromStatement_passes_asName renamed hend)
  | indented indentation target =>
    have hindent : 'f' ∉ indentation.text := by
      intro h
      exact absurd (indentation.blank 'f' h).1 (by decide)
    have hblanks : ∀ rest, fromStatement.Passes before indentation.text [] rest :=
      fun _ => .of_notMem starts_fromStatement hindent
    have hmodule : ∀ before, fromStatement.Passes before target.text [] rest :=
      fun _ => fromStatement_passes_module target hend
    exact ((hblanks _).append (hspace _ _)).append (hmodule _)

/-! The other pattern matches at the start of a line only. -/

theorem newline_notMem {t : Text} (h : ∀ c ∈ t, Text.isBlank c = false) : '\n' ∉ t :=
  fun hc => absurd (h _ hc) (by decide)

theorem newline_notMem_names {sep : Text} (hsep : '\n' ∉ sep) (names : List Name) :
    '\n' ∉ Text.join sep (names.map (·.text)) := by
  intro h
  rcases Text.mem_join h with h | ⟨t, ht, h⟩
  · exact hsep h
  · obtain ⟨n, -, rfl⟩ := List.mem_map.mp ht
    exact newline_notMem n.isBlank_eq_false h

theorem newline_notMem_asName (renamed : Option Name) : '\n' ∉ ImportLine.asName renamed := by
  cases renamed with
  | none => exact List.not_mem_nil
  | some name =>
    rw [ImportLine.asName, List.mem_append, not_or]
    exact ⟨by decide, newline_notMem name.isBlank_eq_false⟩

theorem newline_notMem_text (line : ImportLine) : '\n' ∉ line.text := by
  cases line with
  | members indent target names =>
    have hindent : '\n' ∉ List.replicate indent ' ' := by
      intro h
      exact absurd (List.eq_of_mem_replicate h) (by decide)
    have hmodule := newline_notMem target.solid
    have hnames : '\n' ∉ Text.join ", " (names.map (·.text)) :=
      newline_notMem_names (by decide) names
    unfold ImportLine.text
    rw [List.mem_append, List.mem_append, List.mem_append, List.mem_append]
    rintro ((((h | h) | h) | h) | h)
    exacts [hindent h, absurd h (by decide), hmodule h, absurd h (by decide), hnames h]
  | whole target renamed =>
    have hmodule := newline_notMem target.solid
    unfold ImportLine.text
    rw [List.mem_append, List.mem_append]
    rintro ((h | h) | h)
    exacts [absurd h (by decide), hmodule h, newline_notMem_asName renamed h]
  | indented indentation target =>
    have hindent : '\n' ∉ indentation.text := fun h => (indentation.blank _ h).2 rfl
    have hmodule := newline_notMem target.solid
    unfold ImportLine.text
    rw [List.mem_append, List.mem_append]
    rintro ((h | h) | h)
    exacts [hindent h, absurd h (by decide), hmodule h]

theorem atLineStart_charBefore {before : Option Char} {part : Text} (hne : part ≠ [])
    (hpart : '\n' ∉ part) : atLineStart (Pattern.charBefore before part) = false := by
  have hlast : part.getLast hne ≠ '\n' := by
    intro h
    exact hpart (h ▸ List.getLast_mem hne)
  rw [Pattern.charBefore, List.getLast?_eq_some_getLast hne]
  exact decide_eq_false hlast

/-- Inside a line nothing matches. -/
theorem plainImport_passes_inside {before : Option Char} (hbefore : atLineStart before = false)
    {part rest : Text} (hpart : '\n' ∉ part) : plainImport.Passes before part [] rest := by
  apply Pattern.Passes.of_none
  rintro read c here rfl
  have hread : atLineStart (Pattern.charBefore before read) = false := by
    by_cases hne : read = []
    · rw [hne]
      exact hbefore
    · exact atLineStart_charBefore hne fun h => hpart (List.mem_append_left _ h)
  unfold plainImport
  rw [hread]
  rfl

theorem plainImport_passes_line {before : Option Char} {part rest : Text}
    (hhead : part.head? ≠ some 'i') (hpart : '\n' ∉ part) :
    plainImport.Passes before part [] rest := by
  cases part with
  | nil => exact .nil before rest
  | cons c part =>
    have hc : 'i' ∉ [c] := by
      rw [List.mem_singleton]
      rintro rfl
      exact hhead rfl
    rw [List.mem_cons, not_or] at hpart
    have hfirst : plainImport.Passes before [c] [] (part ++ rest) :=
      .of_notMem starts_plainImport hc
    have hnext : atLineStart (Pattern.charBefore before [c]) = false :=
      atLineStart_charBefore (by simp) (by simp [hpart.1])
    exact hfirst.append (plainImport_passes_inside hnext hpart.2)

theorem plainImport_passes_whole {before : Option Char} (hbefore : atLineStart before = true)
    (target : ModuleName) (renamed : Option Name) {rest : Text}
    (hrest : ∀ c ∈ rest.head?, isModuleChar c = false) :
    plainImport.Passes before (ImportLine.whole target renamed).text
      (if leadOf target.text = [] then [] else [leadOf target.text]) rest := by
  have hline := newline_notMem_text (.whole target renamed)
  have hstop : ∀ c ∈ (ImportLine.asName renamed ++ rest).head?, isModuleChar c = false := by
    cases renamed with
    | none => exact hrest
    | some name =>
      intro c hc
      obtain rfl := Option.mem_some_iff.mp hc
      decide
  have heq := plainImport_eq hbefore target hstop
  split_ifs at heq ⊢ with hnone
  · have hfirst : plainImport before
        ('i' :: ("mport ".toList ++ target.text ++ ImportLine.asName renamed ++ rest)) = none := by
      rw [List.append_assoc, List.append_assoc]
      exact heq
    have hbehind : '\n' ∉ "mport ".toList ++ target.text ++ ImportLine.asName renamed :=
      fun h => hline (List.mem_cons_of_mem 'i' h)
    exact .cons hfirst (plainImport_passes_inside rfl hbehind)
  · have hsplit : (ImportLine.whole target renamed).text =
        "import ".toList ++ leadOf target.text ++
          (target.text.dropWhile isModuleChar ++ ImportLine.asName renamed) := by
      rw [← List.append_assoc, List.append_assoc "import ".toList, leadOf_append_dropWhile]
      rfl
    have hmatch : plainImport.Passes before ("import ".toList ++ leadOf target.text)
        [leadOf target.text]
        (target.text.dropWhile isModuleChar ++ ImportLine.asName renamed ++ rest) := by
      apply Pattern.Passes.of_match (by simp)
      rw [List.append_assoc, ← List.append_assoc (leadOf _), ← List.append_assoc (leadOf _),
        leadOf_append_dropWhile, List.append_assoc, List.append_assoc]
      exact heq
    rw [hsplit, List.mem_append, not_or] at hline
    have hnext : atLineStart (Pattern.charBefore before ("import ".toList ++ leadOf target.text)) =
        false := atLineStart_charBefore (by simp) hline.1
    rw [hsplit]
    exact hmatch.append (plainImport_passes_inside hnext hline.2)

theorem plainImport_passes (line : ImportLine) {before : Option Char}
    (hbefore : atLineStart before = true) {rest : Text}
    (hrest : ∀ c ∈ rest.head?, isModuleChar c = false) :
    plainImport.Passes before line.text ((line.ofWhole?.map leadOf).filter (· ≠ [])).toList
      rest := by
  have hline := newline_notMem_text line
  cases line with
  | members indent target names =>
    have hhead : (ImportLine.members indent target names).text.head? ≠ some 'i' := by
      unfold ImportLine.text
      cases indent with
      | zero => exact fun h => absurd (Option.some.inj h) (by decide)
      | succ indent => exact fun h => absurd (Option.some.inj h) (by decide)
    exact plainImport_passes_line hhead hline
  | whole target renamed =>
    have hfound : (((ImportLine.whole target renamed).ofWhole?.map leadOf).filter (· ≠ [])).toList =
        if leadOf target.text = [] then [] else [leadOf target.text] := by
      by_cases hnone : leadOf target.text = [] <;>
        simp [ImportLine.ofWhole?, Option.filter_some, hnone]
    rw [hfound]
    exact plainImport_passes_whole hbefore target renamed hrest
  | indented indentation target =>
    have hhead : (ImportLine.indented indentation target).text.head? ≠ some 'i' := by
      obtain ⟨c, more, hcons⟩ := List.exists_cons_of_ne_nil indentation.nonempty
      have hblank := (indentation.blank c (by rw [hcons]; exact List.mem_cons_self)).1
      have hhead : (ImportLine.indented indentation target).text.head? = some c := by
        unfold ImportLine.text
        simp only [hcons, List.cons_append, List.head?_cons]
      rw [hhead, Ne, Option.some_inj]
      rintro rfl
      exact absurd hblank (by decide)
    exact plainImport_passes_line hhead hline

/-! What is found in lines one below the other. -/

theorem outsideWord_of_atLineStart {before : Option Char} (h : atLineStart before = true) :
    outsideWord before = true := by
  cases before with
  | none => rfl
  | some c =>
    obtain rfl : c = '\n' := of_decide_eq_true h
    decide

/-- Behind a line stands a line break or nothing. -/
theorem head?_lineEnd {rest : Text} (h : rest = [] ∨ "\n".toList <+: rest) :
    ∀ c ∈ rest.head?, c = '\n' := by
  rcases h with rfl | ⟨more, rfl⟩
  · intro c hc
    exact absurd hc (by simp)
  · intro c hc
    exact (Option.mem_some_iff.mp hc).symm

theorem atWordEnd_lineEnd {rest : Text} (h : ∀ c ∈ rest.head?, c = '\n') :
    atWordEnd rest = true := by
  unfold atWordEnd
  cases hhead : rest.head? with
  | none => rfl
  | some c =>
    rw [h c hhead]
    decide

theorem findAll_fromStatement (lines : List ImportLine) :
    fromStatement.findAll (ImportLine.join lines) =
      (lines.filterMap ImportLine.ofMembers?).filter fun m => leadOf m = m := by
  rw [List.filter_filterMap, List.filterMap_eq_flatMap_toList]
  refine Pattern.findAll_join (fun before => atLineStart before = true) rfl ?_ ?_ lines
  · intro line before rest hbefore hrest
    exact fromStatement_passes line (outsideWord_of_atLineStart hbefore)
      (atWordEnd_lineEnd (head?_lineEnd hrest))
  · exact fun before rest => ⟨.of_notMem starts_fromStatement (by decide), rfl⟩

theorem findAll_plainImport (lines : List ImportLine) :
    plainImport.findAll (ImportLine.join lines) =
      ((lines.filterMap ImportLine.ofWhole?).map leadOf).filter (· ≠ []) := by
  rw [List.map_filterMap, List.filter_filterMap, List.filterMap_eq_flatMap_toList]
  refine Pattern.findAll_join (fun before => atLineStart before = true) rfl ?_ ?_ lines
  · intro line before rest hbefore hrest
    apply plainImport_passes line hbefore
    intro c hc
    rw [head?_lineEnd hrest c hc]
    decide
  · exact fun before rest => ⟨.of_notMem starts_plainImport (by decide), rfl⟩

/-- What is read from lines that import: of the modules of which names are taken those that are read
in full, and what is read of those that are imported whole. -/
theorem pythonPaths_join (lines : List ImportLine) :
    pythonPaths (ImportLine.join lines) =
      (((lines.filterMap ImportLine.ofMembers?).filter fun m => leadOf m = m) ++
        ((lines.filterMap ImportLine.ofWhole?).map leadOf).filter (· ≠ [])).map modulePath := by
  rw [pythonPaths, findAll_fromStatement, findAll_plainImport]

/-! When the modules are read in full. -/

theorem length_modulePath (name : Text) : (modulePath name).length = name.length + 3 := by
  have hreplace : (Text.replaceChar '.' "/" name).length = name.length := by
    unfold Text.replaceChar
    induction name with
    | nil => rfl
    | cons c name ih =>
      rw [List.flatMap_cons, List.length_append, ih]
      split_ifs <;> simp [Nat.add_comm]
  rw [modulePath, List.length_append, hreplace]
  rfl

/-- No other part of a name stands for the same file. -/
theorem modulePath_leadOf {name : Text} (h : modulePath (leadOf name) = modulePath name) :
    leadOf name = name := by
  have hlength := congrArg List.length h
  rw [length_modulePath, length_modulePath] at hlength
  exact (List.takeWhile_prefix isModuleChar).eq_of_length (Nat.add_right_cancel hlength)

theorem filter_eq_self_of_length {as bs : List Text} {p q : Text → Bool}
    (h : (as.filter p).length + (bs.filter q).length = as.length + bs.length) :
    as.filter p = as ∧ bs.filter q = bs := by
  have hp := List.length_filter_le p as
  have hq := List.length_filter_le q bs
  exact ⟨List.filter_sublist.eq_of_length (by omega), List.filter_sublist.eq_of_length (by omega)⟩

theorem ImportLine.ne_nil_of_ofWhole? {lines : List ImportLine} {m : Text}
    (h : m ∈ lines.filterMap ImportLine.ofWhole?) : m ≠ [] := by
  obtain ⟨line, -, hline⟩ := List.mem_filterMap.mp h
  cases line with
  | members indent target names => exact absurd hline (by simp [ofWhole?])
  | whole target renamed =>
    rw [← Option.some.inj hline]
    exact target.text_ne_nil
  | indented indentation target => exact absurd hline (by simp [ofWhole?])

/-- From lines that import, the file of every module that they name is read, one for each and in
their order, if and only if the modules are named by word characters and dots. -/
theorem pythonPaths_join_iff (lines : List ImportLine) :
    pythonPaths (ImportLine.join lines) = (ImportLine.modules lines).map modulePath ↔
      ∀ m ∈ ImportLine.modules lines, ∀ c ∈ m, isModuleChar c = true := by
  have hchars : (∀ m ∈ ImportLine.modules lines, ∀ c ∈ m, isModuleChar c = true) ↔
      (∀ m ∈ lines.filterMap ImportLine.ofMembers?, leadOf m = m) ∧
        ∀ m ∈ lines.filterMap ImportLine.ofWhole?, leadOf m = m := by
    rw [ImportLine.modules, List.forall_mem_append]
    simp only [leadOf_eq_self_iff]
  rw [hchars, pythonPaths_join, ImportLine.modules]
  constructor
  · intro h
    -- As many are found as there are, so none is passed over.
    have hlength := congrArg List.length h
    rw [List.length_map, List.length_map, List.length_append, List.length_append] at hlength
    have hleads : ((lines.filterMap ImportLine.ofWhole?).map leadOf).length =
        (lines.filterMap ImportLine.ofWhole?).length := List.length_map leadOf
    obtain ⟨hmembers, hwhole⟩ := filter_eq_self_of_length (hlength.trans (by rw [hleads]))
    rw [hmembers, hwhole, List.map_append, List.map_append, List.append_cancel_left_eq,
      List.map_map, List.map_inj_left] at h
    rw [List.filter_eq_self] at hmembers
    exact ⟨fun m hm => of_decide_eq_true (hmembers m hm), fun m hm => modulePath_leadOf (h m hm)⟩
  · rintro ⟨hmembers, hwhole⟩
    have hlead : (lines.filterMap ImportLine.ofWhole?).map leadOf =
        lines.filterMap ImportLine.ofWhole? := by
      rw [List.map_congr_left hwhole, List.map_id']
    rw [hlead, List.filter_eq_self.mpr, List.filter_eq_self.mpr]
    · exact fun m hm => decide_eq_true (ImportLine.ne_nil_of_ofWhole? hm)
    · exact fun m hm => decide_eq_true (hmembers m hm)

example : pythonPaths "from ..a import x, y\n    import b\nimport c.d as e" =
    ["//a.py".toList, "c/d.py".toList] := by
  decide +kernel

/-- A name with vowel signs, which are no word characters. -/
def vowelSigns : Name where
  text := "हिन्दी"
  nonempty := by decide
  solid := by
    have hsolid : "हिन्दी".toList.all (fun c => !Text.isBlank c && c ≠ '.') = true := by
      decide +kernel
    simpa using List.all_eq_true.mp hsolid
  free := by
    have hfree : 'f' ∉ "हिन्दी".toList := by decide
    intro read h
    rw [h] at hfree
    exact absurd (List.mem_append_right read (by decide)) hfree

theorem pythonPaths_join_vowelSigns :
    pythonPaths (ImportLine.join [.whole ⟨0, [vowelSigns], by decide⟩ none]) = ["ह.py".toList] ∧
      (ImportLine.modules [.whole ⟨0, [vowelSigns], by decide⟩ none]).map modulePath =
        ["हिन्दी.py".toList] ∧
      pythonPaths (ImportLine.join [.whole ⟨0, [vowelSigns], by decide⟩ none]) ≠
        (ImportLine.modules [.whole ⟨0, [vowelSigns], by decide⟩ none]).map modulePath := by
  decide +kernel

end Specifier
end CodeGraph
