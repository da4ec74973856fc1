import CodeGraph.Proofs.Pattern.Pieces
import CodeGraph.Proofs.Pattern.Search
import CodeGraph.Source.Specifier

/-! Calls of `require`: their form, and that the search loses none with a relative path. -/
namespace CodeGraph

namespace Specifier

/-- The text `here` starts with a call of `require` on the quoted `path`, and `rest` is behind. -/
inductive IsRequireCall (path rest : Text) : (here : Text) → Prop
  | mk {blanks₁ blanks₂ blanks₃ : Text} {open_ close : Char}
      (blank₁ : ∀ c ∈ blanks₁, Text.isBlank c = true)
      (blank₂ : ∀ c ∈ blanks₂, Text.isBlank c = true)
      (blank₃ : ∀ c ∈ blanks₃, Text.isBlank c = true)
      (opens : isQuote open_ = true) (closes : isQuote close = true)
      (nonempty : path ≠ []) (unquoted : ∀ c ∈ path, isQuote c = false) :
      IsRequireCall path rest ("require".toList ++ (blanks₁ ++ '(' ::
        (blanks₂ ++ open_ :: (path ++ close :: (blanks₃ ++ ')' :: rest)))))

theorem requireCall_eq_some_iff {before : Option Char} {here path rest : Text} :
    requireCall before here = some (path, rest) ↔
      outsideWord before = true ∧ IsRequireCall path rest here := by
  have hopen : Text.isBlank '(' = false := by decide
  have hclose : Text.isBlank ')' = false := by decide
  constructor
  · intro h
    unfold requireCall at h
    rw [guard_bind_eq_some_iff] at h
    obtain ⟨hbefore, h⟩ := h
    obtain ⟨r₁, hword, h⟩ := Option.bind_eq_some_iff.mp h
    obtain ⟨r₂, hparen, h⟩ := Option.bind_eq_some_iff.mp h
    obtain ⟨⟨quoted, r₃⟩, hquoted, h⟩ := Option.bind_eq_some_iff.mp h
    obtain ⟨r₄, hend, h⟩ := Option.bind_eq_some_iff.mp h
    obtain ⟨rfl, rfl⟩ := Prod.mk.inj (Option.some.inj h)
    rw [Text.dropPrefix?_eq_some_iff] at hword
    rw [char?_eq_some_iff, Text.stripLeft_eq_cons_iff hopen] at hparen
    rw [char?_eq_some_iff, Text.stripLeft_eq_cons_iff hclose] at hend
    obtain ⟨q, q', hq, hq', hne, hunquoted, hstrip⟩ := quotedText?_eq_some_iff.mp hquoted
    rw [Text.stripLeft_eq_cons_iff (isBlank_of_isQuote hq)] at hstrip
    obtain ⟨b₁, hb₁, rfl⟩ := hparen
    obtain ⟨b₂, hb₂, rfl⟩ := hstrip
    obtain ⟨b₃, hb₃, rfl⟩ := hend
    rw [hword]
    exact ⟨hbefore, .mk hb₁ hb₂ hb₃ hq hq' hne hunquoted⟩
  · rintro ⟨hbefore, hcall⟩
    cases hcall with
    | @mk b₁ b₂ b₃ q q' hb₁ hb₂ hb₃ hq hq' hne hunquoted =>
      have hword := Text.dropPrefix?_eq_some_iff.mpr
        (rfl : "require".toList ++ (b₁ ++ '(' :: (b₂ ++ q :: (path ++ q' :: (b₃ ++ ')' :: rest)))) =
          _)
      have hparen := (Text.stripLeft_eq_cons_iff hopen).mpr
        ⟨b₁, hb₁, (rfl : _ = b₁ ++ '(' :: (b₂ ++ q :: (path ++ q' :: (b₃ ++ ')' :: rest))))⟩
      have hstrip := (Text.stripLeft_eq_cons_iff (isBlank_of_isQuote hq)).mpr
        ⟨b₂, hb₂, (rfl : _ = b₂ ++ q :: (path ++ q' :: (b₃ ++ ')' :: rest)))⟩
      have hend := (Text.stripLeft_eq_cons_iff hclose).mpr
        ⟨b₃, hb₃, (rfl : _ = b₃ ++ ')' :: rest)⟩
      have hquoted := quotedText?_eq_some_iff.mpr
        ⟨q, q', hq, hq', hne, hunquoted,
          (rfl : _ = q :: (path ++ q' :: (b₃ ++ ')' :: rest)))⟩
      unfold requireCall
      rw [guard_bind_eq_some_iff]
      refine ⟨hbefore, ?_⟩
      simp only [Option.bind_eq_bind, hword, hparen, hstrip, hquoted, hend, Option.bind_some,
        char?_eq_some_iff.mpr rfl]
      rfl

theorem IsRequireCall.starts {path rest here : Text} (h : IsRequireCall path rest here) :
    ∃ behind, here = 'r' :: 'e' :: 'q' :: behind := by
  cases h with
  | mk => exact ⟨_, rfl⟩

/-- The first quote in a call opens the path. -/
theorem IsRequireCall.first_quote {path rest here : Text} (h : IsRequireCall path rest here) :
    ∃ (word : Text) (q : Char) (behind : Text), (∀ c ∈ word, isQuote c = false) ∧
      isQuote q = true ∧ path ≠ [] ∧ here = word ++ q :: (path ++ behind) := by
  cases h with
  | @mk b₁ b₂ b₃ q q' hb₁ hb₂ hb₃ hq hq' hne hunquoted =>
    have hblank : ∀ c, Text.isBlank c = true → isQuote c = false := by
      intro c hc
      rw [Bool.eq_false_iff]
      intro hquote
      rw [isBlank_of_isQuote hquote] at hc
      exact absurd hc (by decide)
    have hword : ∀ c ∈ "require".toList, isQuote c = false := by simp [isQuote]
    refine ⟨"require".toList ++ (b₁ ++ '(' :: b₂), q, q' :: (b₃ ++ ')' :: rest), ?_, hq, hne, ?_⟩
    · intro c hc
      simp only [List.mem_append, List.mem_cons] at hc
      rcases hc with hc | hc | rfl | hc
      · exact hword c (by simpa using hc)
      · exact hblank c (hb₁ c hc)
      · decide
      · exact hblank c (hb₂ c hc)
    · simp

theorem isRelative_eq_false {c : Char} {path : Text} (hc : c ≠ '.') :
    isRelative (c :: path) = false := by
  unfold isRelative Text.startsWith
  simp [List.isPrefixOf, Ne.symm hc]

theorem notMem_of_blank {b : Text} (hb : ∀ c ∈ b, Text.isBlank c = true) : 'r' ∉ b := by
  intro hmem
  exact absurd (hb 'r' hmem) (by decide)

theorem ne_of_isQuote {q : Char} (hq : isQuote q = true) : 'r' ≠ q := by
  rintro rfl
  exact absurd hq (by decide)

/-- The word `require` starts again only within the path of a call or behind the call. -/
theorem IsRequireCall.suffix_cases {path rest here : Text} {c : Char}
    (h : IsRequireCall path rest (c :: here)) {v : Text} (hv : 'r' :: 'e' :: 'q' :: v <:+ here) :
    'r' :: 'e' :: 'q' :: v <:+ rest ∨
      ∃ w q b, w <:+ path ∧ isQuote q = true ∧ (∀ c ∈ b, Text.isBlank c = true) ∧
        'r' :: 'e' :: 'q' :: v = w ++ q :: (b ++ ')' :: rest) := by
  generalize htext : c :: here = text at h
  cases h with
  | @mk b₁ b₂ b₃ q q' hb₁ hb₂ hb₃ hq hq' hne hunquoted =>
    have hhere : here = "equi".toList ++ ('r' :: 'e' :: (b₁ ++ '(' ::
        (b₂ ++ q :: (path ++ q' :: (b₃ ++ ')' :: rest))))) := (List.cons.inj htext).2
    rw [hhere] at hv
    have hword := Text.suffix_of_notMem hv (by decide)
    rcases List.suffix_cons_iff.mp hword with heq | hword
    · -- The end of the word `require` itself.
      exfalso
      have htail : 'q' :: v = b₁ ++ '(' :: (b₂ ++ q :: (path ++ q' :: (b₃ ++ ')' :: rest))) := by
        simpa using heq
      cases b₁ with
      | nil => exact absurd (List.cons.inj htail).1 (by decide)
      | cons x b₁ =>
        have hblank := hb₁ x List.mem_cons_self
        rw [← (List.cons.inj htail).1] at hblank
        exact absurd hblank (by decide)
    · have hpath : 'r' :: 'e' :: 'q' :: v <:+ path ++ (q' :: (b₃ ++ ')' :: rest)) := by
        have hsplit : 'e' :: (b₁ ++ '(' :: (b₂ ++ q :: (path ++ q' :: (b₃ ++ ')' :: rest)))) =
            ('e' :: (b₁ ++ '(' :: (b₂ ++ [q]))) ++ (path ++ q' :: (b₃ ++ ')' :: rest)) := by simp
        rw [hsplit] at hword
        refine Text.suffix_of_notMem hword ?_
        simp only [List.mem_cons, List.mem_append, List.not_mem_nil, or_false]
        rintro (h | h | h | h | h)
        · exact absurd h (by decide)
        · exact notMem_of_blank hb₁ h
        · exact absurd h (by decide)
        · exact notMem_of_blank hb₂ h
        · exact ne_of_isQuote hq h
      rcases Text.suffix_append_cases hpath with hbehind | ⟨w, hw, heq⟩
      · left
        have hsplit : q' :: (b₃ ++ ')' :: rest) = (q' :: (b₃ ++ [')'])) ++ rest := by simp
        rw [hsplit] at hbehind
        refine Text.suffix_of_notMem hbehind ?_
        simp only [List.mem_cons, List.mem_append, List.not_mem_nil, or_false]
        rintro (h | h | h)
        · exact ne_of_isQuote hq' h
        · exact notMem_of_blank hb₃ h
        · exact absurd h (by decide)
      · exact Or.inr ⟨w, q', b₃, hw, hq', hb₃, heq⟩

theorem IsRequireCall.unquoted {path rest here : Text} (h : IsRequireCall path rest here) :
    ∀ c ∈ path, isQuote c = false := by
  cases h with
  | mk _ _ _ _ _ _ hunquoted => exact hunquoted

/-- A call within the text of another one would take its path from behind the closing quote,
where no relative path can start. -/
theorem clear_requireCall : requireCall.Clear isRelative := by
  intro before c here path rest h v hv hlen before' path' rest' h'
  obtain ⟨-, hcall⟩ := requireCall_eq_some_iff.mp h
  obtain ⟨-, hcall'⟩ := requireCall_eq_some_iff.mp h'
  obtain ⟨v', rfl⟩ := hcall'.starts
  rcases hcall.suffix_cases hv with hbehind | ⟨w, q, b, hw, hq, hb, heq⟩
  · have := hbehind.length_le
    omega
  · obtain ⟨word, p, behind, hunquoted', hp, hne', heq'⟩ := hcall'.first_quote
    rw [heq] at heq'
    have hw' : ∀ c ∈ w, isQuote c = false := fun c hc => hcall.unquoted c (hw.subset hc)
    obtain ⟨-, -, hbehind⟩ := append_quote_inj hw' hunquoted' hq hp heq'
    cases path' with
    | nil => exact absurd rfl hne'
    | cons x path' =>
      apply isRelative_eq_false
      rintro rfl
      cases b with
      | nil => exact absurd (List.cons.inj hbehind).1 (by decide)
      | cons y b =>
        have hblank := hb y List.mem_cons_self
        rw [(List.cons.inj hbehind).1] at hblank
        exact absurd hblank (by decide)

/-- A call with a relative path that does not continue a word is found, whatever is around it. -/
theorem mem_findAll_requireCall {read here path rest : Text}
    (hbefore : outsideWord read.getLast? = true) (h : IsRequireCall path rest here)
    (hpath : isRelative path = true) : path ∈ requireCall.findAll (read ++ here) := by
  have hmatch : path ∈ requireCall.everywhere none (read ++ here) := by
    obtain ⟨behind, rfl⟩ := h.starts
    rw [Pattern.mem_everywhere]
    refine ⟨read, _, _, rest, rfl, requireCall_eq_some_iff.mpr ⟨?_, h⟩⟩
    rwa [Pattern.charBefore, Option.or_none]
  have hfilter : path ∈ (requireCall.findAll (read ++ here)).filter isRelative := by
    rw [Pattern.filter_findAll clear_requireCall]
    exact List.mem_filter.mpr ⟨hmatch, hpath⟩
  exact (List.mem_filter.mp hfilter).1

/-- A call of `require` on this path stands at this place and does not continue a word. -/
def IsRequiredAt (content : Text) (place : Nat) (path : Text) : Prop :=
  outsideWord (content.take place).getLast? = true ∧
    ∃ rest, IsRequireCall path rest (content.drop place)

theorem mem_allMatches_requireCall {content path : Text} {place : Nat} :
    (place, path) ∈ requireCall.allMatches content ↔ IsRequiredAt content place path := by
  have hfound : requireCall.foundAt content place = some path ↔
      IsRequiredAt content place path := by
    unfold Pattern.foundAt IsRequiredAt
    rw [Option.map_eq_some_iff]
    constructor
    · rintro ⟨⟨found, rest⟩, hmatch, rfl⟩
      obtain ⟨hbefore, hcall⟩ := requireCall_eq_some_iff.mp hmatch
      exact ⟨hbefore, rest, hcall⟩
    · rintro ⟨hbefore, rest, hcall⟩
      exact ⟨(path, rest), requireCall_eq_some_iff.mpr ⟨hbefore, hcall⟩, rfl⟩
  rw [Pattern.mem_allMatches, hfound]
  constructor
  · exact And.right
  · intro hat
    have hlt : place < content.length := by
      obtain ⟨-, rest, hcall⟩ := hat
      obtain ⟨behind, hbehind⟩ := hcall.starts
      have hlength := congrArg List.length hbehind
      rw [List.length_drop, List.length_cons] at hlength
      omega
    exact ⟨hlt, hat⟩

/-- The calls with relative paths that are taken from a text are those at all of its places, each
once and in order: what the search passes over within a match has no relative path. -/
theorem javascriptPaths_requires (content : Text) :
    (∀ place path, (place, path) ∈ requireCall.allMatches content ↔
      IsRequiredAt content place path) ∧
    (requireCall.allMatches content).Pairwise (·.1 < ·.1) ∧
    (requireCall.findAll content).filter isRelative =
      ((requireCall.allMatches content).map (·.2)).filter isRelative ∧
    javascriptPaths content = (importStatement.findAll content).filter isRelative ++
      ((requireCall.allMatches content).map (·.2)).filter isRelative := by
  have hcalls : (requireCall.findAll content).filter isRelative =
      ((requireCall.allMatches content).map (·.2)).filter isRelative := by
    rw [Pattern.map_allMatches]
    exact Pattern.filter_findAll clear_requireCall content
  refine ⟨fun _ _ => mem_allMatches_requireCall, requireCall.pairwise_allMatches content,
    hcalls, ?_⟩
  unfold javascriptPaths
  rw [List.filter_append, hcalls]

/-- The second call stands in the path of the first, and takes its own path from behind it. -/
example : requireCall.findAll "require('require(')./a')" = ["require(".toList] ∧
    requireCall.allMatches "require('require(')./a')" =
      [(0, "require(".toList), (9, ")./a".toList)] := by
  decide +kernel

end Specifier
end CodeGraph
