import CodeGraph.Proofs.Pattern.RouteCalls

/-! Texts in which calls of verbs stand one after the other, with plain text between them. -/
namespace CodeGraph

theorem isPlain_of_mem_word {v : Verb} : ∀ c ∈ v.word, IsPlain c := by
  cases v <;> exact List.all_iff_forall_prop.mp (by decide)

theorem not_isPlain_of_isQuote {c : Char} (h : isQuote c = true) : ¬IsPlain c := by
  intro hc
  rw [hc.1] at h
  exact absurd h (by decide)

theorem foldLetter_of_toLower {c a : Char} (h : c.toLower = a) (ha : a ∈ Verb.letters) :
    foldLetter c = a := by
  have hspecial : ∀ c ∈ (['ſ', 'ı', 'İ', '\u212A'] : List Char), c.toLower ∉ Verb.letters :=
    List.all_iff_forall_prop.mp (by decide)
  have hnot : c ∉ (['ſ', 'ı', 'İ', '\u212A'] : List Char) := fun hc => hspecial c hc (h ▸ ha)
  simp only [List.mem_cons, List.not_mem_nil, or_false, not_or] at hnot
  obtain ⟨hs, hi, hi', hk⟩ := hnot
  unfold foldLetter
  rw [if_neg hs, if_neg (by simp [hi, hi']), if_neg hk, h]

theorem map_foldLetter_of_toLower {v : Verb} {word : Text} (h : word.map Char.toLower = v.word) :
    word.map foldLetter = v.word := by
  rw [← h]
  apply List.map_congr_left
  intro c hc
  exact foldLetter_of_toLower rfl (v.word_subset (h ▸ List.mem_map_of_mem hc))

namespace Route

theorem isPlain_of_mem_receiver {receiver : Text} (h : receiver ∈ receivers) :
    ∀ c ∈ receiver, IsPlain c := by
  have hall : ∀ receiver ∈ receivers, receiver.all (decide <| IsPlain ·) = true := by decide
  exact List.all_iff_forall_prop.mp (hall receiver h)

theorem map_foldLetter_receiver {receiver : Text} (h : receiver ∈ receivers) :
    receiver.map foldLetter = receiver := by
  have hall : ∀ receiver ∈ receivers, receiver.map foldLetter = receiver := by decide
  exact hall receiver h

variable {receiver : Text} (hreceiver : receiver ∈ receivers)
include hreceiver

/-- All that stands before the parenthesis of a call is plain. -/
theorem IsCall.exists_front {route : Route} {rest here : Text}
    (h : IsCall receiver route rest here) :
    ∃ head word gap behind : Text, here = head ++ (word ++ gap) ++ '(' :: behind ∧
      head.map foldLetter = receiver ∧ word.map foldLetter = route.verb.word ∧
      (∀ c ∈ gap, Text.isBlank c = true) ∧ ∀ c ∈ head ++ (word ++ gap), IsPlain c := by
  obtain @⟨head, word, after, hhead, hword, hafter⟩ := h
  obtain @⟨gap, inner, q, q', hgap, -, -, -, -, -⟩ := hafter
  refine ⟨head, word, gap, _, by rw [List.append_assoc, List.append_assoc], hhead, hword, hgap, ?_⟩
  have hhead' := isPlain_of_map_foldLetter hhead (isPlain_of_mem_receiver hreceiver)
  have hword' := isPlain_of_map_foldLetter hword isPlain_of_mem_word
  simp only [List.forall_mem_append]
  exact ⟨hhead', hword', fun c hc => isPlain_of_isBlank (hgap c hc)⟩

/-- No call begins with a quote or a parenthesis. -/
theorem call_eq_none {c : Char} (hc : ¬IsPlain c) (before : Option Char) (here : Text) :
    call receiver before (c :: here) = none := by
  rw [Option.eq_none_iff_forall_ne_some]
  rintro ⟨route, rest⟩ hmatch
  obtain ⟨head, word, gap, behind, heq, -, hword, -, hplain⟩ :=
    (call_eq_some_iff.mp hmatch).exists_front hreceiver
  cases hfront : head ++ (word ++ gap) with
  | nil =>
    have hnil : word = [] := by simp_all
    rw [hnil] at hword
    exact route.verb.word_ne_nil hword.symm
  | cons d front =>
    rw [hfront] at heq hplain
    rw [(List.cons.inj heq).1] at hc
    exact hc (hplain d List.mem_cons_self)

/-- No call runs across a quote that comes before every parenthesis. -/
theorem passes_quote {before : Option Char} {part rest : Text} {q : Char} (hpart : '(' ∉ part)
    (hq : isQuote q = true) : (call receiver).Passes before part [] (q :: rest) := by
  apply Pattern.Passes.of_no_match
  rintro read c here ⟨route, behind⟩ rfl hmatch
  obtain ⟨head, word, gap, behind', heq, -, -, -, hplain⟩ :=
    (call_eq_some_iff.mp hmatch).exists_front hreceiver
  have hfree : ∀ x ∈ c :: here, (x == '(') = false := by
    intro x hx
    rw [beq_eq_false_iff_ne]
    rintro rfl
    exact hpart (List.mem_append_right read hx)
  have hparen : (q == '(') = false := by
    rw [beq_eq_false_iff_ne]
    rintro rfl
    exact absurd hq (by decide)
  have hmem := Text.mem_of_append_eq hfree hparen (beq_self_eq_true '(') heq
  rw [(hplain q hmem).1] at hq
  exact absurd hq (by decide)

/-- Without a parenthesis there is no call. -/
theorem passes_plain {before : Option Char} {part : Text} (hpart : '(' ∉ part) :
    (call receiver).Passes before part [] [] := by
  apply Pattern.Passes.of_no_match
  rintro read c here ⟨route, behind⟩ rfl hmatch
  obtain ⟨head, word, gap, behind', heq, -⟩ :=
    (call_eq_some_iff.mp hmatch).exists_front hreceiver
  rw [List.append_nil] at heq
  refine hpart (List.mem_append_right read ?_)
  rw [heq]
  exact List.mem_append_right _ List.mem_cons_self

omit hreceiver in
/-- A verb does not end with a blank. -/
theorem gap_eq_nil {front word read gap : Text} {v : Verb} (hword : word.map foldLetter = v.word)
    (hgap : ∀ c ∈ gap, Text.isBlank c = true) (h : front ++ word = read ++ gap) : gap = [] := by
  rcases List.eq_nil_or_concat' gap with hnil | ⟨gap, c, rfl⟩
  · exact hnil
  rcases List.eq_nil_or_concat' word with rfl | ⟨word, d, rfl⟩
  · exact absurd hword.symm v.word_ne_nil
  simp only [← List.append_assoc] at h
  obtain ⟨rfl⟩ := List.cons.inj (List.append_inj' h rfl).2
  have hblank := hgap d (by simp)
  rw [isBlank_of_map_foldLetter hword d (by simp)] at hblank
  exact absurd hblank (by decide)

omit hreceiver in
/-- A text ends with one verb at most. -/
theorem front_eq_of_verbs {front front' word word' : Text} {v v' : Verb}
    (hword : word.map foldLetter = v.word) (hword' : word'.map foldLetter = v'.word)
    (h : front ++ word = front' ++ word') : front = front' := by
  have hv : v.word <:+ (front ++ word).map foldLetter :=
    hword ▸ (List.suffix_append front word).map foldLetter
  have hv' : v'.word <:+ (front ++ word).map foldLetter :=
    h ▸ hword' ▸ (List.suffix_append front' word').map foldLetter
  have hlength : word.length = word'.length := by
    rw [← List.length_map, hword, Verb.eq_of_suffixes hv hv', ← hword', List.length_map]
  exact (List.append_inj' h hlength).1

/-- A text ends with one receiver at most. -/
theorem eq_of_receivers {front front' head written : Text} (hwritten : written ∈ receivers)
    (hhead : head.map foldLetter = receiver) (h : front ++ written = front' ++ head) :
    receiver = written ∧ front' = front := by
  have hsuffix : receiver <:+ (front ++ written).map foldLetter :=
    h ▸ hhead ▸ (List.suffix_append front' head).map foldLetter
  have hsuffix' : written <:+ (front ++ written).map foldLetter := by
    rw [List.map_append, map_foldLetter_receiver hwritten]
    exact List.suffix_append _ _
  have hsame := receiver_eq_of_suffixes hreceiver hwritten hsuffix hsuffix'
  have hlength : written.length = head.length := by rw [← hsame, ← hhead, List.length_map]
  exact ⟨hsame, (List.append_inj' h hlength).1.symm⟩

/-- A call whose parenthesis stands right behind a written receiver and verb begins with that
receiver: it ends where the written one ends, and no verb or receiver ends with another. -/
theorem IsCall.eq_written {lead written word read x rest behind : Text} {v : Verb} {route : Route}
    (hwritten : written ∈ receivers) (hword : word.map foldLetter = v.word)
    (hplain : ∀ c ∈ lead ++ written ++ word, IsPlain c)
    (hsplit : lead ++ written ++ word = read ++ x)
    (h : IsCall receiver route rest (x ++ '(' :: behind)) : receiver = written ∧ read = lead := by
  obtain ⟨head, word', gap, behind', heq, hhead, hword', hgap, hfront⟩ := h.exists_front hreceiver
  have hparen : ∀ c ∈ x, (c == '(') = false := fun c hc =>
    beq_eq_false_iff_ne.mpr (hplain c (hsplit ▸ List.mem_append_right read hc)).2
  have hparen' : ∀ c ∈ head ++ (word' ++ gap), (c == '(') = false := fun c hc =>
    beq_eq_false_iff_ne.mpr (hfront c hc).2
  obtain ⟨rfl, -, -⟩ := Text.append_mark_inj (· == '(') hparen hparen'
    (beq_self_eq_true '(') (beq_self_eq_true '(') heq
  rw [← List.append_assoc, ← List.append_assoc] at hsplit
  obtain rfl := gap_eq_nil hword hgap hsplit
  rw [List.append_nil] at hsplit
  exact eq_of_receivers hreceiver hwritten hhead (front_eq_of_verbs hword hword' hsplit)

omit hreceiver

/-- Plain text, a call as it is usually written, and plain text. -/
structure Block where
  lead : Text
  receiver : Text
  verb : Verb
  word : Text
  opening : Char
  path : Text
  closing : Char
  tail : Text
  plain_lead : ∀ c ∈ lead, IsPlain c
  receiver_mem : receiver ∈ receivers
  word_eq : word.map Char.toLower = verb.word
  isQuote_opening : isQuote opening = true
  path_ne : path ≠ []
  plain_path : ∀ c ∈ path, IsPlain c
  isQuote_closing : isQuote closing = true
  plain_tail : ∀ c ∈ tail, IsPlain c

namespace Block

variable (b : Block)

/-- Everything from the receiver to the closing quote. -/
def callText : Text :=
  b.receiver ++ (b.word ++ '(' :: b.opening :: (b.path ++ [b.closing]))

def text : Text :=
  b.lead ++ (b.callText ++ b.tail)

def route : Route :=
  { verb := b.verb, path := b.path }

theorem callText_append (rest : Text) : b.callText ++ rest =
    b.receiver ++ b.word ++ '(' :: b.opening :: (b.path ++ b.closing :: rest) := by
  simp [callText]

variable {b}

theorem isCall (rest : Text) : IsCall b.receiver b.route rest (b.callText ++ rest) := by
  have hafter : OpensWith b.path rest
      ([] ++ '(' :: ([] ++ b.opening :: (b.path ++ b.closing :: rest))) :=
    .mk (by simp) (by simp) b.isQuote_opening b.isQuote_closing b.path_ne
      fun c hc => (b.plain_path c hc).1
  have hcall : IsCall b.receiver b.route rest (b.receiver ++ (b.word ++ _)) :=
    .mk (map_foldLetter_receiver b.receiver_mem) (map_foldLetter_of_toLower b.word_eq) hafter
  simpa [callText] using hcall

theorem plain_front {lead : Text} (hlead : ∀ c ∈ lead, IsPlain c) :
    ∀ c ∈ lead ++ b.receiver ++ b.word, IsPlain c := by
  simp only [List.forall_mem_append]
  exact ⟨⟨hlead, isPlain_of_mem_receiver b.receiver_mem⟩,
    isPlain_of_map_foldLetter (map_foldLetter_of_toLower b.word_eq) isPlain_of_mem_word⟩

include hreceiver

/-- Behind any plain text, the call of a block is found for its receiver and for no other. -/
theorem passes {before : Option Char} {lead rest : Text} (hlead : ∀ c ∈ lead, IsPlain c) :
    (call receiver).Passes before (lead ++ b.callText)
      (if b.receiver = receiver then [b.route] else []) rest := by
  have hwritten : ∀ {read x behind rest' : Text} {route : Route},
      lead ++ b.receiver ++ b.word = read ++ x →
        IsCall receiver route rest' (x ++ '(' :: behind) → receiver = b.receiver ∧ read = lead :=
    IsCall.eq_written hreceiver b.receiver_mem (map_foldLetter_of_toLower b.word_eq)
      (plain_front hlead)
  by_cases hown : b.receiver = receiver
  · rw [if_pos hown, ← List.nil_append [b.route]]
    refine Pattern.Passes.append (.of_no_match ?_) (.of_match (by simp [callText]) ?_)
    · rintro read c here ⟨route, behind⟩ rfl hmatch
      rw [callText_append, ← List.append_assoc, ← List.cons_append, call_eq_some_iff] at hmatch
      have hsplit : read ++ c :: here ++ b.receiver ++ b.word =
          read ++ c :: (here ++ (b.receiver ++ b.word)) := by simp
      have hread := (hwritten hsplit hmatch).2
      exact absurd (congrArg List.length hread) (by simp)
    · exact call_eq_some_iff.mpr (hown ▸ isCall rest)
  · rw [if_neg hown, ← List.append_nil (lead ++ b.callText), List.append_assoc, callText_append,
      ← List.append_assoc, ← List.append_assoc, ← List.nil_append []]
    refine Pattern.Passes.append (.of_no_match ?_) ?_
    · rintro read c here ⟨route, behind⟩ hread hmatch
      rw [List.cons_append, ← List.cons_append, call_eq_some_iff] at hmatch
      exact hown (hwritten hread hmatch).1.symm
    · have hpath : '(' ∉ b.path := fun hc => (b.plain_path '(' hc).2 rfl
      have hopening := not_isPlain_of_isQuote b.isQuote_opening
      have hclosing := not_isPlain_of_isQuote b.isQuote_closing
      refine .cons (call_eq_none hreceiver (by decide) _ _)
        (.cons (call_eq_none hreceiver hopening _ _) ?_)
      rw [← List.nil_append []]
      exact (passes_quote hreceiver hpath b.isQuote_closing).append
        (.cons (call_eq_none hreceiver hclosing _ _) (.nil _ _))

/-- The text behind a call and before the next one is plain again. -/
theorem passes_flatMap (blocks : List Block) {before : Option Char} {lead : Text}
    (hlead : ∀ c ∈ lead, IsPlain c) : (call receiver).Passes before (lead ++ blocks.flatMap text)
      ((blocks.filter (·.receiver = receiver)).map route) [] := by
  induction blocks generalizing before lead with
  | nil =>
    rw [List.flatMap_nil, List.append_nil]
    exact passes_plain hreceiver fun hc => (hlead '(' hc).2 rfl
  | cons b blocks ih =>
    have hnext : ∀ c ∈ b.lead ++ [], IsPlain c := by
      rw [List.append_nil]
      exact b.plain_lead
    have hfound : ((b :: blocks).filter (·.receiver = receiver)).map route =
        (if b.receiver = receiver then [b.route] else []) ++
          (blocks.filter (·.receiver = receiver)).map route := by
      rw [List.filter_cons]
      split_ifs <;> simp_all
    have htext : lead ++ (b :: blocks).flatMap text =
        (lead ++ b.lead ++ b.callText) ++ (b.tail ++ blocks.flatMap text) := by
      simp [text]
    rw [hfound, htext]
    refine (passes hreceiver ?_).append (ih b.plain_tail)
    exact List.forall_mem_append.mpr ⟨hlead, b.plain_lead⟩

theorem findAll_flatMap (blocks : List Block) : (call receiver).findAll (blocks.flatMap text) =
    (blocks.filter (·.receiver = receiver)).map route := by
  have hpasses : (call receiver).Passes none ([] ++ blocks.flatMap text)
      ((blocks.filter (·.receiver = receiver)).map route) [] :=
    passes_flatMap hreceiver blocks (by simp)
  exact hpasses.findAll_eq

end Block

/-- What is found in any text: routes of the five methods with quoted paths, each at a verb of its
own. -/
structure FoundOnce (content : Text) : Prop where
  routes : (sites content).map (·.2) = ofContent content
  places : ((sites content).map (·.1)).Nodup
  stands : ∀ site ∈ sites content, ∃ head word after,
    StandsAt site.2 content site.1 head word after
  methods : ∀ route ∈ ofContent content,
    route.verb.method ∈ (["GET", "POST", "PUT", "DELETE", "PATCH"] : List Text)
  paths : ∀ route ∈ ofContent content, route.path ≠ [] ∧ ∀ c ∈ route.path, isQuote c = false

theorem foundOnce (content : Text) : FoundOnce content := by
  have hstands : ∀ site ∈ sites content, ∃ head word after,
      StandsAt site.2 content site.1 head word after := by
    intro site hsite
    obtain ⟨receiver, hreceiver, hsite⟩ := List.mem_flatMap.mp hsite
    obtain ⟨⟨place, route⟩, hfound, rfl⟩ := List.mem_map.mp hsite
    obtain ⟨head, word, after, -, hstands⟩ := exists_standsAt hreceiver hfound
    exact ⟨head, word, after, hstands⟩
  refine ⟨map_sites content, nodup_map_sites content, hstands, ?_, ?_⟩
  · intro route _
    cases route.verb <;> decide
  · intro route hroute
    rw [← map_sites] at hroute
    obtain ⟨site, hsite, rfl⟩ := List.mem_map.mp hroute
    obtain ⟨head, word, after, hstand⟩ := hstands site hsite
    obtain ⟨rest, hpath⟩ := hstand.path
    obtain ⟨-, -, -, -, hne, hfree⟩ := hpath
    exact ⟨hne, hfree⟩

/-- Calls are found once in any text, and in a text of blocks exactly the calls of the blocks, one
receiver after the other. -/
theorem ofContent_faithful : (∀ content, FoundOnce content) ∧ ∀ blocks : List Block,
    (ofContent (blocks.flatMap Block.text)).map (fun route => (route.verb.method, route.path)) =
      (["app.", "router.", "@"] : List Text).flatMap fun receiver =>
        (blocks.filter (·.receiver = receiver)).map fun b => (b.word.map capital, b.path) := by
  refine ⟨foundOnce, fun blocks => ?_⟩
  rw [ofContent, List.map_flatMap]
  apply List.flatMap_congr
  intro receiver hreceiver
  rw [Block.findAll_flatMap hreceiver, List.map_map]
  apply List.map_congr_left
  intro b _
  rw [map_capital (map_foldLetter_of_toLower b.word_eq)]
  rfl

/-- The lead and the tail hold receivers and verbs, but no calls. -/
def routerBlock : Block where
  lead := "see app.get; user"
  receiver := "router."
  verb := .post
  word := "pOSt"
  opening := '"'
  path := "/users/:id"
  closing := '\''
  tail := ", router.get) @Put"
  plain_lead := List.all_iff_forall_prop.mp (by decide)
  receiver_mem := by decide
  word_eq := by decide
  isQuote_opening := by decide
  path_ne := by decide
  plain_path := List.all_iff_forall_prop.mp (by decide)
  isQuote_closing := by decide
  plain_tail := List.all_iff_forall_prop.mp (by decide)

theorem ofContent_faithful_routerBlock :
    (ofContent ([routerBlock, routerBlock].flatMap Block.text)).map
      (fun route => (route.verb.method, route.path)) =
        ([("POST", "/users/:id"), ("POST", "/users/:id")] : List (Text × Text)) :=
  (ofContent_faithful.2 [routerBlock, routerBlock]).trans (by decide)

/-- Receivers go first, and a long s is a letter of a verb. -/
example : ((ofContent "use@Get('/a'); myapp.poſt (\"/b\") app.PUT('/c'").map fun route =>
    (route.verb.method, route.path)) =
      ([("POST", "/b"), ("PUT", "/c"), ("GET", "/a")] : List (Text × Text)) := by
  decide +kernel

end Route
end CodeGraph
