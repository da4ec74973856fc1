import CodeGraph.Graph.Dot

/-! What a reader of the DOT language sees in a drawing: the statements for its nodes and edges, just
if no text in it ends in a backslash. -/
namespace CodeGraph

namespace Dot

inductive Token
  | quoted (t : Text)
  | mark (c : Char)
deriving DecidableEq, Repr

/-- The string literals of a text and the characters between them. In a literal, a backslash and a
quote stand for a quote, and any other quote ends it. `read` holds what was read of an open literal,
last character first. -/
def tokens? : (literal : Option Text) → Text → Option (List Token)
  | none, [] => some []
  | none, '"' :: t => tokens? (some []) t
  | none, c :: t => (tokens? none t).map (.mark c :: ·)
  | some _, [] => none
  | some read, '\\' :: '"' :: t => tokens? (some ('"' :: read)) t
  | some read, '"' :: t => (tokens? none t).map (.quoted read.reverse :: ·)
  | some read, c :: t => tokens? (some (c :: read)) t

theorem tokens?_mark {c : Char} (hc : c ≠ '"') (t : Text) :
    tokens? none (c :: t) = (tokens? none t).map (.mark c :: ·) := by
  rw [tokens?]
  simpa using hc

theorem tokens?_char {c : Char} (hc : c ≠ '"') {t : Text} (ht : c = '\\' → t.head? ≠ some '"')
    (read : Text) : tokens? (some read) (c :: t) = tokens? (some (c :: read)) t := by
  rw [tokens?]
  · rintro u rfl rfl
    exact ht rfl rfl
  · exact hc

/-- What was read of a literal begins the next token. -/
theorem tokens?_some {read t : Text} {tokens : List Token} (h : tokens? (some read) t = some tokens) :
    ∃ more rest, tokens = .quoted (read.reverse ++ more) :: rest := by
  generalize hstate : some read = state at h
  fun_induction tokens? state t generalizing read tokens with
  | case1 | case2 | case3 => cases hstate
  | case4 => cases h
  | case5 open_ t ih =>
    cases hstate
    obtain ⟨more, rest, rfl⟩ := ih rfl h
    exact ⟨'"' :: more, rest, by simp⟩
  | case6 open_ t =>
    cases hstate
    obtain ⟨tokens, -, rfl⟩ := Option.map_eq_some_iff.mp h
    exact ⟨[], tokens, by simp⟩
  | case7 open_ c t _ _ ih =>
    cases hstate
    obtain ⟨more, rest, rfl⟩ := ih rfl h
    exact ⟨c :: more, rest, by simp⟩

/-! Writing tokens. -/

/-- A text as it stands between the quotes of a literal. -/
def escape (t : Text) : Text :=
  Text.replaceChar '"' "\\\"" t

theorem escape_append (t u : Text) : escape (t ++ u) = escape t ++ escape u :=
  List.flatMap_append

theorem escape_quote (t : Text) : escape ('"' :: t) = '\\' :: '"' :: escape t := rfl

theorem escape_char {c : Char} (hc : c ≠ '"') (t : Text) : escape (c :: t) = c :: escape t := by
  simp [escape, Text.replaceChar, hc]

theorem head?_escape_append {t : Text} (ht : t ≠ []) (rest : Text) :
    (escape t ++ rest).head? ≠ some '"' := by
  cases t with
  | nil => exact absurd rfl ht
  | cons c t =>
    by_cases hc : c = '"'
    · rw [hc, escape_quote]
      simp
    · rw [escape_char hc]
      simpa using hc

/-- Inside of a literal an escaped text is read as it is, unless its last backslash escapes the
quote behind it. -/
theorem tokens?_escape {t : Text} (read rest : Text)
    (hrest : t.getLast? = some '\\' → rest.head? ≠ some '"') :
    tokens? (some read) (escape t ++ rest) = tokens? (some (t.reverse ++ read)) rest := by
  induction t generalizing read with
  | nil => rfl
  | cons c t ih =>
    have hlast : t.getLast? = some '\\' → rest.head? ≠ some '"' := by
      intro ht
      apply hrest
      rw [List.getLast?_cons, ht]
      rfl
    rw [List.reverse_cons, List.append_assoc]
    by_cases hc : c = '"'
    · subst hc
      exact ih _ hlast
    · have hnext : c = '\\' → (escape t ++ rest).head? ≠ some '"' := by
        rintro rfl
        by_cases ht : t = []
        · subst ht
          exact hrest rfl
        · exact head?_escape_append ht rest
      rw [escape_char hc, List.cons_append, tokens?_char hc hnext]
      exact ih _ hlast

/-- A backslash at the end takes the closing quote into the text. -/
theorem tokens?_escape_backslash (t rest : Text) :
    tokens? (some []) (escape (t ++ ['\\']) ++ '"' :: rest) =
      tokens? (some ('"' :: t.reverse)) rest := by
  have hescape : escape (t ++ ['\\']) ++ '"' :: rest = escape t ++ '\\' :: '"' :: rest := by
    rw [escape_append, List.append_assoc]
    rfl
  rw [hescape, tokens?_escape _ _ (by simp), tokens?, List.append_nil]

def Token.write : Token → Text
  | .quoted t => literal t
  | .mark c => [c]

theorem literal_append (t rest : Text) : literal t ++ rest = '"' :: (escape t ++ '"' :: rest) := by
  simp [literal, escape]

/-- Tokens are read as they were written, just if no quoted text ends in a backslash. -/
theorem tokens?_flatMap_write {tokens : List Token} (hmarks : .mark '"' ∉ tokens) :
    tokens? none (tokens.flatMap Token.write) = some tokens ↔
      ∀ t, .quoted t ∈ tokens → t.getLast? ≠ some '\\' := by
  induction tokens with
  | nil => simp [tokens?]
  | cons token tokens ih =>
    rw [List.mem_cons, not_or] at hmarks
    have hrest := ih hmarks.2
    rw [List.flatMap_cons]
    cases token with
    | mark c =>
      have hc : c ≠ '"' := fun hc => hmarks.1 (congrArg Token.mark hc.symm)
      change tokens? none (c :: _) = _ ↔ _
      rw [tokens?_mark hc]
      simp [hrest]
    | quoted t =>
      change tokens? none (literal t ++ _) = _ ↔ _
      rw [literal_append, tokens?]
      by_cases ht : t.getLast? = some '\\'
      · refine iff_of_false ?_ fun h => h t List.mem_cons_self ht
        intro h
        obtain ⟨u, rfl⟩ := List.getLast?_eq_some_iff.mp ht
        rw [tokens?_escape_backslash] at h
        obtain ⟨more, rest, heq⟩ := tokens?_some h
        have hquoted : u ++ ['\\'] = u ++ '"' :: more := by
          simpa using congrArg List.head? heq
        simp at hquoted
      · rw [tokens?_escape _ _ (fun h => absurd h ht), tokens?]
        simp [hrest, ht]

/-! Documents. -/

/-- A text without string literals. -/
def marks (t : Text) : List Token :=
  t.map .mark

/-- A statement, with the texts that its literals stand for. -/
inductive Statement
  | node (id label color : Text)
  | edge (source target label color : Text)
deriving DecidableEq, Repr

namespace Statement

def tokens : Statement → List Token
  | .node id label color =>
    marks "  " ++ .quoted id :: marks " [label=" ++ .quoted label :: marks ", fillcolor=" ++
      .quoted color :: marks "];\n"
  | .edge source target label color =>
    marks "  " ++ .quoted source :: marks " -> " ++ .quoted target :: marks " [label=" ++
      .quoted label :: marks ", color=" ++ .quoted color :: marks "];\n"

def texts : Statement → List Text
  | .node id label color => [id, label, color]
  | .edge source target label color => [source, target, label, color]

/-- The label holds the kind and the name, with a backslash and an `n` between them. -/
def ofNode (n : Node) : Statement :=
  .node n.id (n.kind.name ++ '\\' :: 'n' :: n.name) n.kind.color

def ofEdge (e : Edge) : Statement :=
  .edge e.source e.target e.kind.name e.kind.color

end Statement

/-- What stands before the statements. -/
def opening : List Token :=
  marks "digraph CodeGraph \x7b\n  rankdir=LR;\n  node [style=filled, fontcolor=" ++
    .quoted "#e6edf3" :: marks ", color=" ++ .quoted "#30363d" :: marks "];\n"

/-- A drawing with the given statements. -/
def document (statements : List Statement) : List Token :=
  opening ++ (statements.flatMap Statement.tokens ++ marks "\x7d\n")

/-- A reader of the text sees the given statements. -/
def Reads (t : Text) (statements : List Statement) : Prop :=
  tokens? none t = some (document statements)

/-- Behind its first literal, an edge goes on otherwise than a node. -/
theorem marks_label_ne_arrow (rest rest' : List Token) :
    marks " [label=" ++ rest ≠ marks " -> " ++ rest' := by
  simp [marks]

theorem Statement.eq_of_tokens_append {s s' : Statement} {rest rest' : List Token}
    (h : s.tokens ++ rest = s'.tokens ++ rest') : s = s' ∧ rest = rest' := by
  cases s <;> cases s' <;> simp only [tokens, List.append_assoc, List.cons_append,
    List.append_cancel_left_eq, List.cons.injEq, Token.quoted.injEq] at h
  case node.node => simpa [and_assoc] using h
  case edge.edge => simpa [and_assoc] using h
  case node.edge => exact absurd h.2 (marks_label_ne_arrow _ _)
  case edge.node => exact absurd h.2.symm (marks_label_ne_arrow _ _)

theorem Statement.tokens_append_ne (s : Statement) (rest : List Token) :
    s.tokens ++ rest ≠ marks "\x7d\n" := by
  cases s <;> simp [tokens, marks]

theorem document_injective : Function.Injective document := by
  intro ss ss' h
  replace h := List.append_cancel_left h
  induction ss generalizing ss' with
  | nil =>
    cases ss' with
    | nil => rfl
    | cons s' ss' =>
      rw [List.flatMap_cons, List.append_assoc] at h
      exact absurd h.symm (s'.tokens_append_ne _)
  | cons s ss ih =>
    rw [List.flatMap_cons, List.append_assoc] at h
    cases ss' with
    | nil => exact absurd h (s.tokens_append_ne _)
    | cons s' ss' =>
      rw [List.flatMap_cons, List.append_assoc] at h
      obtain ⟨rfl, hrest⟩ := Statement.eq_of_tokens_append h
      rw [ih hrest]

/-- A text tells its statements. -/
theorem Reads.unique {t : Text} {ss ss' : List Statement} (h : Reads t ss) (h' : Reads t ss') :
    ss = ss' :=
  document_injective (Option.some.inj (h.symm.trans h'))

/-! The texts in a document. -/

theorem quoted_mem_marks (t u : Text) : .quoted t ∉ marks u := by
  simp [marks]

theorem mark_mem_marks (c : Char) (t : Text) : .mark c ∈ marks t ↔ c ∈ t := by
  simp [marks]

theorem Statement.quoted_mem_tokens (s : Statement) (t : Text) :
    .quoted t ∈ s.tokens ↔ t ∈ s.texts := by
  cases s <;> simp [tokens, texts, quoted_mem_marks]

theorem Statement.quote_notMem_tokens (s : Statement) : .mark '"' ∉ s.tokens := by
  cases s <;> simp [tokens, mark_mem_marks]

theorem quoted_mem_document (ss : List Statement) (t : Text) : .quoted t ∈ document ss ↔
    t ∈ (["#e6edf3", "#30363d"] : List Text) ∨ ∃ s ∈ ss, t ∈ s.texts := by
  simp [document, opening, quoted_mem_marks, Statement.quoted_mem_tokens, or_assoc]

theorem quote_notMem_document (ss : List Statement) : .mark '"' ∉ document ss := by
  simp [document, opening, mark_mem_marks, Statement.quote_notMem_tokens]

/-! Texts of the program's own, which need no escape. -/

/-- Neither a quote nor a backslash stands in the text. -/
def IsPlain (t : Text) : Prop :=
  '"' ∉ t ∧ '\\' ∉ t

instance (t : Text) : Decidable (IsPlain t) :=
  inferInstanceAs (Decidable (_ ∧ _))

theorem isPlain_nodeColor (k : NodeKind) : IsPlain k.color := by
  cases k <;> decide

theorem isPlain_edgeName (k : EdgeKind) : IsPlain k.name := by
  cases k <;> decide

theorem isPlain_edgeColor (k : EdgeKind) : IsPlain k.color := by
  cases k <;> decide

theorem IsPlain.literal_eq {t : Text} (h : IsPlain t) : literal t = '"' :: (t ++ ['"']) := by
  have hescape : escape t = t := by
    have hquote := h.1
    clear h
    induction t with
    | nil => rfl
    | cons c t ih =>
      rw [List.mem_cons, not_or] at hquote
      rw [escape_char (Ne.symm hquote.1), ih hquote.2]
  exact congrArg (fun t => '"' :: (t ++ ['"'])) hescape

theorem IsPlain.getLast?_ne {t : Text} (h : IsPlain t) : t.getLast? ≠ some '\\' :=
  fun hlast => h.2 (List.mem_of_getLast? hlast)

/-! Drawings. -/

@[simp] theorem flatMap_write_marks (t : Text) : (marks t).flatMap Token.write = t := by
  induction t with
  | nil => rfl
  | cons c t ih => exact congrArg (c :: ·) ih

theorem write_opening : opening.flatMap Token.write = header.flatMap (· ++ ['\n']) := by
  decide

theorem Statement.write_ofNode (n : Node) :
    (ofNode n).tokens.flatMap Token.write = nodeLine n ++ ['\n'] := by
  -- The equation that simp would derive for the definition takes seconds.
  delta nodeLine
  simp [ofNode, tokens, Token.write, (isPlain_nodeColor n.kind).literal_eq]

theorem Statement.write_ofEdge (e : Edge) :
    (ofEdge e).tokens.flatMap Token.write = edgeLine e ++ ['\n'] := by
  delta edgeLine
  simp [ofEdge, tokens, Token.write, (isPlain_edgeName e.kind).literal_eq,
    (isPlain_edgeColor e.kind).literal_eq]

/-- The label ends in a backslash just if the name does. -/
theorem Statement.texts_ofNode (n : Node) : (∀ t ∈ (ofNode n).texts, t.getLast? ≠ some '\\') ↔
    n.id.getLast? ≠ some '\\' ∧ n.name.getLast? ≠ some '\\' := by
  have hcolor := (isPlain_nodeColor n.kind).getLast?_ne
  have hlabel : (n.kind.name ++ '\\' :: 'n' :: n.name).getLast? ≠ some '\\' ↔
      n.name.getLast? ≠ some '\\' := by
    rw [List.getLast?_append, List.getLast?_cons_cons, List.getLast?_cons]
    cases n.name.getLast? <;> simp
  simp only [ofNode, texts, List.forall_mem_cons, hlabel]
  simp [hcolor]

theorem Statement.texts_ofEdge (e : Edge) : (∀ t ∈ (ofEdge e).texts, t.getLast? ≠ some '\\') ↔
    e.source.getLast? ≠ some '\\' ∧ e.target.getLast? ≠ some '\\' := by
  have hname := (isPlain_edgeName e.kind).getLast?_ne
  have hcolor := (isPlain_edgeColor e.kind).getLast?_ne
  simp [ofEdge, texts, hname, hcolor]

namespace Drawing

variable (d : Drawing)

/-- One statement for each node, then one for each edge. -/
def statements : List Statement :=
  d.nodes.map .ofNode ++ d.edges.map .ofEdge

theorem write_eq : d.write = (document d.statements).flatMap Token.write := by
  have hnodes : (d.nodes.map Statement.ofNode).flatMap (·.tokens.flatMap Token.write) =
      (d.nodes.map nodeLine).flatMap (· ++ ['\n']) := by
    simp [List.flatMap_map, Statement.write_ofNode]
  have hedges : (d.edges.map Statement.ofEdge).flatMap (·.tokens.flatMap Token.write) =
      (d.edges.map edgeLine).flatMap (· ++ ['\n']) := by
    simp [List.flatMap_map, Statement.write_ofEdge]
  unfold document statements write lines
  simp only [List.flatMap_append, List.flatMap_assoc, write_opening, hnodes, hedges,
    flatMap_write_marks]
  simp [footer]

/-- No text that is drawn ends in a backslash. -/
def IsClosed : Prop :=
  (∀ n ∈ d.nodes, n.id.getLast? ≠ some '\\' ∧ n.name.getLast? ≠ some '\\') ∧
    ∀ e ∈ d.edges, e.source.getLast? ≠ some '\\' ∧ e.target.getLast? ≠ some '\\'

theorem isClosed_iff : d.IsClosed ↔
    ∀ t, .quoted t ∈ document d.statements → t.getLast? ≠ some '\\' := by
  have hopening : ∀ t ∈ (["#e6edf3", "#30363d"] : List Text), t.getLast? ≠ some '\\' := by decide
  have htexts : (∀ t, .quoted t ∈ document d.statements → t.getLast? ≠ some '\\') ↔
      ∀ s ∈ d.statements, ∀ t ∈ s.texts, t.getLast? ≠ some '\\' := by
    simp only [quoted_mem_document, or_imp, forall_and]
    rw [and_iff_right hopening]
    grind
  rw [htexts, statements, List.forall_mem_append, List.forall_mem_map, List.forall_mem_map]
  simp only [Statement.texts_ofNode, Statement.texts_ofEdge]
  rfl

theorem reads_write_iff : Reads d.write d.statements ↔ d.IsClosed := by
  rw [isClosed_iff, ← tokens?_flatMap_write (quote_notMem_document _), ← write_eq]
  rfl

end Drawing

end Dot

/-- A drawing is read as the statements for its nodes and edges, and as no others, just if no text
in it ends in a backslash: such a backslash takes the closing quote into the text. -/
theorem Graph.toDot_reads_iff (g : Graph) (focus : Text) :
    (∀ ss, Dot.Reads (g.toDot focus) ss ↔ ss = (Dot.drawing g focus).statements) ↔
      (Dot.drawing g focus).IsClosed := by
  rw [← Dot.Drawing.reads_write_iff]
  constructor
  · intro h
    exact (h _).mpr rfl
  · intro h ss
    constructor
    · exact fun hss => hss.unique h
    · rintro rfl
      exact h

/-- A drive, whose identifier ends in a backslash. -/
def Graph.ofDrive : Graph :=
  { nodes := [{ id := "c:\\", name := "drive", kind := .file, path := "c:" }] }

/-- Its quotes are not even balanced. -/
theorem Graph.not_reads_ofDrive : ¬∃ ss, Dot.Reads (Graph.ofDrive.toDot []) ss := by
  have hlost : Dot.tokens? none (Graph.ofDrive.toDot []) = none := by decide +kernel
  rintro ⟨ss, hreads⟩
  exact absurd (hlost.symm.trans hreads) (by simp)

end CodeGraph
