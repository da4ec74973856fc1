import CodeGraph.Graph.Payload
import CodeGraph.Proofs.Faults
import CodeGraph.Proofs.Graph.Drawing
import CodeGraph.Proofs.Graph.Focus

/-! Looking up an identifier gives its first node, and drawing it shows its last one. The two are
the same to a reader of the drawing just if they look alike. -/
namespace CodeGraph

namespace Dot

/-! What the line of a node shows. -/

theorem escape_injective : Function.Injective escape := by
  intro t u h
  induction t generalizing u with
  | nil =>
    cases u with
    | nil => rfl
    | cons d u =>
      by_cases hd : d = '"'
      · rw [hd, escape_quote] at h
        cases h
      · rw [escape_char hd] at h
        cases h
  | cons c t ih =>
    cases u with
    | nil =>
      by_cases hc : c = '"'
      · rw [hc, escape_quote] at h
        cases h
      · rw [escape_char hc] at h
        cases h
    | cons d u =>
      -- An escaped text begins with no quote, so a backslash in front of one is an escape.
      have hquote (v : Text) : (escape v).head? ≠ some '"' := by
        by_cases hv : v = []
        · rw [hv]
          decide
        · simpa using head?_escape_append hv []
      by_cases hc : c = '"' <;> by_cases hd : d = '"'
      · subst hc hd
        rw [escape_quote, escape_quote] at h
        rw [ih (List.cons.inj (List.cons.inj h).2).2]
      · rw [hc, escape_quote, escape_char hd] at h
        exact absurd (congrArg List.head? (List.cons.inj h).2.symm) (hquote u)
      · rw [hd, escape_quote, escape_char hc] at h
        exact absurd (congrArg List.head? (List.cons.inj h).2) (hquote t)
      · rw [escape_char hc, escape_char hd] at h
        obtain ⟨rfl, hrest⟩ := List.cons.inj h
        rw [ih hrest]

theorem literal_injective : Function.Injective literal := by
  intro t u h
  have hescape : escape t ++ ['"'] = escape u ++ ['"'] := (List.cons.inj h).2
  exact escape_injective (List.append_cancel_right hescape)

/-- What is shown of a node: its kind and its name, with a backslash and an `n` between them. -/
def caption (n : Node) : Text :=
  n.kind.name ++ "\\n" ++ n.name

theorem nodeName_injective : Function.Injective NodeKind.name := by
  intro j k
  cases j <;> cases k <;> decide

/-- No name of a kind holds a backslash. -/
theorem takeWhile_caption (n : Node) : (caption n).takeWhile (· ≠ '\\') = n.kind.name := by
  unfold caption
  cases n.kind <;> rfl

theorem caption_eq_iff {n m : Node} :
    caption n = caption m ↔ n.kind = m.kind ∧ n.name = m.name := by
  constructor
  · intro h
    have hkind : n.kind = m.kind := nodeName_injective <| by
      rw [← takeWhile_caption n, h, takeWhile_caption]
    unfold caption at h
    rw [hkind] at h
    exact ⟨hkind, List.append_cancel_left h⟩
  · rintro ⟨hkind, hname⟩
    unfold caption
    rw [hkind, hname]

/-- What stands behind the caption. -/
def closing (k : NodeKind) : Text :=
  ", fillcolor=\"" ++ k.color ++ "\"];"

theorem length_closing (k : NodeKind) : (closing k).length = 23 := by
  cases k <;> rfl

theorem nodeLine_eq (n : Node) : nodeLine n =
    "  " ++ (literal n.id ++ (" [label=" ++ (literal (caption n) ++ closing n.kind))) := by
  delta nodeLine caption closing
  simp only [List.append_assoc]

/-- The line of a node tells its kind and its name. -/
theorem nodeLine_eq_iff {n m : Node} (hid : n.id = m.id) :
    nodeLine n = nodeLine m ↔ n.kind = m.kind ∧ n.name = m.name := by
  rw [nodeLine_eq, nodeLine_eq, hid, List.append_cancel_left_eq, List.append_cancel_left_eq,
    List.append_cancel_left_eq]
  constructor
  · intro h
    have hlength : (closing n.kind).length = (closing m.kind).length :=
      (length_closing _).trans (length_closing _).symm
    exact caption_eq_iff.mp (literal_injective (List.append_inj' h hlength).1)
  · intro h
    rw [caption_eq_iff.mpr h, h.1]

end Dot

/-- Neither a line nor a focus tells the nodes apart. A path does not show while it is a part of the
name. -/
structure Node.LooksLike (n m : Node) : Prop where
  kind : n.kind = m.kind
  name : n.name = m.name
  path : n.path = m.path ∨ n.path <:+: n.name ∧ m.path <:+: m.name

theorem Node.forall_focus_iff {n m : Node} (hname : n.name = m.name) :
    (∀ focus : Text, (focus <:+: n.name ∨ focus <:+: n.path ↔
      focus <:+: m.name ∨ focus <:+: m.path)) ↔
      n.path = m.path ∨ n.path <:+: n.name ∧ m.path <:+: m.name := by
  rw [hname]
  constructor
  · intro h
    have hn := (h n.path).mp (.inr List.infix_rfl)
    have hm := (h m.path).mpr (.inr List.infix_rfl)
    rcases hn with hn | hn
    · rcases hm with hm | hm
      · exact .inr ⟨hn, hm⟩
      · exact .inr ⟨hn, hm.trans hn⟩
    · rcases hm with hm | hm
      · exact .inr ⟨hn.trans hm, hm⟩
      · exact .inl (List.infix_antisymm hn hm)
  · rintro (hpath | ⟨hn, hm⟩) focus
    · rw [hpath]
    · exact or_congr_right' fun hfocus => iff_of_false (fun h => hfocus (h.trans hn))
        fun h => hfocus (h.trans hm)

namespace Graph

/-- What is drawn under an identifier is what is found by it: the line shows the node that the
identifier leads to, and so does being in focus. -/
structure DrawsLookedUp (g : Graph) : Prop where
  shown : ∀ focus, ∀ n ∈ (Dot.drawing g focus).nodes,
    ∃ m, g.node? n.id = some m ∧ Dot.nodeLine n = Dot.nodeLine m
  focused : ∀ focus id, id ∈ Dot.centers g focus ↔
    ∃ m, g.node? id = some m ∧ (focus <:+: m.name ∨ focus <:+: m.path)

variable {g : Graph} {id : Text}

theorem id_of_node? {n : Node} (h : g.node? id = some n) : n.id = id := by
  simpa using List.find?_some h

theorem id_of_drawnNode? {n : Node} (h : g.drawnNode? id = some n) : n.id = id := by
  simpa using List.find?_some h

/-- An identifier has a first node just if it has a last one. -/
theorem exists_node?_iff : (∃ n, g.node? id = some n) ↔ ∃ n, g.drawnNode? id = some n := by
  rw [← Option.isSome_iff_exists, ← Option.isSome_iff_exists, node?, drawnNode?, List.find?_isSome,
    List.find?_isSome]
  simp

theorem mem_centers_iff {focus : Text} : id ∈ Dot.centers g focus ↔
    ∃ n, g.drawnNode? id = some n ∧ (focus <:+: n.name ∨ focus <:+: n.path) := by
  rw [Dot.mem_centers, isCentral, Option.any_eq_true]
  simp

theorem mem_drawing_of_drawnNode? {n : Node} (h : g.drawnNode? id = some n) :
    n ∈ (Dot.drawing g []).nodes := by
  rw [Dot.drawing_eq]
  rw [drawnNode?, ← Dot.find?_distinctNodes] at h
  exact List.mem_of_find?_eq_some h

theorem DrawsLookedUp.looksLike (h : g.DrawsLookedUp) {first last : Node}
    (hfirst : g.node? id = some first) (hlast : g.drawnNode? id = some last) :
    first.LooksLike last := by
  have hid : last.id = id := id_of_drawnNode? hlast
  obtain ⟨m, hm, hline⟩ := h.shown [] last (mem_drawing_of_drawnNode? hlast)
  rw [hid, hfirst] at hm
  obtain rfl : first = m := Option.some.inj hm
  obtain ⟨hkind, hname⟩ := (Dot.nodeLine_eq_iff (hid.trans (id_of_node? hfirst).symm)).mp hline
  refine ⟨hkind.symm, hname.symm, (Node.forall_focus_iff hname.symm).mp fun focus => ?_⟩
  have hfocused := h.focused focus id
  rw [mem_centers_iff] at hfocused
  simpa [hfirst, hlast] using hfocused.symm

theorem drawsLookedUp_of_looksLike (h : ∀ id first last, g.node? id = some first →
    g.drawnNode? id = some last → first.LooksLike last) : g.DrawsLookedUp where
  shown focus n hn := by
    have hlast := Dot.drawnNode?_of_mem_drawing hn
    obtain ⟨m, hm⟩ := exists_node?_iff.mpr ⟨n, hlast⟩
    have hlooks := h n.id m n hm hlast
    exact ⟨m, hm, (Dot.nodeLine_eq_iff (id_of_node? hm).symm).mpr
      ⟨hlooks.kind.symm, hlooks.name.symm⟩⟩
  focused focus id := by
    rw [mem_centers_iff]
    constructor
    · rintro ⟨last, hlast, hfocus⟩
      obtain ⟨first, hfirst⟩ := exists_node?_iff.mpr ⟨last, hlast⟩
      have hlooks := h id first last hfirst hlast
      exact ⟨first, hfirst, ((Node.forall_focus_iff hlooks.name).mpr hlooks.path focus).mpr hfocus⟩
    · rintro ⟨first, hfirst, hfocus⟩
      obtain ⟨last, hlast⟩ := exists_node?_iff.mp ⟨first, hfirst⟩
      have hlooks := h id first last hfirst hlast
      exact ⟨last, hlast, ((Node.forall_focus_iff hlooks.name).mpr hlooks.path focus).mp hfocus⟩

/-- What is drawn is what is looked up just if the first and the last node of each identifier look
alike. -/
theorem drawsLookedUp_iff (g : Graph) : g.DrawsLookedUp ↔ ∀ id first last,
    g.node? id = some first → g.drawnNode? id = some last → first.LooksLike last :=
  ⟨fun h _ _ _ hfirst hlast => h.looksLike hfirst hlast, drawsLookedUp_of_looksLike⟩

/-- A file and a service under one identifier, and another file. -/
def repeated : Graph :=
  { nodes := [
      { id := "a", name := "old.js", kind := .file, path := "src/old.js" },
      { id := "a", name := "new", kind := .service, path := "srv/new" },
      { id := "b", name := "ui.js", kind := .file, path := "src/ui.js" }] }

def repeatedText : Text :=
  "\x7b\"nodes\": [" ++
    "\x7b\"id\": \"a\", \"name\": \"old.js\", \"type\": \"file\", \"path\": \"src/old.js\"\x7d, " ++
    "\x7b\"id\": \"a\", \"name\": \"new\", \"type\": \"service\", \"path\": \"srv/new\"\x7d, " ++
    "\x7b\"id\": \"b\", \"name\": \"ui.js\", \"type\": \"file\", \"path\": \"src/ui.js\"\x7d" ++
    "], \"edges\": []\x7d"

theorem load_repeatedText : load repeatedText = .ok repeated :=
  eq_ok_of_toOption (by decide +kernel)

/-- The file is what is found, and the service is what is drawn. -/
theorem not_drawsLookedUp_repeatedText :
    ∃ g, load repeatedText = .ok g ∧ ¬g.DrawsLookedUp := by
  refine ⟨repeated, load_repeatedText, fun h => ?_⟩
  have hfirst : repeated.node? "a" = some repeated.nodes[0] := by decide
  have hlast : repeated.drawnNode? "a" = some repeated.nodes[1] := by decide
  exact absurd (h.looksLike hfirst hlast).kind (by decide)

end Graph

end CodeGraph
