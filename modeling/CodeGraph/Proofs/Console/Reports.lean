import CodeGraph.Console.Session
import CodeGraph.Proofs.Console.Contract
import Mathlib.Algebra.BigOperators.Group.List.Basic
import Mathlib.Algebra.GroupWithZero.Nat

/-! What commands put on the console: lines, warnings, and tables of counts. -/
namespace CodeGraph
namespace Outcome

variable {c : Console} {o : Outcome} {markup t : Text}

theorem print_print (o : Outcome) (s t : Text) : (o.print s).print t = o.print (s ++ t) := by
  unfold print
  rw [List.append_assoc]

theorem print_of_silent (h : o.stdout = []) : o.print t = { o with stdout := t } := by
  unfold print
  rw [h, List.nil_append]

theorem withShown_ok {f : Text → Outcome} (hcrash : o.crash = none) (t : Text) :
    o.withShown (.ok t) f = f t := by
  unfold withShown
  rw [hcrash]

theorem say_eq (h : c.line markup = .ok t) (hcrash : o.crash = none) :
    o.say c markup = o.print t := by
  rw [say, h, withShown_ok hcrash]

theorem complain_eq (h : c.complaint markup = .ok t) (hcrash : o.crash = none) :
    o.complain c markup = o.printError t := by
  rw [complain, h, withShown_ok hcrash]

theorem sayTable_eq {table : Table} (h : c.table table = .ok t) (hcrash : o.crash = none) :
    o.sayTable c table = o.print t := by
  rw [sayTable, h, withShown_ok hcrash]

end Outcome

/-- What a console is given to show. -/
inductive Report
  | line (markup : Text)
  | table (t : Table)

namespace Console

def shown (c : Console) : Report → Except Raised Text
  | .line markup => c.line markup
  | .table t => c.table t

/-- What a console puts out of reports one after the other. -/
def Puts (c : Console) (reports : List Report) (t : Text) : Prop :=
  ∃ parts : List Text, List.Forall₂ (fun report part => c.shown report = .ok part) reports parts ∧
    t = parts.flatten

variable {c : Console} {report : Report} {reports : List Report} {s t : Text}

theorem puts_nil (c : Console) : c.Puts [] [] :=
  ⟨[], .nil, rfl⟩

theorem Puts.cons (h : c.shown report = .ok t) (hs : c.Puts reports s) :
    c.Puts (report :: reports) (t ++ s) := by
  obtain ⟨parts, hparts, rfl⟩ := hs
  exact ⟨t :: parts, .cons h hparts, rfl⟩

end Console

namespace MarkupPiece

theorem isPlain_append {s t : Text} (hs : isPlain s = true) (ht : isPlain t = true) :
    isPlain (s ++ t) = true := by
  rw [isPlain, List.all_append, Bool.and_eq_true]
  exact ⟨hs, ht⟩

theorem isPlain_ofNat (n : Nat) : isPlain (Text.ofNat n) = true := by
  refine List.all_eq_true.mpr fun c hc => ?_
  have hdigit : c.isDigit = true := Nat.isDigit_of_mem_toDigits (by decide) (by decide) hc
  have hne (d : Char) (hd : d.isDigit = false) : c ≠ d := by
    rintro rfl
    rw [hdigit] at hd
    cases hd
  simp [hne '[' (by decide), hne ']' (by decide), hne '\\' (by decide)]

theorem firstBracket_plain {t : Text} {rest : List MarkupPiece} (h : isPlain t = true) :
    firstBracket (plain t :: rest) = firstBracket rest := by
  have hnone : t.find? (fun c => c = '[' || c = ']') = none := by
    refine List.find?_eq_none.mpr fun c hc => ?_
    have hplain := List.all_eq_true.mp h c hc
    simp_all
  rw [firstBracket, List.flatMap_cons, raw, List.find?_append, hnone, Option.none_or, firstBracket]

theorem firstBracket_nil : firstBracket [] = none := rfl

/-- The text of a system error begins with its number in brackets, or has none. -/
def IsSystemError (reason : Text) : Prop :=
  (∃ number rest, reason = "[Errno " ++ (Text.ofNat number ++ "] " ++ rest)) ∨
    '[' ∉ reason ∧ ']' ∉ reason

theorem IsSystemError.firstBracket_ne {reason : Text} (h : IsSystemError reason) :
    firstBracket [escaped reason] ≠ some ']' := by
  have hraw : firstBracket [escaped reason] = reason.find? (fun c => c = '[' || c = ']') := by
    rw [firstBracket, List.flatMap_singleton, raw]
  rw [hraw]
  rcases h with ⟨number, rest, rfl⟩ | ⟨hopen, hclose⟩
  · have hhead : ("[Errno ".toList).find? (fun c => c = '[' || c = ']') = some '[' :=
      rfl
    rw [List.find?_append, hhead]
    simp
  · intro hfound
    exact hclose (List.mem_of_find?_eq_some hfound)

end MarkupPiece

namespace Session

open MarkupPiece

variable {c : Console}

theorem skippedLine_eq (c : Console) (w : Warning) : skippedLine c w =
    c.markup [.colored "yellow" "⚠" true, .plain " Skipped ", .escaped w.path, .plain ": ",
      .escaped w.reason] := by
  have hhead : "[yellow]⚠[/yellow] Skipped ".toList =
      raw (.colored "yellow" "⚠" true) ++ " Skipped ".toList := by
    decide +kernel
  delta skippedLine
  rw [hhead]
  simp only [Console.markup, List.flatMap_cons, List.flatMap_nil, text, raw, List.append_assoc,
    List.append_nil]

theorem isSound_skipped {w : Warning} (h : IsSystemError w.reason) :
    IsSound [.colored "yellow" "⚠" true, .plain " Skipped ", .escaped w.path, .plain ": ",
      .escaped w.reason] := by
  have hcolon : isPlain ": " = true := rfl
  refine ⟨rfl, rfl, rfl, List.cons_ne_nil _ _, ?_, hcolon, trivial⟩
  rw [firstBracket_plain hcolon]
  exact h.firstBracket_ne

theorem exists_line_written (h : c.ShowsSound) (path : Text) :
    ∃ t, c.line (writtenLine c path) = .ok t := by
  have hhead : "[green]✓[/green] Graph written to ".toList =
      raw (.colored "green" "✓" true) ++ " Graph written to ".toList := by
    decide +kernel
  have hmarkup : writtenLine c path =
      c.markup [.colored "green" "✓" true, .plain " Graph written to ", .escaped path] := by
    delta writtenLine
    rw [hhead]
    simp only [Console.markup, List.flatMap_cons, List.flatMap_nil, text, raw, List.append_assoc,
      List.append_nil]
  rw [hmarkup]
  exact h.line _ ⟨rfl, rfl, rfl, trivial⟩

theorem exists_line_plain (h : c.ShowsSound) {t : Text} (ht : isPlain t = true) :
    ∃ shown, c.line t = .ok shown := by
  have hmarkup : t = c.markup [.plain t] := by
    rw [Console.markup, List.flatMap_singleton]
    rfl
  rw [hmarkup]
  exact h.line _ ⟨ht, trivial⟩

theorem isPlain_sizes (g : Graph) : isPlain (sizes g) = true := by
  unfold sizes
  refine isPlain_append (isPlain_append (isPlain_append ?_ (isPlain_ofNat _)) ?_) (isPlain_ofNat _)
  · rfl
  · rfl

theorem exists_line_sizes (h : c.ShowsSound) (r : ScanResult) :
    ∃ t, c.line (sizesLine r) = .ok t := by
  refine exists_line_plain h ?_
  unfold sizesLine
  refine isPlain_append (isPlain_append (isPlain_append ?_ (isPlain_ofNat _)) ?_) (isPlain_sizes _)
  · rfl
  · rfl

theorem exists_line_loaded (h : c.ShowsSound) (path : Text) (g : Graph) :
    ∃ t, c.line (loadedLine c path g) = .ok t := by
  have hsizes : isPlain (" | " ++ sizes g) = true :=
    isPlain_append rfl (isPlain_sizes g)
  have hmarkup : loadedLine c path g = c.markup
      [.plain "Loaded: ", .escaped (Path.fileName path), .plain (" | " ++ sizes g)] := by
    delta loadedLine
    simp only [Console.markup, List.flatMap_cons, List.flatMap_nil, text, raw, List.append_assoc,
      List.append_nil]
  rw [hmarkup]
  refine h.line _ ⟨rfl, List.cons_ne_nil _ _, ?_, hsizes, trivial⟩
  rw [firstBracket_plain hsizes]
  simp [firstBracket_nil]

variable {α : Type} {kinds : List α} {color label : α → Text} {count : α → Nat}

/-- The row of a kind in a table: a dot in its color and the label, and a number. -/
theorem cells_countRows (hcolor : ∀ k, isColor (color k) = true)
    (hlabel : ∀ k, isPlain (label k) = true) :
    ∀ row ∈ countRows kinds color label count, ∀ cell ∈ row,
      ∃ pieces, IsSound pieces ∧ cell = c.markup pieces := by
  intro row hrow cell hcell
  obtain ⟨k, -, hk⟩ := List.mem_filterMap.mp hrow
  split_ifs at hk
  obtain rfl := Option.some.inj hk
  rcases List.mem_pair.mp hcell with rfl | rfl
  · refine ⟨[.colored (color k) "●" false, .plain (" " ++ label k)], ?_, ?_⟩
    · exact ⟨hcolor k, rfl, isPlain_append rfl (hlabel k), trivial⟩
    · have htail : "]●[/] ".toList =
          "]".toList ++ ("●".toList ++ ("[/]".toList ++ " ".toList)) := by
        decide +kernel
      rw [htail]
      simp only [Console.markup, List.flatMap_cons, List.flatMap_nil, text, raw, closing,
        List.append_assoc, List.append_nil]
      rfl
  · refine ⟨[.plain (Text.ofNat (count k))], ⟨isPlain_ofNat _, trivial⟩, ?_⟩
    rw [Console.markup, List.flatMap_singleton]
    rfl

theorem isSoundTable_countTable {title : Text} {rows : List (List Text)}
    (htitle : isPlain title = true)
    (hcells : ∀ row ∈ rows, ∀ cell ∈ row, ∃ pieces, IsSound pieces ∧ cell = c.markup pieces) :
    c.IsSoundTable (countTable title rows) where
  title := htitle
  columns := by
    rintro column (_ | ⟨_, _ | ⟨_, hmem⟩⟩)
    · rfl
    · rfl
    · cases hmem
  cells := hcells

theorem exists_table_nodes (h : c.ShowsSound) (g : Graph) : ∃ t, c.table (nodeTable g) = .ok t :=
  h.table _ (isSoundTable_countTable rfl
    (cells_countRows (by intro k; cases k <;> rfl) (by intro k; cases k <;> rfl)))

theorem exists_table_edges (h : c.ShowsSound) (g : Graph) : ∃ t, c.table (edgeTable g) = .ok t :=
  h.table _ (isSoundTable_countTable rfl
    (cells_countRows (by intro k; cases k <;> rfl) (by intro k; cases k <;> rfl)))

variable {l : Libraries}

/-- The tables on a graph. -/
def tables (g : Graph) : List Report :=
  [.table (nodeTable g), .table (edgeTable g)]

theorem exists_summarize (h : l.console.ShowsSound) (g : Graph) : ∃ t,
    l.console.Puts (tables g) t ∧
      ∀ o : Outcome, o.crash = none → summarize l o g = o.print t := by
  obtain ⟨nodes, hnodes⟩ := exists_table_nodes h g
  obtain ⟨edges, hedges⟩ := exists_table_edges h g
  refine ⟨nodes ++ (edges ++ []), .cons hnodes (.cons hedges (Console.puts_nil _)), ?_⟩
  intro o hcrash
  rw [summarize, Outcome.sayTable_eq hnodes hcrash,
    Outcome.sayTable_eq (o := o.print nodes) hedges hcrash, Outcome.print_print, List.append_nil]

theorem sum_countP {β κ : Type} [DecidableEq κ] {kinds : List κ} (kind : β → κ)
    (hone : ∀ x, (kinds.map fun k => if x = k then 1 else 0).sum = 1) (items : List β) :
    (kinds.map fun k => items.countP (kind · = k)).sum = items.length := by
  induction items with
  | nil => simp
  | cons a items ih =>
    simp only [List.countP_cons, decide_eq_true_eq, List.sum_map_add, ih, hone, List.length_cons]

/-- Every node counts once, and so does every edge. -/
theorem sum_counts (g : Graph) : (NodeKind.all.map g.countNodes).sum = g.nodes.length ∧
    (EdgeKind.all.map g.countEdges).sum = g.edges.length :=
  ⟨sum_countP Node.kind (by intro k; cases k <;> rfl) g.nodes,
    sum_countP Edge.kind (by intro k; cases k <;> rfl) g.edges⟩

/-- All that the warnings change is what stands on the side. -/
theorem foldl_complain {warnings : List Warning} (h : c.ShowsSound)
    (hreasons : ∀ w ∈ warnings, IsSystemError w.reason) {o : Outcome} (hcrash : o.crash = none) :
    ∃ stderr, warnings.foldl (fun o w => o.complain c (skippedLine c w)) o =
      { o with stderr } := by
  induction warnings generalizing o with
  | nil => exact ⟨o.stderr, rfl⟩
  | cons w warnings ih =>
    rw [List.forall_mem_cons] at hreasons
    obtain ⟨shown, hshown⟩ := h.complaint _ (isSound_skipped (w := w) hreasons.1)
    rw [← skippedLine_eq] at hshown
    rw [List.foldl_cons, Outcome.complain_eq hshown hcrash]
    exact ih hreasons.2 hcrash

end Session
end CodeGraph
