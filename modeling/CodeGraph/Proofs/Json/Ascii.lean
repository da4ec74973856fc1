import CodeGraph.Proofs.Json.Legible
import CodeGraph.Proofs.Json.StringText
import CodeGraph.Text.Utf8

/-! Written values are printable ASCII and line feeds, so whoever reads their text finds no other line
ends in it. -/
namespace CodeGraph

theorem Text.unifyLineEnds_eq_self {t : Text} (h : '\r' ∉ t) : unifyLineEnds t = t := by
  induction t with
  | nil => rfl
  | cons c t ih =>
    rw [List.mem_cons, not_or] at h
    rw [unifyLineEnds, ih h.2]
    · exact fun _ hc _ => h.1 hc.symm
    · exact fun hc => h.1 hc.symm

namespace Json

/-- Printable ASCII, or a line feed. -/
def isWritten (c : Char) : Bool :=
  c = '\n' || 32 ≤ c.toNat && c.toNat < 127

/-- The same as a test on a whole text. -/
theorem isWritten_of_all {t : Text} (h : t.all isWritten = true) : ∀ c ∈ t, isWritten c = true :=
  List.all_eq_true.mp h

theorem isWritten_digitChar : ∀ n < 16, isWritten n.digitChar = true := by
  decide

theorem isWritten_toDigits {base : Nat} (hbase : 1 < base) (hsmall : base ≤ 16) (n : Nat) :
    ∀ c ∈ Nat.toDigits base n, isWritten c = true := by
  induction n using Nat.strongRecOn with
  | ind n ih =>
    rcases Nat.lt_or_ge n base with hn | hn
    · rw [Nat.toDigits_of_lt_base hn, List.forall_mem_singleton]
      exact isWritten_digitChar n (Nat.lt_of_lt_of_le hn hsmall)
    · rw [Nat.toDigits_of_base_le hbase hn, List.forall_mem_append, List.forall_mem_singleton]
      have hpos : 0 < n := Nat.lt_of_lt_of_le (Nat.zero_lt_of_lt hbase) hn
      have hlast : n % base < base := Nat.mod_lt n (Nat.zero_lt_of_lt hbase)
      exact ⟨ih _ (Nat.div_lt_self hpos hbase),
        isWritten_digitChar _ (Nat.lt_of_lt_of_le hlast hsmall)⟩

theorem isWritten_replicate {x : Char} (hx : isWritten x = true) (n : Nat) :
    ∀ c ∈ List.replicate n x, isWritten c = true :=
  fun _ hc => List.eq_of_mem_replicate hc ▸ hx

theorem isWritten_codeEscape (n : Nat) : ∀ c ∈ codeEscape n, isWritten c = true := by
  rw [codeEscape, Text.hex]
  simp only [List.forall_mem_append]
  exact ⟨isWritten_of_all rfl, isWritten_replicate (by decide) _,
    isWritten_toDigits (by decide) (by decide) n⟩

theorem isWritten_escapeChar (c : Char) : ∀ x ∈ escapeChar c, isWritten x = true := by
  unfold escapeChar
  split_ifs with _ _ _ _ _ _ _ hplain
  any_goals exact isWritten_of_all rfl
  · simp [isWritten, hplain]
  · exact isWritten_codeEscape _
  · exact List.forall_mem_append.mpr ⟨isWritten_codeEscape _, isWritten_codeEscape _⟩

theorem isWritten_writeString (t : Text) : ∀ c ∈ writeString t, isWritten c = true := by
  simp only [writeString, List.forall_mem_append, List.forall_mem_cons]
  refine ⟨⟨by decide, fun c hc => ?_⟩, by decide, List.forall_mem_nil _⟩
  obtain ⟨x, -, hx⟩ := List.mem_flatMap.mp hc
  exact isWritten_escapeChar x c hx

theorem isWritten_ofInt (n : Int) : ∀ c ∈ Text.ofInt n, isWritten c = true := by
  cases n with
  | ofNat n => exact isWritten_toDigits (by decide) (by decide) n
  | negSucc n =>
    exact List.forall_mem_cons.mpr ⟨by decide, isWritten_toDigits (by decide) (by decide) _⟩

theorem isWritten_edge (layout : Layout) (depth : Nat) :
    ∀ c ∈ layout.edge depth, isWritten c = true := by
  cases layout with
  | inline => exact List.forall_mem_nil _
  | indented => exact List.forall_mem_cons.mpr ⟨by decide, isWritten_replicate (by decide) _⟩

theorem isWritten_gap (layout : Layout) (depth : Nat) :
    ∀ c ∈ layout.gap depth, isWritten c = true := by
  cases layout with
  | inline => exact isWritten_of_all rfl
  | indented => exact List.forall_mem_cons.mpr ⟨by decide, isWritten_edge .indented depth⟩

section

variable (layout : Layout) (depth : Nat)

theorem isWritten_writeItems {items : List Json}
    (h : ∀ v ∈ items, ∀ c ∈ write layout depth v, isWritten c = true) :
    ∀ c ∈ writeItems layout depth items, isWritten c = true := by
  induction items with
  | nil => exact List.forall_mem_nil _
  | cons item items ih =>
    rw [List.forall_mem_cons] at h
    simp only [writeItems, List.forall_mem_append]
    exact ⟨⟨isWritten_gap layout depth, h.1⟩, ih h.2⟩

theorem isWritten_writeFields {fields : Fields}
    (h : ∀ f ∈ fields, ∀ c ∈ write layout depth f.2, isWritten c = true) :
    ∀ c ∈ writeFields layout depth fields, isWritten c = true := by
  induction fields with
  | nil => exact List.forall_mem_nil _
  | cons field fields ih =>
    rw [List.forall_mem_cons] at h
    simp only [writeFields, List.forall_mem_append]
    exact ⟨⟨⟨⟨isWritten_gap layout depth, isWritten_writeString _⟩, isWritten_of_all rfl⟩, h.1⟩,
      ih h.2⟩

end

/-- The text of a value without doubles. -/
theorem Legible.isWritten {v : Json} (h : v.Legible) (layout : Layout) (depth : Nat) :
    ∀ c ∈ write layout depth v, isWritten c = true := by
  induction h generalizing depth with
  | null =>
    rw [write]
    exact isWritten_of_all rfl
  | bool b =>
    rw [write]
    cases b <;> exact isWritten_of_all rfl
  | int h => exact isWritten_ofInt _
  | str t => exact isWritten_writeString t
  | @arr items _ ih =>
    cases items with
    | nil =>
      rw [write]
      exact isWritten_of_all rfl
    | cons item items =>
      have hvalues := List.forall_mem_cons.mp fun v hv => ih v hv (depth + 1)
      simp only [write, List.forall_mem_append, List.forall_mem_cons]
      exact ⟨⟨⟨⟨⟨by decide, isWritten_edge _ _⟩, hvalues.1⟩, isWritten_writeItems _ _ hvalues.2⟩,
        isWritten_edge _ _⟩, by decide, List.forall_mem_nil _⟩
  | @obj fs _ _ ih =>
    cases fs with
    | nil =>
      rw [write]
      exact isWritten_of_all rfl
    | cons field fs =>
      have hvalues := List.forall_mem_cons.mp fun f hf => ih f hf (depth + 1)
      simp only [write, List.forall_mem_append, List.forall_mem_cons]
      exact ⟨⟨⟨⟨⟨⟨⟨by decide, isWritten_edge _ _⟩, isWritten_writeString _⟩,
        isWritten_of_all rfl⟩, hvalues.1⟩, isWritten_writeFields _ _ hvalues.2⟩,
        isWritten_edge _ _⟩, by decide, List.forall_mem_nil _⟩

theorem Legible.unifyLineEnds_indentedText {v : Json} (h : v.Legible) :
    Text.unifyLineEnds v.indentedText = v.indentedText := by
  refine Text.unifyLineEnds_eq_self fun hmem => ?_
  exact absurd (h.isWritten .indented 0 _ hmem) (by decide)

end Json
end CodeGraph
