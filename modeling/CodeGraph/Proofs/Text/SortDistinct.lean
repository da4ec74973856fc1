import CodeGraph.Text.Basic
import Mathlib.Data.List.Basic

/-! Sorting without repeats: the same items, strictly ascending. -/
namespace CodeGraph.Text

variable {α : Type} [LT α] [DecidableLT α] [DecidableEq α] {a b : α} {as : List α}

@[simp] theorem mem_insertSorted : b ∈ insertSorted a as ↔ b = a ∨ b ∈ as := by
  induction as with
  | nil => simp [insertSorted]
  | cons x as ih =>
    rw [insertSorted]
    split_ifs with hlt heq
    · exact List.mem_cons
    · simp [heq]
    · rw [List.mem_cons, ih, List.mem_cons, or_left_comm]

@[simp] theorem mem_sortDistinct : b ∈ sortDistinct as ↔ b ∈ as := by
  induction as with
  | nil => rfl
  | cons a as ih =>
    change b ∈ insertSorted a (sortDistinct as) ↔ _
    rw [mem_insertSorted, ih, List.mem_cons]

/-- A list that is strictly ascending already is kept. -/
theorem sortDistinct_eq_self (h : as.Pairwise (· < ·)) : sortDistinct as = as := by
  induction h with
  | nil => rfl
  | @cons a as hlt _ ih =>
    change insertSorted a (sortDistinct as) = a :: as
    rw [ih]
    cases as with
    | nil => rfl
    | cons x as => rw [insertSorted, if_pos (hlt x List.mem_cons_self)]

section

variable [Trans (fun a b : α => a < b) (fun a b : α => a < b) (fun a b : α => a < b)]
  [Std.Trichotomous (fun a b : α => a < b)]

theorem pairwise_insertSorted (h : as.Pairwise (· < ·)) :
    (insertSorted a as).Pairwise (· < ·) := by
  induction as with
  | nil => exact List.pairwise_singleton _ a
  | cons x as ih =>
    obtain ⟨hx, has⟩ := List.pairwise_cons.mp h
    rw [insertSorted]
    split_ifs with hlt heq
    · refine List.pairwise_cons.mpr ⟨fun y hy => ?_, h⟩
      rcases List.mem_cons.mp hy with rfl | hy
      · exact hlt
      · exact Trans.trans hlt (hx y hy)
    · exact h
    · have hxa : x < a := by
        by_contra hxa
        exact heq (Std.Trichotomous.trichotomous a x hlt hxa)
      refine List.pairwise_cons.mpr ⟨fun y hy => ?_, ih has⟩
      rcases mem_insertSorted.mp hy with rfl | hy
      · exact hxa
      · exact hx y hy

theorem pairwise_sortDistinct (as : List α) : (sortDistinct as).Pairwise (· < ·) := by
  induction as with
  | nil => exact List.Pairwise.nil
  | cons a as ih => exact pairwise_insertSorted ih

end

end CodeGraph.Text
