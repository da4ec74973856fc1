import CodeGraph.Proofs.Path.Walk
import CodeGraph.Proofs.Pattern.Search

/-! The search of a text part by part. What is found in a part depends on the text behind it, so
that text stands in every statement. -/
namespace CodeGraph

namespace Pattern

variable {α β : Type} {p : Pattern α}

@[simp] theorem charBefore_append (before : Option Char) (a b : Text) :
    charBefore before (a ++ b) = charBefore (charBefore before a) b := by
  unfold charBefore
  rw [List.getLast?_append, Option.or_assoc]

/-- Where `rest` stands behind, the search finds this in the part and goes on at its end. -/
def Passes (p : Pattern α) (before : Option Char) (part : Text) (found : List α) (rest : Text) :
    Prop :=
  search p 0 before (part ++ rest) = found ++ search p 0 (charBefore before part) rest

/-- A pattern that matches only where this character stands. -/
def Starts (p : Pattern α) (first : Char) : Prop :=
  ∀ before c here, c ≠ first → p before (c :: here) = none

theorem search_length (before : Option Char) (part rest : Text) :
    search p part.length before (part ++ rest) = search p 0 (charBefore before part) rest := by
  induction part generalizing before with
  | nil => rfl
  | cons c part ih =>
    rw [List.length_cons, List.cons_append, search, ih, charBefore_cons]

namespace Passes

theorem nil (before : Option Char) (rest : Text) : p.Passes before [] [] rest := rfl

theorem append {before : Option Char} {a b rest : Text} {as bs : List α}
    (ha : p.Passes before a as (b ++ rest)) (hb : p.Passes (charBefore before a) b bs rest) :
    p.Passes before (a ++ b) (as ++ bs) rest := by
  unfold Passes at *
  rw [List.append_assoc, ha, hb, charBefore_append, List.append_assoc]

/-- Where there is no match, the search goes on behind the character. -/
theorem cons {before : Option Char} {c : Char} {part rest : Text} {found : List α}
    (h : p before (c :: (part ++ rest)) = none) (hpart : p.Passes (some c) part found rest) :
    p.Passes before (c :: part) found rest := by
  unfold Passes at *
  rw [List.cons_append, charBefore_cons, ← hpart]
  simp only [search, h]

/-- Nothing is found where no place of the part has a match. -/
theorem of_none {before : Option Char} {part rest : Text}
    (h : ∀ read c here, part = read ++ c :: here →
      p (charBefore before read) (c :: (here ++ rest)) = none) :
    p.Passes before part [] rest := by
  induction part generalizing before with
  | nil => exact .nil before rest
  | cons c part ih =>
    apply Passes.cons (h [] c part rfl)
    apply ih
    intro read d here hpart
    rw [← charBefore_cons before]
    exact h (c :: read) d here (by rw [hpart, List.cons_append])

theorem of_no_match {before : Option Char} {part rest : Text}
    (h : ∀ read c here found, part = read ++ c :: here →
      p (charBefore before read) (c :: (here ++ rest)) ≠ some found) :
    p.Passes before part [] rest := by
  apply of_none
  intro read c here hpart
  rw [Option.eq_none_iff_forall_ne_some]
  exact fun found => h read c here found hpart

theorem of_notMem {first : Char} (hstarts : p.Starts first) {before : Option Char}
    {part rest : Text} (h : first ∉ part) : p.Passes before part [] rest := by
  apply of_none
  rintro read c here rfl
  apply hstarts
  rintro rfl
  exact h (List.mem_append_right read List.mem_cons_self)

/-- A match is passed as a whole. -/
theorem of_match {before : Option Char} {part rest : Text} {a : α} (hne : part ≠ [])
    (h : p before (part ++ rest) = some (a, rest)) : p.Passes before part [a] rest := by
  unfold Passes
  cases part with
  | nil => exact absurd rfl hne
  | cons c part =>
    have hlength : (part ++ rest).length - rest.length = part.length := by
      rw [List.length_append]
      omega
    rw [List.cons_append] at h ⊢
    simp only [search, h]
    rw [hlength, search_length, charBefore_cons, List.singleton_append]

theorem findAll_eq {t : Text} {found : List α} (h : p.Passes none t found []) :
    p.findAll t = found := by
  unfold Passes at h
  rw [List.append_nil, search, List.append_nil] at h
  exact h

end Passes

/-! Texts made of many parts of one kind. -/

/-- Parts one after the other, each of which starts behind a good character. -/
theorem findAll_flatMap (good : Option Char → Prop) {text : β → Text} {found : β → List α}
    (hgood : good none)
    (hpart : ∀ b before rest, good before →
      p.Passes before (text b) (found b) rest ∧ good (charBefore before (text b)))
    (parts : List β) : p.findAll (parts.flatMap text) = parts.flatMap found := by
  have hall : ∀ before, good before →
      p.Passes before (parts.flatMap text) (parts.flatMap found) [] := by
    induction parts with
    | nil => exact fun before _ => .nil before []
    | cons b parts ih =>
      intro before hbefore
      obtain ⟨hpasses, hnext⟩ := hpart b before (parts.flatMap text ++ []) hbefore
      rw [List.flatMap_cons, List.flatMap_cons]
      exact hpasses.append (ih _ hnext)
  exact (hall none hgood).findAll_eq

/-- Parts with a separator between them. What is found in a part may depend on whether a separator
or nothing stands behind it. -/
theorem findAll_join (good : Option Char → Prop) {text : β → Text} {found : β → List α} {sep : Text}
    (hgood : good none)
    (hpart : ∀ b before rest, good before → rest = [] ∨ sep <+: rest →
      p.Passes before (text b) (found b) rest)
    (hsep : ∀ before rest, p.Passes before sep [] rest ∧ good (charBefore before sep))
    (parts : List β) : p.findAll (Text.join sep (parts.map text)) = parts.flatMap found := by
  have hall : ∀ before, good before →
      p.Passes before (Text.join sep (parts.map text)) (parts.flatMap found) [] := by
    induction parts with
    | nil => exact fun before _ => .nil before []
    | cons b parts ih =>
      intro before hbefore
      cases parts with
      | nil =>
        have hlast := hpart b before [] hbefore (Or.inl rfl)
        rw [List.flatMap_singleton]
        exact hlast
      | cons c parts =>
        have hpasses := hpart b before (sep ++ (Text.join sep ((c :: parts).map text) ++ []))
          hbefore (Or.inr (List.prefix_append _ _))
        have hnext := hsep (charBefore before (text b))
          (Text.join sep ((c :: parts).map text) ++ [])
        rw [List.map_cons, Text.join_cons (by simp), List.flatMap_cons,
          ← List.append_nil (found b)]
        refine (hpasses.append hnext.1).append (ih _ ?_)
        rw [charBefore_append]
        exact hnext.2
  exact (hall none hgood).findAll_eq

end Pattern
end CodeGraph
