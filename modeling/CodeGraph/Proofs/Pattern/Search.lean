import CodeGraph.Source.Pattern
import Mathlib.Data.List.Basic
import Mathlib.Data.List.TakeWhile
import Mathlib.Tactic.SplitIfs

/-! The search from left to right, compared with trying every place. -/
namespace CodeGraph

namespace Text

/-- A suffix starts behind a part that lacks its first character. -/
theorem suffix_of_notMem {c : Char} {v part t : Text} (h : c :: v <:+ part ++ t)
    (hc : c ∉ part) : c :: v <:+ t := by
  induction part with
  | nil => exact h
  | cons a part ih =>
    rw [List.mem_cons, not_or] at hc
    rcases List.suffix_cons_iff.mp h with heq | h
    · exact absurd (List.cons.inj heq).1 hc.1
    · exact ih h hc.2

theorem suffix_append_cases {v part t : Text} (h : v <:+ part ++ t) :
    v <:+ t ∨ ∃ w, w <:+ part ∧ v = w ++ t := by
  induction part with
  | nil => exact Or.inl h
  | cons a part ih =>
    rcases List.suffix_cons_iff.mp h with rfl | h
    · exact Or.inr ⟨a :: part, List.suffix_refl _, rfl⟩
    · rcases ih h with h | ⟨w, hw, rfl⟩
      · exact Or.inl h
      · exact Or.inr ⟨w, hw.trans (List.suffix_cons a part), rfl⟩

/-- What comes before the first character of a sort comes before every character of that sort. -/
theorem mem_of_append_eq {sort : Char → Bool} {part rest word behind : Text} {c mark : Char}
    (hpart : ∀ x ∈ part, sort x = false) (hc : sort c = false) (hmark : sort mark = true)
    (h : part ++ c :: rest = word ++ mark :: behind) : c ∈ word := by
  rcases List.append_eq_append_iff.mp h with ⟨more, rfl, hmore⟩ | ⟨more, rfl, hmore⟩
  · cases more with
    | nil =>
      rw [(List.cons.inj hmore).1, hmark] at hc
      exact absurd hc (by decide)
    | cons x more =>
      rw [(List.cons.inj hmore).1]
      exact List.mem_append_right part List.mem_cons_self
  · cases more with
    | nil =>
      rw [← (List.cons.inj hmore).1, hmark] at hc
      exact absurd hc (by decide)
    | cons x more =>
      have hx := hpart x (List.mem_append_right word List.mem_cons_self)
      rw [← (List.cons.inj hmore).1, hmark] at hx
      exact absurd hx (by decide)

end Text

namespace Pattern

variable {α : Type} {p : Pattern α}

/-- Where the text starts anew behind `read`, this character is the one before. -/
def charBefore (before : Option Char) (read : Text) : Option Char :=
  read.getLast?.or before

@[simp] theorem charBefore_nil (before : Option Char) : charBefore before [] = before := rfl

@[simp] theorem charBefore_cons (before : Option Char) (c : Char) (read : Text) :
    charBefore before (c :: read) = charBefore (some c) read := by
  unfold charBefore
  rw [List.getLast?_cons]
  cases read.getLast? <;> rfl

theorem mem_everywhere {before : Option Char} {t : Text} {a : α} :
    a ∈ p.everywhere before t ↔
      ∃ read c here rest, t = read ++ c :: here ∧
        p (charBefore before read) (c :: here) = some (a, rest) := by
  induction t generalizing before with
  | nil => simp [everywhere]
  | cons c t ih =>
    rw [everywhere, List.mem_append, ih, Option.mem_toList,
      Option.map_eq_some_iff]
    constructor
    · rintro (⟨⟨b, rest⟩, hp, rfl⟩ | ⟨read, d, here, rest, rfl, hp⟩)
      · exact ⟨[], c, t, rest, rfl, hp⟩
      · exact ⟨c :: read, d, here, rest, rfl, by rwa [charBefore_cons]⟩
    · rintro ⟨read, d, here, rest, heq, hp⟩
      cases read with
      | nil =>
        obtain ⟨rfl, rfl⟩ := List.cons.inj heq
        exact Or.inl ⟨(a, rest), hp, rfl⟩
      | cons c' read =>
        obtain ⟨rfl, rfl⟩ := List.cons.inj heq
        exact Or.inr ⟨read, d, here, rest, rfl, by rwa [charBefore_cons] at hp⟩

/-! Every place by its number. -/

/-- What the pattern finds where it is tried at a place of the text. -/
def foundAt (p : Pattern α) (t : Text) (place : Nat) : Option α :=
  (p (t.take place).getLast? (t.drop place)).map (·.1)

/-- The places at which the pattern matches, in ascending order, with what it finds there. -/
def allMatches (p : Pattern α) (t : Text) : List (Nat × α) :=
  (List.range t.length).filterMap fun place => (p.foundAt t place).map (place, ·)

theorem mem_allMatches {t : Text} {place : Nat} {a : α} :
    (place, a) ∈ p.allMatches t ↔ place < t.length ∧ p.foundAt t place = some a := by
  unfold allMatches
  rw [List.mem_filterMap]
  constructor
  · rintro ⟨i, hi, h⟩
    obtain ⟨b, hb, heq⟩ := Option.map_eq_some_iff.mp h
    obtain ⟨rfl, rfl⟩ := Prod.mk.inj heq
    exact ⟨List.mem_range.mp hi, hb⟩
  · rintro ⟨hlt, h⟩
    exact ⟨place, List.mem_range.mpr hlt, by rw [h, Option.map_some]⟩

theorem pairwise_allMatches (p : Pattern α) (t : Text) :
    (p.allMatches t).Pairwise (·.1 < ·.1) := by
  refine List.Pairwise.filterMap _ ?_ List.pairwise_lt_range
  intro i j hij a ha b hb
  obtain ⟨_, _, rfl⟩ := Option.map_eq_some_iff.mp ha
  obtain ⟨_, _, rfl⟩ := Option.map_eq_some_iff.mp hb
  exact hij

/-- Trying every place from `read` on, in a text that starts with it. -/
theorem everywhere_eq_filterMap (p : Pattern α) (read t : Text) :
    p.everywhere read.getLast? t =
      (List.range t.length).filterMap fun i => p.foundAt (read ++ t) (read.length + i) := by
  induction t generalizing read with
  | nil => rfl
  | cons c t ih =>
    have hrest := ih (read ++ [c])
    have hshift : ∀ i, (read ++ [c]).length + i = read.length + (i + 1) := by
      intro i
      rw [List.length_append, List.length_singleton]
      omega
    rw [List.getLast?_concat, List.append_assoc] at hrest
    have hfirst : p.foundAt (read ++ c :: t) (read.length + 0) =
        (p read.getLast? (c :: t)).map (·.1) := by
      unfold foundAt
      rw [Nat.add_zero, List.take_left, List.drop_left]
    simp only [hshift] at hrest
    rw [everywhere, hrest, List.length_cons, List.range_succ_eq_map, List.filterMap_cons,
      hfirst, List.filterMap_map]
    cases p read.getLast? (c :: t) <;> rfl

theorem map_allMatches (p : Pattern α) (t : Text) :
    (p.allMatches t).map (·.2) = p.everywhere none t := by
  have hall := p.everywhere_eq_filterMap [] t
  rw [List.getLast?_nil] at hall
  rw [hall, allMatches, List.map_filterMap]
  apply List.filterMap_congr
  intro place _
  rw [List.nil_append, List.length_nil, Nat.zero_add, Option.map_map]
  cases p.foundAt t place <;> rfl

/-- The search from left to right, which notes the place of each match. -/
def searchAt (p : Pattern α) : (place skip : Nat) → (before : Option Char) → Text → List (Nat × α)
  | _, _, _, [] => []
  | place, skip + 1, _, c :: r => searchAt p (place + 1) skip (some c) r
  | place, 0, before, c :: r =>
    match p before (c :: r) with
    | some (a, rest) => (place, a) :: searchAt p (place + 1) (r.length - rest.length) (some c) r
    | none => searchAt p (place + 1) 0 (some c) r

/-- What `findAll` finds, with the places. -/
def findAllAt (p : Pattern α) (t : Text) : List (Nat × α) :=
  searchAt p 0 0 none t

theorem map_searchAt (place skip : Nat) (before : Option Char) (t : Text) :
    (searchAt p place skip before t).map (·.2) = search p skip before t := by
  induction t generalizing place skip before with
  | nil => cases skip <;> rfl
  | cons c t ih =>
    cases skip with
    | succ skip => exact ih (place + 1) skip (some c)
    | zero =>
      cases hp : p before (c :: t) with
      | none => simp only [searchAt, search, hp, ih]
      | some found => simp only [searchAt, search, hp, List.map_cons, ih]

theorem map_findAllAt (p : Pattern α) (t : Text) : (p.findAllAt t).map (·.2) = p.findAll t :=
  map_searchAt 0 0 none t

/-- The matches from `read` on, in a text that starts with it. -/
theorem searchAt_sublist (p : Pattern α) (skip : Nat) (read t : Text) :
    (searchAt p read.length skip read.getLast? t).Sublist
      ((List.range t.length).filterMap fun i =>
        (p.foundAt (read ++ t) (read.length + i)).map (read.length + i, ·)) := by
  induction t generalizing skip read with
  | nil => cases skip <;> exact List.Sublist.refl _
  | cons c t ih =>
    have hrest := fun skip => ih skip (read ++ [c])
    have hshift : ∀ i, read.length + 1 + i = read.length + (i + 1) := by omega
    have hfirst : p.foundAt (read ++ c :: t) (read.length + 0) =
        (p read.getLast? (c :: t)).map (·.1) := by
      unfold foundAt
      rw [Nat.add_zero, List.take_left, List.drop_left]
    simp only [List.getLast?_concat, List.append_assoc, List.length_append, List.length_singleton,
      List.singleton_append, hshift] at hrest
    rw [List.length_cons, List.range_succ_eq_map, List.filterMap_cons, hfirst, List.filterMap_map]
    cases skip with
    | succ skip =>
      cases p read.getLast? (c :: t) with
      | none => exact hrest skip
      | some found => exact (hrest skip).cons _
    | zero =>
      cases hp : p read.getLast? (c :: t) with
      | none =>
        simp only [searchAt, hp]
        exact hrest 0
      | some found =>
        simp only [searchAt, hp]
        exact (hrest _).cons_cons _

theorem findAllAt_sublist (p : Pattern α) (t : Text) :
    (p.findAllAt t).Sublist (p.allMatches t) := by
  have hall := p.searchAt_sublist 0 [] t
  simp only [List.nil_append, List.length_nil, Nat.zero_add] at hall
  exact hall
/-- No match that is wanted starts within another match. -/
def Clear (p : Pattern α) (wanted : α → Bool) : Prop :=
  ∀ before c here a rest, p before (c :: here) = some (a, rest) →
    ∀ v, v <:+ here → rest.length < v.length →
      ∀ before' b rest', p before' v = some (b, rest') → wanted b = false

/-- Passing over the first characters loses no wanted match if none starts there. -/
theorem filter_search {wanted : α → Bool} (hclear : p.Clear wanted) (skip : Nat)
    (before : Option Char) (t : Text)
    (hskip : ∀ v, v <:+ t → t.length < v.length + skip →
      ∀ before' b rest', p before' v = some (b, rest') → wanted b = false) :
    (search p skip before t).filter wanted = (p.everywhere before t).filter wanted := by
  induction t generalizing skip before with
  | nil => cases skip <;> rfl
  | cons c t ih =>
    rw [everywhere, List.filter_append]
    cases skip with
    | succ skip =>
      have hfirst : ((p before (c :: t)).map (·.1)).toList.filter wanted = [] := by
        cases hp : p before (c :: t) with
        | none => rfl
        | some found =>
          have hnot : wanted found.1 = false :=
            hskip _ (List.suffix_refl _) (by omega) before found.1 found.2 hp
          simp [hnot]
      rw [search, hfirst, List.nil_append]
      apply ih
      intro v hv hlen
      exact hskip v (hv.trans (List.suffix_cons c t)) (by rw [List.length_cons]; omega)
    | zero =>
      cases hp : p before (c :: t) with
      | none =>
        simp only [search, hp]
        exact ih 0 (some c) fun v hv hlen => absurd hlen (by have := hv.length_le; omega)
      | some found =>
        simp only [search, hp, Option.map_some, Option.toList_some]
        rw [← List.filter_append, List.singleton_append, List.filter_cons, List.filter_cons,
          ih (t.length - found.2.length) (some c)]
        intro v hv hlen
        exact hclear before c t found.1 found.2 hp v hv (by have := hv.length_le; omega)

/-- The search finds every wanted match that any place has, in the same order. -/
theorem filter_findAll {wanted : α → Bool} (hclear : p.Clear wanted) (t : Text) :
    (p.findAll t).filter wanted = (p.everywhere none t).filter wanted := by
  apply filter_search hclear
  intro v hv hlen
  exact absurd hlen (by have := hv.length_le; omega)

end Pattern
end CodeGraph
