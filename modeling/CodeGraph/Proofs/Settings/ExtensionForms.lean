import CodeGraph.Proofs.Settings.InEffect
import CodeGraph.Proofs.Text.Lower
import Mathlib.Data.Finset.Max
import Mathlib.Data.List.DropRight
import Mathlib.Data.List.TakeWhile

/-! The normal forms of extensions. They are normal forms of themselves unless blanks or nothing at
all stand behind the dots of one. -/
namespace CodeGraph

namespace Text

theorem dropWhile_eq_self_iff {p : Char → Bool} {t : Text} :
    t.dropWhile p = t ↔ ∀ c r, t = c :: r → p c = false := by
  rw [List.dropWhile_eq_self_iff]
  cases t <;> simp

theorem head_of_dropWhile {p : Char → Bool} {t r : Text} {c : Char}
    (h : t.dropWhile p = c :: r) : p c = false := by
  have hne : t.dropWhile p ≠ [] := by simp [h]
  have hhead := List.head_dropWhile_not p hne
  simpa [h] using hhead

theorem stripRight_eq_rdropWhile (t : Text) : stripRight t = t.rdropWhile isBlank := rfl

theorem stripRight_eq_self_iff {t : Text} :
    stripRight t = t ↔ ∀ r c, t = r ++ [c] → isBlank c = false := by
  rw [stripRight_eq_rdropWhile, List.rdropWhile_eq_self_iff]
  constructor
  · rintro h r c rfl
    simpa using h (by simp)
  · intro h hne
    simpa using h t.dropLast (t.getLast hne) (List.dropLast_concat_getLast hne).symm

theorem stripRight_stripRight (t : Text) : stripRight (stripRight t) = stripRight t :=
  List.rdropWhile_idempotent isBlank t

/-- The end of a text that does not end with a blank does not end with one. -/
theorem stripRight_of_suffix {s t : Text} (ht : stripRight t = t) (h : s <:+ t) :
    stripRight s = s := by
  rw [stripRight_eq_self_iff] at ht ⊢
  rintro r c rfl
  obtain ⟨before, rfl⟩ := h
  exact ht (before ++ r) c (List.append_assoc _ _ _).symm

theorem stripRight_lower {t : Text} (h : stripRight t = t) : stripRight (lower t) = lower t := by
  rw [stripRight_eq_self_iff] at h ⊢
  intro r d hlower
  obtain rfl | ⟨before, c, rfl⟩ := List.eq_nil_or_concat' t
  · exact absurd hlower (by simp [lower, lowerFrom])
  · obtain ⟨rest, d', hrest, hsort⟩ := exists_lower_concat before c
    obtain ⟨-, hd⟩ := List.append_inj' (hrest.symm.trans hlower) rfl
    rw [← (List.cons.inj hd).1, hsort.1]
    exact h before c rfl

/-- The text begins with a character that is no blank. -/
def Opens (t : Text) : Prop :=
  ∃ c r, t = c :: r ∧ isBlank c = false

theorem opens_iff {t : Text} : Opens t ↔ t ≠ [] ∧ stripLeft t = t := by
  rw [stripLeft, dropWhile_eq_self_iff]
  constructor
  · rintro ⟨c, r, rfl, hc⟩
    refine ⟨List.cons_ne_nil c r, fun d s h => ?_⟩
    rw [← (List.cons.inj h).1]
    exact hc
  · rintro ⟨hne, h⟩
    obtain ⟨c, r, rfl⟩ := List.exists_cons_of_ne_nil hne
    exact ⟨c, r, rfl, h c r rfl⟩

theorem opens_lower_iff {t : Text} : Opens (lower t) ↔ Opens t := by
  cases t with
  | nil => rfl
  | cons c r =>
    obtain ⟨d, rest, hlower, hsort⟩ := exists_lower_cons c r
    rw [hlower]
    constructor
    · rintro ⟨d', rest', h, hd⟩
      rw [← (List.cons.inj h).1, hsort.1] at hd
      exact ⟨c, r, rfl, hd⟩
    · rintro ⟨c', r', h, hc⟩
      rw [← (List.cons.inj h).1] at hc
      exact ⟨d, rest, rfl, hsort.1.trans hc⟩

end Text

/-- What is left of a text without its blanks and dots in front, and without the blanks behind. -/
def bareExtension (t : Text) : Text :=
  (Text.strip t).dropWhile (· = '.')

/-- There is something other than blanks, but nothing or a blank stands behind the dots. -/
def IsHollow (t : Text) : Prop :=
  Text.strip t ≠ [] ∧ ∀ c r, bareExtension t = c :: r → Text.isBlank c = true

theorem not_isHollow_iff {t : Text} (h : Text.strip t ≠ []) :
    ¬IsHollow t ↔ Text.Opens (bareExtension t) := by
  unfold IsHollow Text.Opens
  simp [h]

/-- Lower case, no dot in front and no blank behind. -/
structure IsSettled (e : Text) : Prop where
  lower : Text.lower e = e
  no_dot : e.head? ≠ some '.'
  stripRight : Text.stripRight e = e

theorem isSettled_normalizeExtension (t : Text) : IsSettled (normalizeExtension t) where
  lower := Text.lower_lower _
  no_dot := by
    unfold normalizeExtension
    cases hbare : (Text.strip t).dropWhile (· = '.') with
    | nil => simp [Text.lower, Text.lowerFrom]
    | cons c r =>
      have hc := Text.head_of_dropWhile hbare
      obtain ⟨d, rest, hlower, hsort⟩ := Text.exists_lower_cons c r
      rw [hlower, List.head?_cons, ne_eq, Option.some_inj, hsort.2]
      simpa using hc
  stripRight := by
    apply Text.stripRight_lower
    exact Text.stripRight_of_suffix (Text.stripRight_stripRight _) (List.dropWhile_suffix _)

namespace IsSettled

variable {e : Text} (h : IsSettled e)
include h

theorem dropWhile_dot : e.dropWhile (· = '.') = e := by
  rw [Text.dropWhile_eq_self_iff]
  rintro c r rfl
  simpa using h.no_dot

/-- A settled text that begins with no blank is the normal form of itself. -/
theorem normalizeExtension_eq (hopens : Text.Opens e) :
    Text.strip e ≠ [] ∧ normalizeExtension e = e := by
  obtain ⟨hne, hleft⟩ := Text.opens_iff.mp hopens
  have hstrip : Text.strip e = e := by rw [Text.strip, hleft, h.stripRight]
  exact ⟨by rwa [hstrip], by rw [normalizeExtension, hstrip, h.dropWhile_dot, h.lower]⟩

/-- One that begins with a blank loses it. -/
theorem length_normalizeExtension_lt (hopens : ¬Text.Opens e) (hstrip : Text.strip e ≠ []) :
    (normalizeExtension e).length < e.length := by
  have hleft : (Text.stripLeft e).length < e.length := by
    have hsuffix := List.dropWhile_suffix Text.isBlank (l := e)
    refine lt_of_le_of_ne hsuffix.length_le fun hlength => hopens ?_
    refine Text.opens_iff.mpr ⟨?_, hsuffix.eq_of_length hlength⟩
    rintro rfl
    exact hstrip rfl
  have hdots : bareExtension e <:+ Text.strip e := List.dropWhile_suffix _
  have hright : Text.strip e <+: Text.stripLeft e := List.rdropWhile_prefix _ _
  have hbare : Text.lower (bareExtension e) = bareExtension e := by
    rw [Text.lower_eq_self_iff]
    have hsmall := (Text.lower_eq_self_iff e).mp h.lower
    exact fun c hc => hsmall c ((List.dropWhile_suffix _).subset (hright.subset (hdots.subset hc)))
  change (Text.lower (bareExtension e)).length < e.length
  rw [hbare]
  exact (hdots.length_le.trans hright.length_le).trans_lt hleft

end IsSettled

variable {ts : List Text}

theorem isSettled_of_mem {e : Text} (h : e ∈ normalizeExtensions ts) : IsSettled e := by
  obtain ⟨t, -, -, rfl⟩ := Settings.mem_normalizeExtensions.mp h
  exact isSettled_normalizeExtension t

/-- The forms of a list all begin well just if no text of the list is hollow. -/
theorem forall_opens_iff :
    (∀ e ∈ normalizeExtensions ts, Text.Opens e) ↔ ∀ t ∈ ts, ¬IsHollow t := by
  have hform : ∀ t, Text.Opens (normalizeExtension t) ↔ Text.Opens (bareExtension t) :=
    fun t => Text.opens_lower_iff
  constructor
  · intro h t ht hhollow
    have hopens := h _ (Settings.mem_normalizeExtensions.mpr ⟨t, ht, hhollow.1, rfl⟩)
    exact (not_isHollow_iff hhollow.1).mpr ((hform t).mp hopens) hhollow
  · intro h e he
    obtain ⟨t, ht, hstrip, rfl⟩ := Settings.mem_normalizeExtensions.mp he
    exact (hform t).mpr ((not_isHollow_iff hstrip).mp (h t ht))

theorem normalizeExtensions_of_opens (h : ∀ e ∈ normalizeExtensions ts, Text.Opens e) :
    normalizeExtensions (normalizeExtensions ts) = normalizeExtensions ts := by
  have hsorted : (normalizeExtensions ts).Pairwise (· < ·) := Text.pairwise_sortDistinct _
  have hkept : ∀ e ∈ normalizeExtensions ts,
      Text.strip e ≠ [] ∧ normalizeExtension e = e := fun e he =>
    (isSettled_of_mem he).normalizeExtension_eq (h e he)
  have hself : ((normalizeExtensions ts).filter fun e => !(Text.strip e).isEmpty).map
      normalizeExtension = normalizeExtensions ts := by
    rw [List.filter_eq_self.mpr fun e he => by simpa using (hkept e he).1]
    exact (List.map_congr_left fun e he => (hkept e he).2).trans (List.map_id _)
  conv_lhs => rw [normalizeExtensions, hself, Text.sortDistinct_eq_self hsorted]

/-- In a list that is kept, a form that does not begin well is made of a longer one, and that one of
a still longer one. -/
theorem opens_of_normalizeExtensions_eq
    (h : normalizeExtensions (normalizeExtensions ts) = normalizeExtensions ts) :
    ∀ e ∈ normalizeExtensions ts, Text.Opens e := by
  classical
  have hlonger : ∀ e ∈ normalizeExtensions ts, ¬Text.Opens e →
      ∃ e' ∈ normalizeExtensions ts, ¬Text.Opens e' ∧ e.length < e'.length := by
    intro e he hopens
    rw [← h] at he
    obtain ⟨e', he', hstrip, rfl⟩ := Settings.mem_normalizeExtensions.mp he
    have hsettled := isSettled_of_mem he'
    have hopens' : ¬Text.Opens e' := fun hopens' =>
      hopens ((hsettled.normalizeExtension_eq hopens').2.symm ▸ hopens')
    exact ⟨e', he', hopens', hsettled.length_normalizeExtension_lt hopens' hstrip⟩
  by_contra hbad
  push Not at hbad
  obtain ⟨e, he, hopens⟩ := hbad
  obtain ⟨top, htop, hmax⟩ := ((normalizeExtensions ts).toFinset.filter fun e =>
    ¬Text.Opens e).exists_max_image List.length ⟨e, by simp [he, hopens]⟩
  rw [Finset.mem_filter, List.mem_toFinset] at htop
  obtain ⟨e', he', hopens', hlt⟩ := hlonger top htop.1 htop.2
  exact absurd (hmax e' (by simp [he', hopens'])) (Nat.not_le.mpr hlt)

/-- Everything about the forms of a list. -/
structure Forms (ts : List Text) : Prop where
  sorted : (normalizeExtensions ts).Pairwise (· < ·)
  settled : ∀ e ∈ normalizeExtensions ts, IsSettled e
  opens_iff : (∀ e ∈ normalizeExtensions ts, e ≠ [] ∧ Text.stripLeft e = e) ↔
    ∀ t ∈ ts, ¬IsHollow t
  again_iff : normalizeExtensions (normalizeExtensions ts) = normalizeExtensions ts ↔
    ∀ t ∈ ts, ¬IsHollow t

theorem forms (ts : List Text) : Forms ts where
  sorted := Text.pairwise_sortDistinct _
  settled _ := isSettled_of_mem
  opens_iff := by
    rw [← forall_opens_iff]
    exact forall₂_congr fun e _ => Text.opens_iff.symm
  again_iff := by
    rw [← forall_opens_iff]
    exact ⟨opens_of_normalizeExtensions_eq, normalizeExtensions_of_opens⟩

end CodeGraph
