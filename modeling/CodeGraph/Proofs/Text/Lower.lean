import CodeGraph.Text.Blank
import CodeGraph.Text.Case
import Mathlib.Data.List.Basic
import Mathlib.Tactic.SplitIfs

/-! Lower case: it is the same for a text in lower case, and it neither makes nor takes away blanks
and dots. -/
namespace CodeGraph.Text

/-! The table of capitals, judged by runs: hardly any runs overlap, so few codes are tried. -/

/-- None of the codes from the first to the last lies in the ranges. -/
def outside (first last : Nat) : List Nat → Bool
  | lo :: hi :: r => (Nat.blt last lo || Nat.ble hi first) && outside first last r
  | _ => true

theorem inRanges_of_outside {first last n : Nat} (hfirst : first ≤ n) (hlast : n ≤ last) :
    ∀ {bounds : List Nat}, outside first last bounds = true → inRanges bounds n = false
  | [], _ => rfl
  | [_], _ => rfl
  | lo :: hi :: r, h => by
    rw [outside, Bool.and_eq_true, Bool.or_eq_true, Nat.blt_eq, Nat.ble_eq] at h
    rw [inRanges]
    split_ifs with hlo hhi
    · rfl
    · omega
    · exact inRanges_of_outside hfirst hlast h.2

namespace CapitalRun

/-- No code belongs to both runs. -/
def apart (r s : CapitalRun) : Bool :=
  Nat.blt r.last s.first || Nat.blt s.last r.first ||
    (List.range (r.last - r.first + 1)).all fun k =>
      !(r.covers (r.first + k) && s.covers (r.first + k))

theorem le_of_covers {r : CapitalRun} {n : Nat} (h : r.covers n = true) :
    r.first ≤ n ∧ n ≤ r.last := by
  unfold covers at h
  simp only [Bool.and_eq_true, decide_eq_true_eq] at h
  exact h.1

theorem covers_of_apart {r s : CapitalRun} {n : Nat} (h : r.apart s = true)
    (hr : r.covers n = true) : s.covers n = false := by
  obtain ⟨hfirst, hlast⟩ := le_of_covers hr
  rw [Bool.eq_false_iff]
  intro hs
  obtain ⟨hfirst', hlast'⟩ := le_of_covers hs
  rw [apart, Bool.or_eq_true, Bool.or_eq_true, Nat.blt_eq, Nat.blt_eq] at h
  rcases h with (h | h) | h
  · omega
  · omega
  · have hk := List.all_eq_true.mp h (n - r.first) (List.mem_range.mpr (by omega))
    rw [Nat.add_sub_cancel' hfirst, hr, hs] at hk
    exact absurd hk (by decide)

/-- The small letters of a run, as a run. -/
def smalls (r : CapitalRun) : CapitalRun :=
  { r with first := (r.first + r.shift).toNat, last := (r.last + r.shift).toNat }

theorem covers_smalls {r : CapitalRun} {n : Nat} (hr : 0 ≤ r.first + r.shift)
    (h : r.covers n = true) : r.smalls.covers (n + r.shift).toNat = true := by
  unfold covers at h
  simp only [Bool.and_eq_true, decide_eq_true_eq, beq_iff_eq] at h
  obtain ⟨⟨hfirst, hlast⟩, hstep⟩ := h
  have hsub : (n + r.shift).toNat - (r.first + r.shift).toNat = n - r.first := by omega
  unfold covers smalls
  simp only [Bool.and_eq_true, decide_eq_true_eq, beq_iff_eq, hsub]
  exact ⟨⟨by omega, by omega⟩, hstep⟩

/-- Lower case keeps the characters of a run. -/
def isKept (r : CapitalRun) : Bool :=
  capitalRuns.all r.apart &&
    outside r.first r.last ['İ'.toNat, 'İ'.toNat + 1, 'Σ'.toNat, 'Σ'.toNat + 1] &&
    outside r.first r.last [0xD800, 0xE000] && Nat.blt r.last 0x110000

/-- There is neither a blank nor a dot in a run. -/
def isSolid (r : CapitalRun) : Bool :=
  outside r.first r.last blankBounds && outside r.first r.last ['.'.toNat, '.'.toNat + 1]

/-- The bounds of the small letters are computed once, before they are compared. -/
def computed (n : Nat) (f : Nat → Bool) : Bool :=
  match n with
  | 0 => f 0
  | k + 1 => f (k + 1)

theorem computed_eq (n : Nat) (f : Nat → Bool) : computed n f = f n := by
  cases n <;> rfl

end CapitalRun

theorem capitalRuns_checked : capitalRuns.all (fun r =>
    r.isSolid && decide (0 ≤ r.first + r.shift) &&
      CapitalRun.computed (r.first + r.shift).toNat fun first =>
        CapitalRun.computed (r.last + r.shift).toNat fun last =>
          { r with first, last }.isKept && { r with first, last }.isSolid) = true := by
  decide +kernel

theorem capitalRuns_settled {r : CapitalRun} (hr : r ∈ capitalRuns) : r.isSolid = true ∧
    0 ≤ r.first + r.shift ∧ r.smalls.isKept = true ∧ r.smalls.isSolid = true := by
  have h := List.all_eq_true.mp capitalRuns_checked r hr
  simp only [CapitalRun.computed_eq, Bool.and_eq_true, decide_eq_true_eq] at h
  exact ⟨h.1.1, h.1.2, h.2.1, h.2.2⟩

/-! Single characters. -/

/-- A character that lower case keeps wherever it stands. -/
structure IsSmall (c : Char) : Prop where
  lowerChar_eq : lowerChar c = c
  ne_sigma : c ≠ 'Σ'
  ne_dotted : c ≠ 'İ'

theorem isSmall_of_isKept {r : CapitalRun} {c : Char} (h : r.isKept = true)
    (hc : r.covers c.toNat = true) : IsSmall c := by
  obtain ⟨hfirst, hlast⟩ := CapitalRun.le_of_covers hc
  simp only [CapitalRun.isKept, Bool.and_eq_true] at h
  have hnone : capitalRuns.find? (·.covers c.toNat) = none := by
    rw [List.find?_eq_none]
    intro s hs
    rw [CapitalRun.covers_of_apart (List.all_eq_true.mp h.1.1.1 s hs) hc]
    decide
  have hspecial := inRanges_of_outside hfirst hlast h.1.1.2
  refine ⟨by rw [lowerChar, hnone], ?_, ?_⟩
  · rintro rfl
    exact absurd hspecial (by decide)
  · rintro rfl
    exact absurd hspecial (by decide)

theorem isSolid_of_isSolid {r : CapitalRun} {c : Char} (h : r.isSolid = true)
    (hc : r.covers c.toNat = true) : isBlank c = false ∧ c ≠ '.' := by
  obtain ⟨hfirst, hlast⟩ := CapitalRun.le_of_covers hc
  simp only [CapitalRun.isSolid, Bool.and_eq_true] at h
  have hdot := inRanges_of_outside hfirst hlast h.2
  refine ⟨inRanges_of_outside hfirst hlast h.1, ?_⟩
  rintro rfl
  exact absurd hdot (by decide)

/-- Both are blanks or neither is, and so with dots. -/
def SameSort (c d : Char) : Prop :=
  isBlank d = isBlank c ∧ (d = '.' ↔ c = '.')

theorem isValidChar_of_isKept {r : CapitalRun} {n : Nat} (h : r.isKept = true)
    (hn : r.covers n = true) : n.isValidChar := by
  obtain ⟨hfirst, hlast⟩ := CapitalRun.le_of_covers hn
  simp only [CapitalRun.isKept, Bool.and_eq_true, Nat.blt_eq] at h
  have hgap := inRanges_of_outside hfirst hlast h.1.2
  simp only [inRanges] at hgap
  unfold Nat.isValidChar
  split_ifs at hgap with hlo hhi
  · exact Or.inl hlo
  · exact Or.inr ⟨by omega, by omega⟩

theorem covers_lowerChar {r : CapitalRun} {c : Char}
    (hfind : capitalRuns.find? (·.covers c.toNat) = some r) :
    r.smalls.covers (lowerChar c).toNat = true := by
  have hcovers : r.covers c.toNat = true := by simpa using List.find?_some hfind
  obtain ⟨-, hshift, hkept, -⟩ := capitalRuns_settled (List.mem_of_find?_eq_some hfind)
  have himage := CapitalRun.covers_smalls hshift hcovers
  have hcode : (lowerChar c).toNat = (c.toNat + r.shift).toNat := by
    rw [lowerChar, hfind]
    dsimp only
    rw [Char.ofNat, dif_pos (isValidChar_of_isKept hkept himage)]
    rfl
  rwa [hcode]

/-- The small letter of any character but the two that have rules of their own. -/
theorem isSmall_lowerChar {c : Char} (hsigma : c ≠ 'Σ') (hdotted : c ≠ 'İ') :
    IsSmall (lowerChar c) ∧ SameSort c (lowerChar c) := by
  cases hfind : capitalRuns.find? (·.covers c.toNat) with
  | none =>
    have hself : lowerChar c = c := by rw [lowerChar, hfind]
    rw [hself]
    exact ⟨⟨hself, hsigma, hdotted⟩, rfl, Iff.rfl⟩
  | some r =>
    have hcovers : r.covers c.toNat = true := by simpa using List.find?_some hfind
    have himage := covers_lowerChar hfind
    obtain ⟨hsolid, -, hkept, hsolid'⟩ := capitalRuns_settled (List.mem_of_find?_eq_some hfind)
    obtain ⟨hblank, hdot⟩ := isSolid_of_isSolid hsolid hcovers
    obtain ⟨hblank', hdot'⟩ := isSolid_of_isSolid hsolid' himage
    exact ⟨isSmall_of_isKept hkept himage, hblank'.trans hblank.symm, iff_of_false hdot' hdot⟩

/-- What a character becomes, between the text before it in reverse and the text behind it. -/
def lowerHere (before : Text) (c : Char) (r : Text) : Text :=
  if c = 'Σ' then (if nextIsCased before && !nextIsCased r then ['ς'] else ['σ'])
  else if c = 'İ' then ['i', Char.ofNat 0x307]
  else [lowerChar c]

theorem lowerFrom_cons (before : Text) (c : Char) (r : Text) :
    lowerFrom before (c :: r) = lowerHere before c r ++ lowerFrom (c :: before) r := rfl

theorem lowerHere_ne_nil (before : Text) (c : Char) (r : Text) : lowerHere before c r ≠ [] := by
  unfold lowerHere
  split_ifs <;> simp

theorem forall_mem_lowerHere (before : Text) (c : Char) (r : Text) :
    ∀ d ∈ lowerHere before c r, IsSmall d ∧ SameSort c d := by
  unfold lowerHere
  split_ifs with hsigma hends hdotted
  · subst hsigma
    exact List.forall_mem_singleton.mpr
      ⟨⟨by decide +kernel, by decide, by decide⟩, by decide, by decide⟩
  · subst hsigma
    exact List.forall_mem_singleton.mpr
      ⟨⟨by decide +kernel, by decide, by decide⟩, by decide, by decide⟩
  · subst hdotted
    refine List.forall_mem_cons.mpr ⟨?_, List.forall_mem_singleton.mpr ?_⟩
    · exact ⟨⟨by decide +kernel, by decide, by decide⟩, by decide, by decide⟩
    · exact ⟨⟨by decide +kernel, by decide, by decide⟩, by decide, by decide⟩
  · exact List.forall_mem_singleton.mpr (isSmall_lowerChar hsigma hdotted)

/-! Texts. -/

theorem isSmall_of_mem_lowerFrom {before t : Text} {d : Char} (h : d ∈ lowerFrom before t) :
    IsSmall d := by
  induction t generalizing before with
  | nil => exact absurd h List.not_mem_nil
  | cons c t ih =>
    rw [lowerFrom_cons, List.mem_append] at h
    rcases h with h | h
    · exact (forall_mem_lowerHere before c t d h).1
    · exact ih h

theorem lowerFrom_of_isSmall {before t : Text} (h : ∀ c ∈ t, IsSmall c) :
    lowerFrom before t = t := by
  induction t generalizing before with
  | nil => rfl
  | cons c t ih =>
    obtain ⟨hc, ht⟩ := List.forall_mem_cons.mp h
    rw [lowerFrom_cons, ih ht, lowerHere, if_neg hc.ne_sigma, if_neg hc.ne_dotted,
      hc.lowerChar_eq, List.singleton_append]

theorem lower_lower (t : Text) : lower (lower t) = lower t :=
  lowerFrom_of_isSmall fun _ hc => isSmall_of_mem_lowerFrom hc

/-- A text is in lower case just if all its characters are. -/
theorem lower_eq_self_iff (t : Text) : lower t = t ↔ ∀ c ∈ t, IsSmall c := by
  constructor
  · intro h c hc
    rw [← h] at hc
    exact isSmall_of_mem_lowerFrom hc
  · exact lowerFrom_of_isSmall

/-- What a text begins with. -/
theorem exists_lower_cons (c : Char) (r : Text) :
    ∃ d rest, lower (c :: r) = d :: rest ∧ SameSort c d := by
  obtain ⟨d, more, hhere⟩ := List.exists_cons_of_ne_nil (lowerHere_ne_nil [] c r)
  refine ⟨d, more ++ lowerFrom [c] r, ?_, (forall_mem_lowerHere [] c r d (by simp [hhere])).2⟩
  rw [lower, lowerFrom_cons, hhere, List.cons_append]

/-- What a text ends with. -/
theorem exists_lower_concat (r : Text) (c : Char) :
    ∃ rest d, lower (r ++ [c]) = rest ++ [d] ∧ SameSort c d := by
  have hall : ∀ before, ∃ rest d, lowerFrom before (r ++ [c]) = rest ++ [d] ∧ SameSort c d := by
    induction r with
    | nil =>
      intro before
      obtain hnil | ⟨rest, d, hhere⟩ := List.eq_nil_or_concat' (lowerHere before c [])
      · exact absurd hnil (lowerHere_ne_nil before c [])
      · refine ⟨rest, d, ?_, (forall_mem_lowerHere before c [] d (by simp [hhere])).2⟩
        rw [List.nil_append, lowerFrom_cons, hhere]
        exact List.append_nil _
    | cons a r ih =>
      intro before
      obtain ⟨rest, d, hrest, hsort⟩ := ih (a :: before)
      refine ⟨lowerHere before a (r ++ [c]) ++ rest, d, ?_, hsort⟩
      rw [List.cons_append, lowerFrom_cons, hrest, List.append_assoc]
  exact hall []

end CodeGraph.Text
