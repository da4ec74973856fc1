import CodeGraph.Proofs.Registry.Blocks
import Mathlib.Data.Nat.Find

/-! Drawing until an identifier is unused, from any stream of digits. The loop has no bound of its
own: it returns just if a block of nine digits gives an unused identifier, and then that of the
first such block. A registry draws what the loop returns. Where the stream counts up behind given
digits, few blocks are in vain. -/
namespace CodeGraph

namespace DigitStream

variable (s : DigitStream)

theorem length_pending_draw : s.draw.2.pending.length ≤ max s.pending.length 8 := by
  obtain ⟨_ | ⟨d, ds⟩, n⟩ := s <;> simp [draw]

/-- Drawing leaves less of the given digits, or what is left of one number. -/
theorem length_pending_drawMany (count : Nat) :
    (s.drawMany count).2.pending.length ≤ max s.pending.length 8 := by
  induction count generalizing s with
  | zero => exact Nat.le_max_left _ _
  | succ count ih =>
    change (s.draw.2.drawMany count).2.pending.length ≤ _
    have hfirst := s.length_pending_draw
    have hrest := ih s.draw.2
    omega

end DigitStream

namespace Identifier

def drawnAt (digits : Nat → Digit) (position : Nat) : Text :=
  ofDigits ((List.range 9).map fun i => digits (position + i))

/-- A call draws nine digits, and again nine until their identifier is unused. It returns that one,
with the position behind its digits. -/
inductive Redraws (digits : Nat → Digit) (used : List Text) :
    (position : Nat) → (id : Text) → (after : Nat) → Prop
  | stop {position} (h : drawnAt digits position ∉ used) :
    Redraws digits used position (drawnAt digits position) (position + 9)
  | again {position id after} (h : drawnAt digits position ∈ used)
    (hrest : Redraws digits used (position + 9) id after) : Redraws digits used position id after

/-- From the position on, `count` blocks give used identifiers, and the next gives an unused one. -/
structure IsFirstUnused (digits : Nat → Digit) (used : List Text) (position count : Nat) :
    Prop where
  unused : drawnAt digits (position + 9 * count) ∉ used
  earlier : ∀ k < count, drawnAt digits (position + 9 * k) ∈ used

section

variable {digits : Nat → Digit} {used : List Text} {position : Nat}

theorem position_succ (position k : Nat) : position + 9 + 9 * k = position + 9 * (k + 1) := by
  omega

/-- A block that is in vain moves the search on by nine digits. -/
theorem isFirstUnused_succ_iff {count : Nat} : IsFirstUnused digits used position (count + 1) ↔
    drawnAt digits position ∈ used ∧ IsFirstUnused digits used (position + 9) count := by
  constructor
  · rintro ⟨hunused, hearlier⟩
    refine ⟨hearlier 0 (Nat.succ_pos count), ?_, fun k hk => ?_⟩
    · rwa [position_succ]
    · rw [position_succ]
      exact hearlier (k + 1) (Nat.succ_lt_succ hk)
  · rintro ⟨hfirst, hunused, hearlier⟩
    rw [position_succ] at hunused
    refine ⟨hunused, fun k hk => ?_⟩
    cases k with
    | zero => exact hfirst
    | succ k =>
      rw [← position_succ]
      exact hearlier k (Nat.lt_of_succ_lt_succ hk)

theorem IsFirstUnused.redraws {count : Nat} (h : IsFirstUnused digits used position count) :
    Redraws digits used position (drawnAt digits (position + 9 * count))
      (position + 9 * (count + 1)) := by
  induction count generalizing position with
  | zero => exact .stop h.unused
  | succ count ih =>
    obtain ⟨hfirst, hrest⟩ := isFirstUnused_succ_iff.mp h
    have hreturns := ih hrest
    rw [position_succ, position_succ] at hreturns
    exact .again hfirst hreturns

/-- A call returns just if there is an unused block, and then that of the first one. -/
theorem redraws_iff {id : Text} {after : Nat} : Redraws digits used position id after ↔
    ∃ count, IsFirstUnused digits used position count ∧
      id = drawnAt digits (position + 9 * count) ∧ after = position + 9 * (count + 1) := by
  constructor
  · intro h
    induction h with
    | stop h => exact ⟨0, ⟨h, fun k hk => absurd hk (Nat.not_lt_zero k)⟩, rfl, rfl⟩
    | @again position id after h _ ih =>
      obtain ⟨count, hcount, hid, hafter⟩ := ih
      rw [position_succ] at hid hafter
      exact ⟨count + 1, isFirstUnused_succ_iff.mpr ⟨h, hcount⟩, hid, hafter⟩
  · rintro ⟨count, hcount, rfl, rfl⟩
    exact hcount.redraws

theorem exists_isFirstUnused_le {bound : Nat}
    (h : ∃ k ≤ bound, drawnAt digits (position + 9 * k) ∉ used) :
    ∃ count ≤ bound, IsFirstUnused digits used position count := by
  obtain ⟨hle, hunused⟩ := Nat.find_spec h
  refine ⟨Nat.find h, hle, hunused, fun k hk => ?_⟩
  by_contra hk'
  exact Nat.find_min h hk ⟨hk.le.trans hle, hk'⟩

end

/-! The digits of a registry. -/

theorem drawnAt_get (s : DigitStream) (k : Nat) :
    drawnAt s.get (9 * k) = ofDigits (s.blockAt k) := rfl

/-- After a number of digits, the blocks are those of the stream that is left. -/
theorem drawnAt_drawMany (s : DigitStream) (position k : Nat) :
    drawnAt s.get (position + 9 * k) = ofDigits ((s.drawMany position).2.blockAt k) := by
  unfold drawnAt DigitStream.blockAt
  congr 2
  funext i
  rw [DigitStream.get_drawMany]
  congr 1
  omega

/-- Behind the given digits, `36 ^ 9` blocks in a row hold every identifier. -/
theorem exists_blockAt_eq (s : DigitStream) (count : Nat) : ∃ k < 36 ^ 9,
    ofDigits (s.blockAt (s.pending.length / 9 + 1 + k)) = ofDigits (s.blockAt count) := by
  let first := s.pending.length / 9 + 1
  let blocks := (List.range (36 ^ 9)).map fun k => ofDigits (s.blockAt (first + k))
  have hnodup : blocks.Nodup := nodup_blocks s (by omega) le_rfl
  by_contra hnone
  have hnew : ofDigits (s.blockAt count) ∉ blocks := by
    intro hmem
    obtain ⟨k, hk, heq⟩ := List.mem_map.mp hmem
    exact hnone ⟨k, List.mem_range.mp hk, heq⟩
  have hwell : ∀ id ∈ ofDigits (s.blockAt count) :: blocks, IsWellFormed id := by
    intro id hid
    rw [isWellFormed_iff]
    rcases List.mem_cons.mp hid with rfl | hid
    · exact ⟨_, s.length_blockAt count, rfl⟩
    · obtain ⟨k, -, rfl⟩ := List.mem_map.mp hid
      exact ⟨_, s.length_blockAt _, rfl⟩
  have hlength := length_le_of_isWellFormed (List.nodup_cons.mpr ⟨hnew, hnodup⟩) hwell
  rw [List.length_cons, List.length_map, List.length_range] at hlength
  exact Nat.not_succ_le_self _ hlength

section

variable {used : List Text} {s : DigitStream} {count : Nat}

/-- The first unused block is always among the tries: one that came later would be used by then. -/
theorem lt_tries (h : IsFirstUnused s.get used 0 count) : count < tries used s := by
  by_contra hle
  unfold tries at hle
  have hused : ∀ k < count, ofDigits (s.blockAt k) ∈ used := by
    intro k hk
    have hmem := h.earlier k hk
    rwa [Nat.zero_add, drawnAt_get] at hmem
  have hunused : ofDigits (s.blockAt count) ∉ used := by
    have hnotMem := h.unused
    rwa [Nat.zero_add, drawnAt_get] at hnotMem
  have hcard := used.toFinset_card_le
  by_cases hleft : used.toFinset.card < 36 ^ 9
  · obtain ⟨k, hk, hfree⟩ := exists_unused_le hleft s
    exact hfree (hused k (by omega))
  · obtain ⟨k, hk, heq⟩ := exists_blockAt_eq s count
    rw [← heq] at hunused
    exact hunused (hused _ (by omega))

/-- With enough tries, the first unused block is drawn, and no digit behind it. -/
theorem fresh_of_isFirstUnused {tries : Nat} (h : IsFirstUnused s.get used 0 count)
    (htries : count < tries) : ∃ later, fresh used tries s = (drawnAt s.get (9 * count), later) ∧
      ∀ i, later.get i = s.get (9 * (count + 1) + i) := by
  have hlater (s : DigitStream) (i : Nat) : s.block.2.get i = s.get (9 + i) := by
    rw [Nat.add_comm]
    exact s.get_drawMany 9 i
  have hblock (s : DigitStream) : ofDigits s.block.1 = drawnAt s.get 0 := by
    rw [DigitStream.block_fst]
    rfl
  induction tries generalizing s count with
  | zero => exact absurd htries (Nat.not_lt_zero _)
  | succ tries ih =>
    have hfresh : fresh used (tries + 1) s =
        if used.contains (drawnAt s.get 0) then fresh used tries s.block.2
        else (drawnAt s.get 0, s.block.2) := by
      rw [← hblock]
      rfl
    rw [hfresh]
    cases count with
    | zero =>
      rw [if_neg fun hmem => h.unused (List.contains_iff_mem.mp hmem)]
      exact ⟨s.block.2, rfl, hlater s⟩
    | succ count =>
      obtain ⟨hfirst, hrest⟩ := isFirstUnused_succ_iff.mp h
      have hshift (position : Nat) :
          drawnAt s.block.2.get position = drawnAt s.get (9 + position) := by
        unfold drawnAt
        simp only [hlater, Nat.add_assoc]
      have hblocks : IsFirstUnused s.block.2.get used 0 count := by
        constructor
        · rw [hshift, ← Nat.add_assoc]
          exact hrest.unused
        · intro k hk
          rw [hshift, ← Nat.add_assoc]
          exact hrest.earlier k hk
      obtain ⟨later, hdrawn, hget⟩ := ih hblocks (Nat.lt_of_succ_lt_succ htries)
      have hposition : 9 + 9 * count = 9 * (count + 1) := by omega
      refine ⟨later, ?_, fun i => ?_⟩
      · rw [if_pos (List.contains_iff_mem.mpr hfirst), hdrawn, hshift, hposition]
      · rw [hget, hlater]
        congr 1
        omega

end

/-- How a call ends if the digits of `draws` are drawn first and then the nine digits each of 0, 1,
2 and so on: the blocks that are in vain are no more than `bound`, until the numbers have wrapped. -/
structure EndsWithin (draws : List Digit) (used : List Text) (position bound : Nat) : Prop where
  inVain : ∀ count,
    (∀ k < count, drawnAt (DigitStream.get ⟨draws, 0⟩) (position + 9 * k) ∈ used) →
    position + 9 * count ≤ draws.length + 9 * 36 ^ 9 → count ≤ bound
  returns : position + 9 * (bound + 1) ≤ draws.length + 9 * 36 ^ 9 ∨ used.toFinset.card < 36 ^ 9 →
    ∃ count ≤ bound, Redraws (DigitStream.get ⟨draws, 0⟩) used position
      (drawnAt (DigitStream.get ⟨draws, 0⟩) (position + 9 * count)) (position + 9 * (count + 1))

theorem endsWithin (draws : List Digit) (used : List Text) (position : Nat) :
    EndsWithin draws used position (draws.length / 9 + 1 + used.toFinset.card) := by
  have hfirst (hleft : used.toFinset.card < 36 ^ 9) :
      ∃ count ≤ draws.length / 9 + 1 + used.toFinset.card,
        IsFirstUnused (DigitStream.get ⟨draws, 0⟩) used position count := by
    apply exists_isFirstUnused_le
    obtain ⟨k, hk, hunused⟩ := exists_unused_le hleft ((DigitStream.mk draws 0).drawMany position).2
    have hpending := (DigitStream.mk draws 0).length_pending_drawMany position
    refine ⟨k, ?_, ?_⟩
    · dsimp only at hpending
      omega
    · rwa [drawnAt_drawMany]
  constructor
  · intro count hused hbefore
    by_cases hleft : used.toFinset.card < 36 ^ 9
    · obtain ⟨k, hk, hunused, -⟩ := hfirst hleft
      by_contra hlt
      exact hunused (hused k (by omega))
    · omega
  · intro hends
    have hleft : used.toFinset.card < 36 ^ 9 := by omega
    obtain ⟨count, hle, hcount⟩ := hfirst hleft
    exact ⟨count, hle, hcount.redraws⟩

end Identifier

namespace Registry

open Identifier

/-- A call that returned: it gives the identifier of the first unused block from the position on. So
does every registry that has the same digits to draw; it notes this identifier, draws no digit
behind the block, and is otherwise as it was. -/
structure Returned (digits : Nat → Digit) (used : List Text) (position : Nat) (id : Text)
    (after : Nat) : Prop where
  first : ∃ count, IsFirstUnused digits used position count ∧
    id = drawnAt digits (position + 9 * count) ∧ after = position + 9 * (count + 1)
  registry : ∀ r : Registry, r.used = used →
    (∀ i < after - position, r.digits.get i = digits (position + i)) →
    ∃ later, r.newId = (id, { r with used := id :: used, digits := later }) ∧
      ∀ i, later.get i = r.digits.get (after - position + i)

theorem returned_of_redraws {digits : Nat → Digit} {used : List Text} {position : Nat} {id : Text}
    {after : Nat} (h : Redraws digits used position id after) :
    Returned digits used position id after := by
  obtain ⟨count, hcount, hid, hafter⟩ := redraws_iff.mp h
  refine ⟨⟨count, hcount, hid, hafter⟩, ?_⟩
  rintro r rfl hdigits
  have hlength : after - position = 9 * (count + 1) := by omega
  have hblock (k : Nat) (hk : k ≤ count) :
      drawnAt r.digits.get (9 * k) = drawnAt digits (position + 9 * k) := by
    unfold drawnAt
    congr 1
    refine List.map_congr_left fun i hi => ?_
    rw [List.mem_range] at hi
    rw [hdigits _ (by omega), Nat.add_assoc]
  have hfirst : IsFirstUnused r.digits.get r.used 0 count := by
    constructor
    · rw [Nat.zero_add, hblock count le_rfl]
      exact hcount.unused
    · intro k hk
      rw [Nat.zero_add, hblock k hk.le]
      exact hcount.earlier k hk
  obtain ⟨later, hfresh, hlater⟩ := fresh_of_isFirstUnused hfirst (lt_tries hfirst)
  refine ⟨later, ?_, ?_⟩
  · unfold newId
    rw [hfresh, hblock count le_rfl, ← hid]
  · rw [hlength]
    exact hlater

/-- Whatever the stream of digits and the used identifiers, a call that returns gives the first
unused block and takes only its identifier. And if the stream counts up behind given digits, a call
from any position rejects few blocks until the numbers have wrapped, and returns if it needs no more
digits or if any identifier is left. -/
theorem newId_redraws (digits : Nat → Digit) (draws : List Digit) (used : List Text)
    (position : Nat) :
    (∀ id after, Redraws digits used position id after →
      Returned digits used position id after) ∧
    EndsWithin draws used position (draws.length / 9 + 1 + used.toFinset.card) :=
  ⟨fun _ _ h => returned_of_redraws h, endsWithin draws used position⟩

/-- Behind two given digits the blocks lie across the numbers. Two of them give the identifier that
is used, as many as can be in vain. -/
theorem newId_redraws_across :
    Redraws (DigitStream.get ⟨[0, 0], 0⟩) ["id_000000000"] 0 "id_010000000" 27 ∧
    Returned (DigitStream.get ⟨[0, 0], 0⟩) ["id_000000000"] 0 "id_010000000" 27 ∧
    EndsWithin [0, 0] ["id_000000000"] 0 2 := by
  have hredraws : Redraws (DigitStream.get ⟨[0, 0], 0⟩) ["id_000000000"] 0 "id_010000000" 27 :=
    .again (by decide) (.again (by decide) (.stop (by decide)))
  obtain ⟨hreturned, hends⟩ :=
    newId_redraws (DigitStream.get ⟨[0, 0], 0⟩) [0, 0] ["id_000000000"] 0
  exact ⟨hredraws, hreturned _ _ hredraws, hends⟩

end Registry
end CodeGraph
