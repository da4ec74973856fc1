import CodeGraph.Proofs.Registry.Growth
import Mathlib.Data.Fintype.BigOperators
import Mathlib.Data.Nat.ModEq

/-! Which identifier a registry draws: that of the first block of nine digits that is not used yet.
The blocks behind the pending digits differ from one another, also where they straddle two numbers,
so the search finds one while any identifier is left. -/
namespace CodeGraph

namespace Digit

private theorem radix_pos (count : Nat) : 0 < 36 ^ count :=
  Nat.pow_pos (by decide)

/-- Two numbers agree in their last digits just if they leave the same remainder. -/
theorem ofPlace_eq_iff (m n count : Nat) :
    (∀ place < count, ofPlace m place = ofPlace n place) ↔ m % 36 ^ count = n % 36 ^ count := by
  induction count with
  | zero => simp [Nat.mod_one]
  | succ count ih =>
    have hdigit : ofPlace m count = ofPlace n count ↔
        m / 36 ^ count % 36 = n / 36 ^ count % 36 := Fin.ext_iff
    rw [Nat.forall_lt_succ_right, ih, hdigit, Nat.mod_pow_succ, Nat.mod_pow_succ]
    constructor
    · rintro ⟨hlow, hhigh⟩
      rw [hlow, hhigh]
    · intro h
      have hlow := congrArg (· % 36 ^ count) h
      have hhigh := congrArg (· / 36 ^ count) h
      simp only [Nat.add_mul_mod_self_left, Nat.mod_mod] at hlow
      simp only [Nat.add_mul_div_left _ _ (radix_pos count),
        Nat.div_eq_of_lt (Nat.mod_lt _ (radix_pos count)), Nat.zero_add] at hhigh
      exact ⟨hlow, hhigh⟩

theorem toChar_injective : Function.Injective toChar := by
  decide +kernel

/-- The digits and the small letters. -/
def alphabet : Text :=
  "0123456789abcdefghijklmnopqrstuvwxyz"

theorem alphabet_eq : alphabet = (List.finRange 36).map toChar := by
  decide

theorem mem_alphabet_iff (c : Char) : c ∈ alphabet ↔ ∃ d : Digit, d.toChar = c := by
  simp [alphabet_eq]

end Digit

namespace DigitStream

/-- The digit that is drawn after `i` others. -/
def get (s : DigitStream) (i : Nat) : Digit :=
  s.pending[i]?.getD
    (.ofPlace (s.next + (i - s.pending.length) / 9) (8 - (i - s.pending.length) % 9))

/-- The nine digits that are drawn after `k` times nine others. -/
def blockAt (s : DigitStream) (k : Nat) : List Digit :=
  (List.range 9).map fun i => s.get (9 * k + i)

variable (s : DigitStream)

theorem draw_fst : s.draw.1 = s.get 0 := by
  obtain ⟨_ | ⟨d, ds⟩, n⟩ := s <;> simp [draw, get]

theorem get_draw (i : Nat) : s.draw.2.get i = s.get (i + 1) := by
  obtain ⟨_ | ⟨d, ds⟩, n⟩ := s
  · by_cases hi : i < 8
    · have hdigits : ∀ i < 8, ([7, 6, 5, 4, 3, 2, 1, 0] : List Nat)[i]? = some (7 - i) := by decide
      have hdiv : (i + 1) / 9 = 0 := by omega
      have hmod : 8 - (i + 1) % 9 = 7 - i := by omega
      simp only [draw, get, List.getElem?_map, hdigits i hi]
      simp [hdiv, hmod]
    · have hdiv : n + 1 + (i - 8) / 9 = n + (i + 1) / 9 := by omega
      have hmod : (i - 8) % 9 = (i + 1) % 9 := by omega
      have hend : ([7, 6, 5, 4, 3, 2, 1, 0] : List Nat)[i]? = none := by simpa using hi
      simp only [draw, get, List.getElem?_map, hend]
      simp [hdiv, hmod]
  · simp [draw, get]

theorem drawMany_fst (k : Nat) : (s.drawMany k).1 = (List.range k).map s.get := by
  induction k generalizing s with
  | zero => rfl
  | succ k ih =>
    change s.draw.1 :: (s.draw.2.drawMany k).1 = _
    rw [ih, draw_fst, List.range_succ_eq_map, List.map_cons, List.map_map]
    congr 2
    funext i
    exact s.get_draw i

theorem get_drawMany (k i : Nat) : (s.drawMany k).2.get i = s.get (i + k) := by
  induction k generalizing s with
  | zero => rfl
  | succ k ih =>
    change (s.draw.2.drawMany k).2.get i = _
    rw [ih, get_draw, Nat.add_assoc]

theorem block_fst : s.block.1 = s.blockAt 0 := by
  rw [block, drawMany_fst, blockAt]
  simp

theorem blockAt_block (k : Nat) : s.block.2.blockAt k = s.blockAt (k + 1) := by
  unfold blockAt block
  apply List.map_congr_left
  intro i _
  rw [get_drawMany]
  congr 1
  omega

theorem length_blockAt (k : Nat) : (s.blockAt k).length = 9 := by
  simp [blockAt]

/-- Behind the pending digits, the digit at place `place` of a number. -/
theorem get_eq_ofPlace {i : Nat} (number place : Nat) (hplace : place < 9)
    (hi : i = s.pending.length + 9 * number + (8 - place)) :
    s.get i = .ofPlace (s.next + number) place := by
  have hpending : s.pending[i]? = none := by
    rw [List.getElem?_eq_none_iff]
    omega
  have hdiv : (i - s.pending.length) / 9 = number := by omega
  have hmod : 8 - (i - s.pending.length) % 9 = place := by omega
  rw [get, hpending, hdiv, hmod, Option.getD_none]

/-- Equal blocks behind the pending digits begin in numbers that leave the same remainder. -/
theorem mod_eq_of_blockAt_eq {j k : Nat} (m n behind : Nat) (hbehind : behind < 9)
    (hj : 9 * j = s.pending.length + 9 * m + behind)
    (hk : 9 * k = s.pending.length + 9 * n + behind)
    (h : s.blockAt j = s.blockAt k) : (s.next + m + 1) % 36 ^ 9 = (s.next + n + 1) % 36 ^ 9 := by
  have hdigit : ∀ i < 9, s.get (9 * j + i) = s.get (9 * k + i) := by
    intro i hi
    exact List.map_inj_left.mp h i (List.mem_range.mpr hi)
  -- A block holds the last digits of one number, then the first digits of the number behind it.
  have hlow : ∀ place < 9 - behind,
      Digit.ofPlace (s.next + m) place = .ofPlace (s.next + n) place := by
    intro place hplace
    have hi := hdigit (8 - behind - place) (by omega)
    rwa [s.get_eq_ofPlace m place (by omega) (by omega),
      s.get_eq_ofPlace n place (by omega) (by omega)] at hi
  have hhigh : ∀ place < 9, 9 - behind ≤ place →
      Digit.ofPlace (s.next + m + 1) place = .ofPlace (s.next + n + 1) place := by
    intro place hplace hle
    have hi := hdigit (17 - behind - place) (by omega)
    rwa [s.get_eq_ofPlace (m + 1) place (by omega) (by omega),
      s.get_eq_ofPlace (n + 1) place (by omega) (by omega)] at hi
  have hnext : (s.next + m + 1) % 36 ^ (9 - behind) = (s.next + n + 1) % 36 ^ (9 - behind) :=
    Nat.ModEq.add_right 1 ((Digit.ofPlace_eq_iff _ _ _).mp hlow)
  rw [← Digit.ofPlace_eq_iff] at hnext ⊢
  intro place hplace
  by_cases hle : 9 - behind ≤ place
  · exact hhigh place hplace hle
  · exact hnext place (by omega)

/-- Blocks behind the pending digits differ while fewer than `36 ^ 9` numbers lie between them. -/
theorem blockAt_ne {j k : Nat} (hj : s.pending.length ≤ 9 * j) (hjk : j < k)
    (hk : k - j < 36 ^ 9) : s.blockAt j ≠ s.blockAt k := by
  intro h
  let m := (9 * j - s.pending.length) / 9
  have hmod := s.mod_eq_of_blockAt_eq m (m + (k - j)) ((9 * j - s.pending.length) % 9)
    (by omega) (by omega) (by omega) h
  have hdvd : 36 ^ 9 ∣ k - j := by
    have hsub : s.next + (m + (k - j)) + 1 - (s.next + m + 1) = k - j := by omega
    exact hsub ▸ (Nat.modEq_iff_dvd' (by omega)).mp hmod
  exact absurd (Nat.le_of_dvd (by omega) hdvd) (by omega)

end DigitStream

namespace Identifier

theorem ofDigits_injective : Function.Injective ofDigits := by
  intro ds es h
  exact Digit.toChar_injective.list_map (List.append_cancel_left h)

/-- `id_` and nine characters of the alphabet. -/
def IsWellFormed (id : Text) : Prop :=
  ∃ tail : Text, id = "id_" ++ tail ∧ tail.length = 9 ∧ ∀ c ∈ tail, c ∈ Digit.alphabet

theorem isWellFormed_iff (id : Text) :
    IsWellFormed id ↔ ∃ ds : List Digit, ds.length = 9 ∧ ofDigits ds = id := by
  constructor
  · rintro ⟨tail, rfl, hlength, htail⟩
    have hdigits : tail ∈ Set.range (List.map Digit.toChar) := by
      rw [Set.range_list_map]
      intro c hc
      exact (Digit.mem_alphabet_iff c).mp (htail c hc)
    obtain ⟨ds, rfl⟩ := hdigits
    exact ⟨ds, by simpa using hlength, rfl⟩
  · rintro ⟨ds, hlength, rfl⟩
    refine ⟨ds.map Digit.toChar, rfl, by simpa using hlength, ?_⟩
    intro c hc
    obtain ⟨d, -, rfl⟩ := List.mem_map.mp hc
    exact (Digit.mem_alphabet_iff _).mpr ⟨d, rfl⟩

/-- There are `36 ^ 9` identifiers. -/
theorem length_le_of_isWellFormed {used : List Text} (hnodup : used.Nodup)
    (h : ∀ id ∈ used, IsWellFormed id) : used.length ≤ 36 ^ 9 := by
  have hvectors : used ∈ Set.range (List.map fun v : List.Vector Digit 9 => ofDigits v.toList) := by
    rw [Set.range_list_map]
    intro id hid
    obtain ⟨ds, hlength, hds⟩ := (isWellFormed_iff id).mp (h id hid)
    exact ⟨⟨ds, hlength⟩, hds⟩
  obtain ⟨vectors, rfl⟩ := hvectors
  have hcard := (List.Nodup.of_map _ hnodup).length_le_card
  rwa [card_vector, Fintype.card_fin, ← List.length_map] at hcard

/-- The identifier that is drawn is that of the first block of an unused one. -/
theorem fresh_fst (used : List Text) (tries : Nat) (s : DigitStream) :
    (fresh used tries s).1 =
      (((List.range tries).map fun k => ofDigits (s.blockAt k)).find? fun id =>
        !used.contains id).getD (beyond used) := by
  induction tries generalizing s with
  | zero => rfl
  | succ tries ih =>
    have hrest : (List.range tries).map (fun k => ofDigits (s.block.2.blockAt k)) =
        (List.range tries).map ((fun k => ofDigits (s.blockAt k)) ∘ Nat.succ) := by
      simp only [DigitStream.blockAt_block]
      rfl
    rw [List.range_succ_eq_map, List.map_cons, List.map_map, ← hrest, List.find?_cons,
      ← DigitStream.block_fst]
    simp only [fresh]
    cases h : used.contains (ofDigits s.block.1) with
    | true => exact ih s.block.2
    | false => rfl

/-- Blocks behind the pending digits give different identifiers, up to `36 ^ 9` of them. -/
theorem nodup_blocks (s : DigitStream) {first count : Nat} (hfirst : s.pending.length ≤ 9 * first)
    (hcount : count ≤ 36 ^ 9) :
    ((List.range count).map fun k => ofDigits (s.blockAt (first + k))).Nodup := by
  refine List.Nodup.map_on ?_ List.nodup_range
  intro j hj k hk heq
  rw [List.mem_range] at hj hk
  have hblocks := ofDigits_injective heq
  rcases Nat.lt_trichotomy j k with hlt | heq | hgt
  · exact absurd hblocks (s.blockAt_ne (by omega) (by omega) (by omega))
  · exact heq
  · exact absurd hblocks.symm (s.blockAt_ne (by omega) (by omega) (by omega))

/-- So only so many of them in a row are used as there are used identifiers. -/
theorem count_le_of_used {used : List Text} {s : DigitStream} {first count : Nat}
    (hfirst : s.pending.length ≤ 9 * first) (hcount : count ≤ 36 ^ 9)
    (h : ∀ k < count, ofDigits (s.blockAt (first + k)) ∈ used) : count ≤ used.toFinset.card := by
  let blocks := (List.range count).map fun k => ofDigits (s.blockAt (first + k))
  have hsub : blocks.toFinset ⊆ used.toFinset := by
    intro id hid
    obtain ⟨k, hk, rfl⟩ := List.mem_map.mp (List.mem_toFinset.mp hid)
    exact List.mem_toFinset.mpr (h k (List.mem_range.mp hk))
  have hcard := Finset.card_le_card hsub
  rwa [List.toFinset_card_of_nodup (nodup_blocks s hfirst hcount), List.length_map,
    List.length_range] at hcard

/-- While an identifier is left, an unused one is among the first blocks. -/
theorem exists_unused_le {used : List Text} (h : used.toFinset.card < 36 ^ 9) (s : DigitStream) :
    ∃ k ≤ s.pending.length / 9 + 1 + used.toFinset.card, ofDigits (s.blockAt k) ∉ used := by
  by_contra hall
  push Not at hall
  have hcount : used.toFinset.card + 1 ≤ used.toFinset.card :=
    count_le_of_used (by omega) h fun k hk => hall (s.pending.length / 9 + 1 + k) (by omega)
  exact Nat.not_succ_le_self _ hcount

/-- While an identifier is left, one of the tries finds one. -/
theorem exists_unused {used : List Text} (h : used.length < 36 ^ 9) (s : DigitStream) :
    ∃ k < tries used s, ofDigits (s.blockAt k) ∉ used := by
  have hcard := used.toFinset_card_le
  obtain ⟨k, hk, hunused⟩ := exists_unused_le (hcard.trans_lt h) s
  exact ⟨k, by unfold tries; omega, hunused⟩

theorem isWellFormed_fresh {used : List Text} (h : used.length < 36 ^ 9) (s : DigitStream) :
    IsWellFormed (fresh used (tries used s) s).1 := by
  obtain ⟨k, hk, hunused⟩ := exists_unused h s
  have hsome : (((List.range (tries used s)).map fun k => ofDigits (s.blockAt k)).find? fun id =>
      !used.contains id).isSome := by
    rw [List.find?_isSome]
    exact ⟨_, List.mem_map_of_mem (List.mem_range.mpr hk), by simpa using hunused⟩
  obtain ⟨id, hid⟩ := Option.isSome_iff_exists.mp hsome
  obtain ⟨j, -, rfl⟩ := List.mem_map.mp (List.mem_of_find?_eq_some hid)
  rw [fresh_fst, hid, Option.getD_some, isWellFormed_iff]
  exact ⟨s.blockAt j, s.length_blockAt j, rfl⟩

end Identifier
end CodeGraph
