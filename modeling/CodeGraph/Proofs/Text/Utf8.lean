import CodeGraph.Text.Utf8
import Mathlib.Data.List.Basic

/-! A text comes back from its bytes. -/
namespace CodeGraph.Utf8

theorem follow_cons {low high : Nat} {b : UInt8} (hlow : low ≤ b.toNat) (hhigh : b.toNat ≤ high)
    (missing code size : Nat) (r : Bytes) :
    follow (missing + 1) low high code size (b :: r) =
      follow missing 0x80 0xBF (code * 64 + (b.toNat - 0x80)) (size + 1) r := by
  rw [follow, if_pos ⟨hlow, hhigh⟩]

theorem lead?_two {b : Nat} (h : 0xC2 ≤ b) (h' : b < 0xE0) :
    lead? b = some (1, 0x80, 0xBF, b - 0xC0) := by
  rw [lead?, if_neg (by omega), if_pos h']

/-- Behind 0xE0 long forms are excluded, behind 0xED the surrogates. -/
theorem lead?_three {b : Nat} (h : 0xE0 ≤ b) (h' : b < 0xF0) :
    lead? b =
      some (2, if b = 0xE0 then 0xA0 else 0x80, if b = 0xED then 0x9F else 0xBF, b - 0xE0) := by
  rw [lead?, if_neg (by omega), if_neg (by omega)]
  split_ifs <;> first | omega | simp_all

/-- Behind 0xF0 long forms are excluded, behind 0xF4 what lies above the last code point. -/
theorem lead?_four {b : Nat} (h : 0xF0 ≤ b) (h' : b < 0xF5) :
    lead? b =
      some (3, if b = 0xF0 then 0x90 else 0x80, if b = 0xF4 then 0x8F else 0xBF, b - 0xF0) := by
  rw [lead?, if_neg (by omega), if_neg (by omega), if_neg (by omega), if_neg (by omega),
    if_neg (by omega)]
  split_ifs <;> first | omega | simp_all

theorem first_of_lead {b : UInt8} {missing low high code : Nat}
    (h : lead? b.toNat = some (missing, low, high, code)) (r : Bytes) :
    first b r = follow missing low high code 1 r := by
  have hb : ¬b.toNat < 0x80 := by
    intro hlt
    rw [lead?, if_pos (by omega)] at h
    cases h
  rw [first, if_neg hb, h]

theorem toNat_tail (n : Nat) : (UInt8.ofNat (n % 64 + 128)).toNat = n % 64 + 128 :=
  UInt8.toNat_ofNat_of_lt' (show _ < 256 by omega)

theorem first_two {n : Nat} (h : 0x80 ≤ n) (h' : n < 0x800) (r : Bytes) :
    first (.ofNat (n / 64 % 32 + 192)) (.ofNat (n % 64 + 128) :: r) = ⟨.ok (Char.ofNat n), 2⟩ := by
  have hlead : (UInt8.ofNat (n / 64 % 32 + 192)).toNat = n / 64 % 32 + 192 :=
    UInt8.toNat_ofNat_of_lt' (show _ < 256 by omega)
  have htail := toNat_tail n
  have hcode : (n / 64 % 32 + 192 - 0xC0) * 64 + (n % 64 + 128 - 0x80) = n := by omega
  rw [first_of_lead (lead?_two (by omega) (by omega)), follow_cons (by omega) (by omega), follow,
    hlead, htail, hcode]

theorem first_three {n : Nat} (h : 0x800 ≤ n) (h' : n < 0x10000)
    (hvalid : n < 0xD800 ∨ 0xDFFF < n) (r : Bytes) :
    first (.ofNat (n / 4096 % 16 + 224))
        (.ofNat (n / 64 % 64 + 128) :: .ofNat (n % 64 + 128) :: r) =
      ⟨.ok (Char.ofNat n), 3⟩ := by
  have hlead : (UInt8.ofNat (n / 4096 % 16 + 224)).toNat = n / 4096 % 16 + 224 :=
    UInt8.toNat_ofNat_of_lt' (show _ < 256 by omega)
  have htail₁ := toNat_tail (n / 64)
  have htail₂ := toNat_tail n
  have hcode : ((n / 4096 % 16 + 224 - 0xE0) * 64 + (n / 64 % 64 + 128 - 0x80)) * 64 +
      (n % 64 + 128 - 0x80) = n := by omega
  rw [first_of_lead (lead?_three (by omega) (by omega)),
    follow_cons (by split_ifs <;> omega) (by split_ifs <;> omega),
    follow_cons (by omega) (by omega), follow, hlead, htail₁, htail₂, hcode]

theorem first_four {n : Nat} (h : 0x10000 ≤ n) (h' : n < 0x110000) (r : Bytes) :
    first (.ofNat (n / 262144 % 8 + 240))
        (.ofNat (n / 4096 % 64 + 128) :: .ofNat (n / 64 % 64 + 128) :: .ofNat (n % 64 + 128) :: r) =
      ⟨.ok (Char.ofNat n), 4⟩ := by
  have hlead : (UInt8.ofNat (n / 262144 % 8 + 240)).toNat = n / 262144 % 8 + 240 :=
    UInt8.toNat_ofNat_of_lt' (show _ < 256 by omega)
  have htail₁ := toNat_tail (n / 4096)
  have htail₂ := toNat_tail (n / 64)
  have htail₃ := toNat_tail n
  have hcode : (((n / 262144 % 8 + 240 - 0xF0) * 64 + (n / 4096 % 64 + 128 - 0x80)) * 64 +
      (n / 64 % 64 + 128 - 0x80)) * 64 + (n % 64 + 128 - 0x80) = n := by omega
  rw [first_of_lead (lead?_four (by omega) (by omega)),
    follow_cons (by split_ifs <;> omega) (by split_ifs <;> omega),
    follow_cons (by omega) (by omega), follow_cons (by omega) (by omega), follow, hlead, htail₁,
    htail₂, htail₃, hcode]

theorem first_encodeChar {c : Char} {b : UInt8} {bs : Bytes}
    (h : String.utf8EncodeChar c = b :: bs) (r : Bytes) :
    first b (bs ++ r) = ⟨.ok c, bs.length + 1⟩ := by
  have hvalid : c.toNat < 0xD800 ∨ 0xDFFF < c.toNat ∧ c.toNat < 0x110000 := c.valid
  have hc : Char.ofNat c.toNat = c := Char.ofNat_toNat c
  rw [String.utf8EncodeChar] at h
  simp only [Char.toNat_val] at h
  split_ifs at h with h₁ h₂ h₃ <;> obtain ⟨rfl, rfl⟩ := List.cons.inj h
  · have hb : (UInt8.ofNat c.toNat).toNat = c.toNat :=
      UInt8.toNat_ofNat_of_lt' (show _ < 256 by omega)
    rw [first, hb, if_pos (by omega), hc]
    rfl
  · have hfirst := first_two (n := c.toNat) (by omega) (by omega) r
    rwa [hc] at hfirst
  · have hfirst := first_three (n := c.toNat) (by omega) (by omega) (by omega) r
    rwa [hc] at hfirst
  · have hfirst := first_four (n := c.toNat) (by omega) (by omega) r
    rwa [hc] at hfirst

theorem pieces_skip (bs r : Bytes) : pieces bs.length (bs ++ r) = pieces 0 r := by
  induction bs with
  | nil => rfl
  | cons b bs ih => exact ih

theorem pieces_encode (t : Text) :
    pieces 0 (encode t) = t.map fun c => ⟨.ok c, (String.utf8EncodeChar c).length⟩ := by
  induction t with
  | nil => rfl
  | cons c t ih =>
    obtain ⟨b, bs, hbs⟩ := List.exists_cons_of_ne_nil String.utf8EncodeChar_ne_nil
    rw [List.map_cons, ← ih, hbs, List.length_cons, ← first_encodeChar hbs (encode t)]
    have hencode : encode (c :: t) = b :: (bs ++ encode t) := by
      rw [encode, List.flatMap_cons, hbs]
      rfl
    rw [hencode, pieces, first_encodeChar hbs]
    exact congrArg _ (pieces_skip bs _)

theorem collect_of_ok (bs : Bytes) (offset : Nat) (size : Char → Nat) (t : Text) :
    collect bs offset (t.map fun c => ⟨.ok c, size c⟩) = .ok t := by
  induction t generalizing offset with
  | nil => rfl
  | cons c t ih => rw [List.map_cons, collect, ih]; rfl

theorem decode_encode (t : Text) : decode (encode t) = .ok t := by
  rw [decode, pieces_encode, collect_of_ok]

end CodeGraph.Utf8
