import CodeGraph.Json.Reader
import CodeGraph.Json.Writer
import CodeGraph.Proofs.Faults

/-! Strings come back from JSON text, whatever their characters. -/
namespace CodeGraph

/-! Four hexadecimal digits. -/

theorem Text.hex_succ (width n : Nat) :
    hex (width + 2) n = hex (width + 1) (n / 16) ++ [(n % 16).digitChar] := by
  unfold hex
  by_cases h : n < 16
  · have hzero : n / 16 = 0 := Nat.div_eq_of_lt h
    rw [Nat.toDigits_of_lt_base h, hzero, Nat.mod_eq_of_lt h]
    simp [List.replicate_succ']
  · rw [Nat.toDigits_of_base_le (by decide) (Nat.le_of_not_lt h)]
    simp

theorem Text.hex_one {n : Nat} (h : n < 16) : hex 1 n = [n.digitChar] := by
  unfold hex
  rw [Nat.toDigits_of_lt_base h]
  rfl

namespace Json

theorem hexDigit?_digitChar {n : Nat} (h : n < 16) : hexDigit? n.digitChar = some n := by
  revert n
  decide

/-- The digits of a code unit are read as that unit. -/
theorem exists_hex_four {n : Nat} (h : n < 0x10000) :
    ∃ a b c d, Text.hex 4 n = [a, b, c, d] ∧ hexUnit? a b c d = some n := by
  refine ⟨(n / 16 / 16 / 16).digitChar, (n / 16 / 16 % 16).digitChar, (n / 16 % 16).digitChar,
    (n % 16).digitChar, ?_, ?_⟩
  · rw [Text.hex_succ, Text.hex_succ, Text.hex_succ, Text.hex_one (by omega)]
    rfl
  · unfold hexUnit?
    rw [hexDigit?_digitChar (by omega), hexDigit?_digitChar (by omega),
      hexDigit?_digitChar (by omega), hexDigit?_digitChar (by omega)]
    change some _ = some n
    congr 1
    omega

variable {opening t rest r : Text}

theorem ne_nil_of_readString (h : readString opening rest = .ok (t, r)) : rest ≠ [] := by
  rintro rfl
  unfold readString at h
  cases h

theorem codeEscape_append {n : Nat} (hn : n < 0x10000) (rest : Text) :
    ∃ a b c d, codeEscape n ++ rest = '\\' :: 'u' :: a :: b :: c :: d :: rest ∧
      hexUnit? a b c d = some n := by
  obtain ⟨a, b, c, d, hdigits, hunit⟩ := exists_hex_four hn
  refine ⟨a, b, c, d, ?_, hunit⟩
  unfold codeEscape
  rw [hdigits]
  rfl

/-- The escape of a code unit that is no high surrogate. -/
theorem readString_codeEscape {n : Nat} (hn : n < 0x10000) (hhigh : isHighSurrogate n = false)
    (h : readString opening rest = .ok (t, r)) :
    readString opening (codeEscape n ++ rest) = .ok (unitChar n :: t, r) := by
  obtain ⟨a, b, c, d, hescape, hunit⟩ := codeEscape_append hn rest
  rw [hescape]
  -- The reader looks ahead for a second escape, which makes no difference here.
  by_cases hnext : ∃ e f g h' r', rest = '\\' :: 'u' :: e :: f :: g :: h' :: r'
  · obtain ⟨e, f, g, h', r', rfl⟩ := hnext
    rw [readString.eq_3, hunit]
    simp only [hhigh, Bool.false_and, Bool.false_eq_true, if_false]
    rw [h]
    rfl
  · obtain ⟨x, rest, rfl⟩ := List.exists_cons_of_ne_nil (ne_nil_of_readString h)
    rw [readString.eq_4, hunit]
    · simp only
      rw [h]
      rfl
    · rintro e f g h' r' rfl rfl
      exact hnext ⟨e, f, g, h', r', rfl⟩

/-- The escapes of a pair of surrogates. -/
theorem readString_pair {high low : Nat} (hhigh : isHighSurrogate high = true)
    (hlow : isLowSurrogate low = true) (h : readString opening rest = .ok (t, r)) :
    readString opening (codeEscape high ++ (codeEscape low ++ rest)) =
      .ok (pairChar high low :: t, r) := by
  have hhigh' : high < 0x10000 := by
    simp only [isHighSurrogate, Bool.and_eq_true, decide_eq_true_eq] at hhigh
    omega
  have hlow' : low < 0x10000 := by
    simp only [isLowSurrogate, Bool.and_eq_true, decide_eq_true_eq] at hlow
    omega
  obtain ⟨e, f, g, h', hescape', hunit'⟩ := codeEscape_append hlow' rest
  obtain ⟨a, b, c, d, hescape, hunit⟩ := codeEscape_append hhigh' (codeEscape low ++ rest)
  rw [hescape, hescape', readString.eq_3, hunit]
  have hrest : rest.isEmpty = false := by simpa using ne_nil_of_readString h
  simp only [hhigh, hrest, hunit', hlow, Bool.not_false, Bool.and_self, if_true]
  rw [h]
  rfl

theorem readString_shortEscape {c x : Char} (hc : c ≠ 'u') (hx : shortEscape? c = some x)
    (h : readString opening rest = .ok (t, r)) :
    readString opening ('\\' :: c :: rest) = .ok (x :: t, r) := by
  rw [readString.eq_7, hx]
  · simp only
    rw [h]
    rfl
  · exact fun _ _ _ _ _ _ _ _ _ hu _ => hc hu
  · exact fun _ _ _ _ _ _ hu _ => hc hu
  · exact hc

theorem readString_plainChar {c : Char} (hquote : c ≠ '"') (hslash : c ≠ '\\') (hc : 32 ≤ c.toNat)
    (h : readString opening rest = .ok (t, r)) :
    readString opening (c :: rest) = .ok (c :: t, r) := by
  rw [readString.eq_8, if_neg (by omega), h]
  · rfl
  · exact hquote
  · exact fun _ _ _ _ _ _ _ _ _ heq _ => hslash heq
  · exact fun _ _ _ _ _ _ heq _ => hslash heq
  · exact fun _ heq _ => hslash heq
  · exact fun heq _ => hslash heq
  · exact fun _ _ heq _ => hslash heq

theorem toNat_cases (c : Char) : c.toNat < 0xD800 ∨ 0xDFFF < c.toNat ∧ c.toNat < 0x110000 :=
  c.valid

/-- No character is a surrogate. -/
theorem unitChar_toNat (c : Char) : isHighSurrogate c.toNat = false ∧ unitChar c.toNat = c := by
  have hhigh : isHighSurrogate c.toNat = false := by
    simp only [isHighSurrogate, Bool.and_eq_false_iff, decide_eq_false_iff_not]
    have hcases := toNat_cases c
    omega
  have hlow : isLowSurrogate c.toNat = false := by
    simp only [isLowSurrogate, Bool.and_eq_false_iff, decide_eq_false_iff_not]
    have hcases := toNat_cases c
    omega
  refine ⟨hhigh, ?_⟩
  rw [unitChar, hhigh, hlow]
  exact Char.ofNat_toNat c

/-- A character beyond the code units comes back from its pair. -/
theorem pairChar_toNat {c : Char} (h : 0x10000 ≤ c.toNat) :
    isHighSurrogate (0xD800 + (c.toNat - 0x10000) / 0x400) = true ∧
      isLowSurrogate (0xDC00 + (c.toNat - 0x10000) % 0x400) = true ∧
      pairChar (0xD800 + (c.toNat - 0x10000) / 0x400) (0xDC00 + (c.toNat - 0x10000) % 0x400) =
        c := by
  have hbound := toNat_cases c
  refine ⟨?_, ?_, ?_⟩
  · simp only [isHighSurrogate, Bool.and_eq_true, decide_eq_true_eq]
    omega
  · simp only [isLowSurrogate, Bool.and_eq_true, decide_eq_true_eq]
    omega
  · have hsum : 0x10000 + (0xD800 + (c.toNat - 0x10000) / 0x400 - 0xD800) * 0x400 +
        (0xDC00 + (c.toNat - 0x10000) % 0x400 - 0xDC00) = c.toNat := by omega
    rw [pairChar, hsum, Char.ofNat_toNat]

/-- A character comes back from the way it is written. -/
theorem readString_escapeChar (c : Char) (h : readString opening rest = .ok (t, r)) :
    readString opening (escapeChar c ++ rest) = .ok (c :: t, r) := by
  unfold escapeChar
  split_ifs with hquote hslash hnewline hreturn htab hback hfeed hplain hunit
  · exact hquote ▸ readString_shortEscape (by decide) rfl h
  · exact hslash ▸ readString_shortEscape (by decide) rfl h
  · exact hnewline ▸ readString_shortEscape (by decide) rfl h
  · exact hreturn ▸ readString_shortEscape (by decide) rfl h
  · exact htab ▸ readString_shortEscape (by decide) rfl h
  · exact hback ▸ readString_shortEscape (by decide) rfl h
  · exact hfeed ▸ readString_shortEscape (by decide) rfl h
  · exact readString_plainChar hquote hslash hplain.1 h
  · obtain ⟨hhigh, hchar⟩ := unitChar_toNat c
    have hescape := readString_codeEscape hunit hhigh h
    rwa [hchar] at hescape
  · obtain ⟨hhigh, hlow, hchar⟩ := pairChar_toNat (Nat.le_of_not_lt hunit)
    have hpair := readString_pair hhigh hlow h
    rw [hchar] at hpair
    rw [List.append_assoc]
    exact hpair

theorem readString_flatMap (opening t r : Text) :
    readString opening (t.flatMap escapeChar ++ '"' :: r) = .ok (t, r) := by
  induction t with
  | nil => exact readString.eq_2 opening r
  | cons c t ih =>
    rw [List.flatMap_cons, List.append_assoc]
    exact readString_escapeChar c ih

end Json
end CodeGraph
