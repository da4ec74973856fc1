import CodeGraph.Json.Reader
import CodeGraph.Json.Writer

/-! Whole numbers come back from JSON text where no digits, places or exponent follow. -/
namespace CodeGraph.Json

/-- No number goes on with this text. -/
def EndsNumber (r : Text) : Prop :=
  ∀ c ∈ r.head?, isDigit c = false ∧ c ≠ '.' ∧ c ≠ 'e' ∧ c ≠ 'E'

theorem isDigit_of_mem_toDigits {n : Nat} {c : Char} (h : c ∈ Nat.toDigits 10 n) :
    isDigit c = true := by
  have hdigit := Nat.isDigit_of_mem_toDigits (by decide) (by decide) h
  simp only [Char.isDigit, Bool.and_eq_true, decide_eq_true_eq] at hdigit
  simp only [isDigit, Bool.and_eq_true, decide_eq_true_eq]
  exact hdigit

theorem ne_of_isDigit {c d : Char} (hc : isDigit c = true) (hd : isDigit d = false) : c ≠ d := by
  rintro rfl
  rw [hc] at hd
  cases hd

/-- The digits of a positive number do not start with a zero. -/
theorem toDigits_eq_cons {n : Nat} (h : 0 < n) :
    ∃ c ds, Nat.toDigits 10 n = c :: ds ∧ c ≠ '0' := by
  induction n using Nat.strongRecOn with
  | ind n ih =>
    by_cases hsmall : n < 10
    · have hnonzero : ∀ d < 10, 0 < d → d.digitChar ≠ '0' := by decide
      exact ⟨n.digitChar, [], Nat.toDigits_of_lt_base hsmall, hnonzero n hsmall h⟩
    · obtain ⟨c, ds, hdigits, hc⟩ := ih (n / 10) (by omega) (by omega)
      refine ⟨c, ds ++ [(n % 10).digitChar], ?_, hc⟩
      rw [Nat.toDigits_of_base_le (by decide) (Nat.le_of_not_lt hsmall), hdigits]
      rfl

theorem toDigits_eq_digit_cons (n : Nat) :
    ∃ c ds, Nat.toDigits 10 n = c :: ds ∧ isDigit c = true := by
  obtain ⟨c, ds, hdigits⟩ := List.exists_cons_of_ne_nil (Nat.toDigits_ne_nil (n := n) (b := 10))
  exact ⟨c, ds, hdigits, isDigit_of_mem_toDigits (by rw [hdigits]; exact List.mem_cons_self)⟩

/-- A whole number starts with a digit or with a minus and a digit. -/
theorem ofInt_cases (n : Int) :
    (∃ c ds, Text.ofInt n = c :: ds ∧ isDigit c = true) ∨
      ∃ c ds, Text.ofInt n = '-' :: c :: ds ∧ isDigit c = true := by
  cases n with
  | ofNat n => exact Or.inl (toDigits_eq_digit_cons n)
  | negSucc n =>
    obtain ⟨c, ds, hdigits, hc⟩ := toDigits_eq_digit_cons (n + 1)
    exact Or.inr ⟨c, ds, congrArg ('-' :: ·) hdigits, hc⟩

theorem head_ofInt_append {n : Int} {r : Text} :
    ∀ c ∈ (Text.ofInt n ++ r).head?, c = '-' ∨ isDigit c = true := by
  intro d hd
  rcases ofInt_cases n with ⟨c, ds, htext, hc⟩ | ⟨c, ds, htext, -⟩
  · rw [htext] at hd
    obtain rfl : c = d := Option.some.inj hd
    exact Or.inr hc
  · rw [htext] at hd
    exact Or.inl (Option.some.inj hd).symm

/-- No word starts like a number. -/
theorem readWord?_ofInt (n : Int) (r : Text) : readWord? (Text.ofInt n ++ r) = none := by
  rcases ofInt_cases n with ⟨c, ds, htext, hc⟩ | ⟨c, ds, htext, hc⟩ <;>
  · have hne (d : Char) (hd : isDigit d = false) : d ≠ c := (ne_of_isDigit hc hd).symm
    simp [htext, readWord?, words, Text.dropPrefix?, hne 'n' rfl, hne 't' rfl, hne 'f' rfl,
      hne 'N' rfl, hne 'I' rfl, hne '-' rfl]

theorem digitsValue_toDigits (n : Nat) : digitsValue (Nat.toDigits 10 n) = n := by
  have hstep : (fun n (d : Char) => n * 10 + (d.toNat - 48)) =
      fun sofar (c : Char) => 10 * sofar + (c.toNat - '0'.toNat) := by
    funext n d
    rw [Nat.mul_comm]
    rfl
  rw [digitsValue, hstep]
  exact Nat.ofDigitChars_ten_toDigits

/-- What a number is read from once its sign is known. -/
def unsigned? (negative : Bool) (t : Text) : Option (Json × Text) := do
  let (whole, t) ← wholePart? t
  let (fraction, t) := places t
  match exponent? t with
  | some (e, t) =>
    return (.real (.ofDecimal negative (digitsValue (whole ++ fraction)) (e - fraction.length)), t)
  | none =>
    if fraction.isEmpty then
      let n : Int := digitsValue whole
      return (.int (if negative then -n else n), t)
    else
      return (.real (.ofDecimal negative (digitsValue (whole ++ fraction)) (-fraction.length)), t)

theorem readNumber?_minus (t : Text) : readNumber? ('-' :: t) = unsigned? true t := rfl

theorem readNumber?_of_ne {c : Char} (hc : c ≠ '-') (t : Text) :
    readNumber? (c :: t) = unsigned? false (c :: t) := by
  unfold readNumber?
  split
  next negative t' heq =>
    split at heq
    · next heq' => exact absurd (List.cons.inj heq').1 hc
    · obtain ⟨rfl, rfl⟩ := Prod.mk.inj heq
      rfl

section

variable {r : Text} (hr : EndsNumber r)

include hr

theorem takeWhile_digits (n : Nat) :
    (Nat.toDigits 10 n ++ r).takeWhile isDigit = Nat.toDigits 10 n := by
  have hrest : r.takeWhile isDigit = [] := by
    cases r with
    | nil => rfl
    | cons c r => exact List.takeWhile_cons_of_neg (by simpa using (hr c rfl).1)
  rw [List.takeWhile_append_of_pos fun c hc => isDigit_of_mem_toDigits hc, hrest, List.append_nil]

theorem dropWhile_digits (n : Nat) : (Nat.toDigits 10 n ++ r).dropWhile isDigit = r := by
  rw [List.dropWhile_append_of_pos fun c hc => isDigit_of_mem_toDigits hc]
  cases r with
  | nil => rfl
  | cons c r => exact List.dropWhile_cons_of_neg (by simpa using (hr c rfl).1)

theorem wholePart?_toDigits (n : Nat) :
    wholePart? (Nat.toDigits 10 n ++ r) = some (Nat.toDigits 10 n, r) := by
  rcases Nat.eq_zero_or_pos n with rfl | hn
  · rfl
  · obtain ⟨c, ds, hdigits, hc⟩ := toDigits_eq_cons hn
    have htake := takeWhile_digits hr n
    have hdrop := dropWhile_digits hr n
    rw [hdigits] at htake hdrop ⊢
    rw [List.cons_append] at htake hdrop ⊢
    unfold wholePart?
    split
    · next heq => exact absurd (List.cons.inj heq).1 hc
    · rw [htake, hdrop]

theorem places_eq : places r = ([], r) := by
  unfold places
  split
  · next r' => exact absurd rfl (hr '.' rfl).2.1
  · rfl

theorem exponent?_eq_none : exponent? r = none := by
  cases r with
  | nil => rfl
  | cons c r =>
    obtain ⟨-, -, he, hE⟩ := hr c rfl
    unfold exponent?
    exact if_neg (by simp [he, hE])

theorem unsigned?_toDigits (negative : Bool) (n : Nat) :
    unsigned? negative (Nat.toDigits 10 n ++ r) = some (.int (if negative then -n else n), r) := by
  unfold unsigned?
  rw [wholePart?_toDigits hr]
  simp only [Option.bind_eq_bind, Option.bind_some, places_eq hr, exponent?_eq_none hr]
  rw [digitsValue_toDigits]
  rfl

/-- A whole number is read from its digits when nothing behind them belongs to a number. -/
theorem readNumber?_ofInt (n : Int) : readNumber? (Text.ofInt n ++ r) = some (.int n, r) := by
  cases n with
  | ofNat n =>
    obtain ⟨c, ds, hdigits, hc⟩ := toDigits_eq_digit_cons n
    have hread := unsigned?_toDigits hr false n
    change readNumber? (Nat.toDigits 10 n ++ r) = _
    rw [hdigits, List.cons_append] at hread ⊢
    rw [readNumber?_of_ne (ne_of_isDigit hc (by decide)), hread]
    rfl
  | negSucc n =>
    change readNumber? ('-' :: (Nat.toDigits 10 (n + 1) ++ r)) = _
    rw [readNumber?_minus, unsigned?_toDigits hr]
    rfl

end

/-- Digits beyond the limit are refused even before they are read. -/
theorem isHuge_ofInt {r : Text} (hr : EndsNumber r) {n : Int}
    (h : (Nat.toDigits 10 n.natAbs).length ≤ Literal.digitLimit) :
    isHuge (Text.ofInt n ++ r) = false := by
  have hdrop : (Text.dropPrefix? "-" (Text.ofInt n ++ r)).getD (Text.ofInt n ++ r) =
      Nat.toDigits 10 n.natAbs ++ r := by
    cases n with
    | negSucc n => rfl
    | ofNat n =>
      obtain ⟨c, ds, hdigits, hc⟩ := toDigits_eq_digit_cons n
      change (Text.dropPrefix? "-" (Nat.toDigits 10 n ++ r)).getD (Nat.toDigits 10 n ++ r) =
        Nat.toDigits 10 n ++ r
      rw [hdigits, List.cons_append]
      have hnone : Text.dropPrefix? "-" (c :: (ds ++ r)) = none :=
        if_neg (ne_of_isDigit hc (by decide)).symm
      rw [hnone]
      rfl
  unfold isHuge
  rw [hdrop, takeWhile_digits hr]
  exact decide_eq_false (Nat.not_lt.mpr h)

end CodeGraph.Json
