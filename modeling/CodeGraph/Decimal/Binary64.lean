/-! Double-precision numbers as exact data, and the rounding of a fraction to one of them. -/
namespace CodeGraph

/-- `finite s m e` stands for `m · 2^e`, negative if `s`. A significand below `2^52` comes with the
least exponent only, so equal numbers of equal sign are the same data. -/
inductive Binary64
  | nan
  | infinite (negative : Bool)
  | finite (negative : Bool) (significand : Nat) (exponent : Int)
deriving DecidableEq, Repr

namespace Binary64

def leastExponent : Int := -1074
def greatestExponent : Int := 971

def zero (negative : Bool) : Binary64 :=
  .finite negative 0 leastExponent

def isZero : Binary64 → Bool
  | .finite _ m _ => m == 0
  | _ => false

def negate : Binary64 → Binary64
  | .nan => .nan
  | .infinite s => .infinite !s
  | .finite s m e => .finite (!s) m e

/-- The integer nearest to `num / den`, the even one of two at the same distance. -/
def roundHalfEven (num den : Nat) : Nat :=
  let q := num / den
  let r := num % den
  if 2 * r < den then q else if den < 2 * r then q + 1 else q + q % 2

/-- Numerator and denominator of `num / den · base^(-e)`. -/
def scale (base : Nat) (e : Int) (num den : Nat) : Nat × Nat :=
  if 0 ≤ e then (num, den * Nat.pow base e.toNat) else (num * Nat.pow base (-e).toNat, den)

/-- The greatest `e` with `base^e ≤ num / den`, given an `e` that is that or one more. -/
def settleLog (base : Nat) (e : Int) (num den : Nat) : Int :=
  let (n, d) := scale base e num den
  if d ≤ n then e else e - 1

def log2 (num den : Nat) : Int :=
  settleLog 2 ((num.log2 : Int) - den.log2) num den

def ofRatio (negative : Bool) (num den : Nat) : Binary64 :=
  if num = 0 then zero negative
  else
    let e := max leastExponent (log2 num den - 52)
    let (n, d) := scale 2 e num den
    let m := roundHalfEven n d
    let (m, e) := if m = Nat.pow 2 53 then (Nat.pow 2 52, e + 1) else (m, e)
    if greatestExponent < e then .infinite negative else .finite negative m e

def digitCount (n : Nat) : Nat :=
  (Nat.toDigits 10 n).length

/-- The double nearest to `digits · 10^exponent`. Far beyond the range no power is computed. -/
def ofDecimal (negative : Bool) (digits : Nat) (exponent : Int) : Binary64 :=
  let magnitude := (digitCount digits : Int) + exponent
  if digits = 0 ∨ magnitude < -330 then zero negative
  else if 320 < magnitude then .infinite negative
  else
    let (n, d) := scale 10 (-exponent) digits 1
    ofRatio negative n d

def fraction (significand : Nat) (exponent : Int) : Nat × Nat :=
  scale 2 (-exponent) significand 1

end Binary64
end CodeGraph
