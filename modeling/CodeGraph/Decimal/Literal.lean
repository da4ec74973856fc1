import CodeGraph.Decimal.Binary64
import CodeGraph.Text.Blank
import CodeGraph.Text.Word

/-! Numbers as they are written by hand: in digits of any script, with white space around them and single
underscores between digits. -/
namespace CodeGraph.Literal

/-- No whole number is read from more decimal digits. -/
def digitLimit : Nat := 4300

/-- Every underscore stands between two digits. -/
def underscoresFit : (before : Option Char) → Text → Bool
  | _, [] => true
  | before, '_' :: r =>
    before.any (fun c => (Text.decimalValue? c).isSome) &&
      r.head?.any (fun c => (Text.decimalValue? c).isSome) && underscoresFit (some '_') r
  | _, c :: r => underscoresFit (some c) r

def dropUnderscores (t : Text) : Text :=
  t.filter (· ≠ '_')

def sign : Text → Bool × Text
  | '-' :: r => (true, r)
  | '+' :: r => (false, r)
  | r => (false, r)

/-- The value of digits in a base up to sixteen, at least one digit. Letters are ASCII letters of
either case. -/
def digitsValue? (base : Nat) (t : Text) : Option Nat :=
  if t.isEmpty then none
  else
    t.foldlM (fun n c => do
      let d ← match Text.decimalValue? c with
        | some d => some d
        | none =>
          let c := c.toLower
          if 'a' ≤ c ∧ c ≤ 'f' then some (c.toNat - 87) else none
      if d < base then some (n * base + d) else none) 0

def applySign (negative : Bool) (n : Nat) : Int :=
  if negative then -n else n

/-- A whole number whose base is told by its start. In base ten no zero stands in front of another
digit. -/
def basedInteger? (t : Text) : Option Int := do
  let (negative, r) := sign (Text.trim t)
  let n ← match r with
    | '0' :: x :: digits =>
      if x = 'x' ∨ x = 'X' then digitsValue? 16 digits
      else if x = 'o' ∨ x = 'O' then digitsValue? 8 digits
      else if x = 'b' ∨ x = 'B' then digitsValue? 2 digits
      else do
        let n ← digitsValue? 10 r
        guard (n = 0)
        return n
    | _ => digitsValue? 10 r
  return applySign negative n

def spanDigits (t : Text) : Text × Text :=
  (t.takeWhile fun c => (Text.decimalValue? c).isSome,
    t.dropWhile fun c => (Text.decimalValue? c).isSome)

def exponent? : Text → Option Int
  | [] => some 0
  | c :: r =>
    if c = 'e' ∨ c = 'E' then do
      let (negative, r) := sign r
      let n ← digitsValue? 10 r
      return applySign negative n
    else none

def float? (t : Text) : Option Binary64 := do
  let t := Text.trim t
  guard (underscoresFit none t)
  let (negative, r) := sign (dropUnderscores t)
  let name := r.map Char.toLower
  if name = "inf".toList ∨ name = "infinity".toList then return .infinite negative
  if name = "nan".toList then return .nan
  let (whole, r) := spanDigits r
  let (places, r) := match r with
    | '.' :: r => spanDigits r
    | r => ([], r)
  let digits ← digitsValue? 10 (whole ++ places)
  let e ← exponent? r
  return .ofDecimal negative digits (e - places.length)

end CodeGraph.Literal
