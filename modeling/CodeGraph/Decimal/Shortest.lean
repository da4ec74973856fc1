import CodeGraph.Text.Basic
import CodeGraph.Decimal.Binary64

/-! The fewest decimal digits that read back as the same double, and their layout. -/
namespace CodeGraph.Binary64

def log10 (num den : Nat) : Int :=
  settleLog 10 ((digitCount num : Int) - digitCount den) num den

/-- The positive numbers `low / unit` to `high / unit` that round to one double. The ends belong to
it if `closed`. -/
structure Basin where
  low : Nat
  middle : Nat
  high : Nat
  unit : Nat
  closed : Bool

/-- All three points of a basin lie on the grid of quarter steps. Below a power of two the step
is half as wide. -/
def basin (m : Nat) (e : Int) : Basin :=
  let below := if m = Nat.pow 2 52 ∧ leastExponent < e then 1 else 2
  let (num, den) := scale 2 (2 - e) 1 1
  ⟨(4 * m - below) * num, 4 * m * num, (4 * m + 2) * num, den, m % 2 == 0⟩

def Basin.holds (b : Basin) (k : Int) (d : Nat) : Bool :=
  let (n, u) := scale 10 (-k) d 1
  let x := n * b.unit
  if b.closed then b.low * u ≤ x && x ≤ b.high * u else b.low * u < x && x < b.high * u

/-- The multiple of `10^k` in the basin that is nearest to its middle, if a neighbour of the middle
lies in it at all; a tie goes to the even multiple. -/
def Basin.onGrid? (b : Basin) (k : Int) : Option Nat :=
  let (n, u) := scale 10 k b.middle b.unit
  let near := roundHalfEven n u
  let far := if near = n / u then near + 1 else n / u
  if b.holds k near then some near else if b.holds k far then some far else none

def Basin.search (b : Basin) (top : Int) : (tries digits : Nat) → Nat × Int
  | 0, digits =>
    let k := top - digits
    let (n, u) := scale 10 k b.middle b.unit
    (roundHalfEven n u, k)
  | tries + 1, digits =>
    let k := top - digits
    match b.onGrid? k with
    | some d => (d, k)
    | none => b.search top tries (digits + 1)

/-- Digits and the power of ten of the last one, for a positive significand. Seventeen digits always
suffice. -/
def shortest (m : Nat) (e : Int) : Nat × Int :=
  let b := basin m e
  b.search (log10 b.middle b.unit) 16 0

/-- How a double is written: positional while the first digit stands for `10^p` with
`fromPower ≤ p < belowPower`, with an exponent of at least `exponentSize` digits otherwise. -/
structure Style where
  fromPower : Int
  belowPower : Int
  exponentSize : Nat
  nan : Text
  infinity : Text

def significantDigits (d : Nat) : Text :=
  match ((Nat.toDigits 10 d).reverse.dropWhile (· = '0')).reverse with
  | [] => ['0']
  | ds => ds

def positional (digits : Text) (power : Int) : Text :=
  if power < 0 then "0." ++ List.replicate (-power - 1).toNat '0' ++ digits
  else
    let whole := power.toNat + 1
    let places := digits.drop whole
    digits.take whole ++ List.replicate (whole - digits.length) '0' ++ '.' ::
      (if places.isEmpty then ['0'] else places)

def exponential (exponentSize : Nat) (digits : Text) (power : Int) : Text :=
  let places := digits.drop 1
  let size := Text.ofNat power.natAbs
  digits.take 1 ++ (if places.isEmpty then [] else '.' :: places) ++
    (if power < 0 then "e-" else "e+") ++ List.replicate (exponentSize - size.length) '0' ++ size

def write (style : Style) : Binary64 → Text
  | .nan => style.nan
  | .infinite s => (if s then ['-'] else []) ++ style.infinity
  | .finite s m e =>
    let (digits, power) :=
      if m = 0 then (['0'], 0)
      else
        let (d, k) := shortest m e
        (significantDigits d, k + digitCount d - 1)
    (if s then ['-'] else []) ++
      (if style.fromPower ≤ power ∧ power < style.belowPower then positional digits power
       else exponential style.exponentSize digits power)

end CodeGraph.Binary64
