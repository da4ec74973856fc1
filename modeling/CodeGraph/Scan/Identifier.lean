import CodeGraph.Text.Basic

/-! Identifiers of nodes, nine digits of base 36 drawn from a stream. -/
namespace CodeGraph

abbrev Digit := Fin 36

namespace Digit

def toChar (d : Digit) : Char :=
  if d.val < 10 then Char.ofNat (48 + d.val) else Char.ofNat (87 + d.val)

/-- The digit of `n` that counts `36^place`. -/
def ofPlace (n place : Nat) : Digit :=
  ⟨n / Nat.pow 36 place % 36, Nat.mod_lt _ (by decide)⟩

end Digit

/-- The digits in `pending`, then the nine digits each of `next`, `next + 1` and so on. -/
structure DigitStream where
  pending : List Digit := []
  next : Nat := 0
deriving DecidableEq, Repr

namespace DigitStream

def draw : DigitStream → Digit × DigitStream
  | ⟨d :: ds, n⟩ => (d, ⟨ds, n⟩)
  | ⟨[], n⟩ => (.ofPlace n 8, ⟨[7, 6, 5, 4, 3, 2, 1, 0].map (.ofPlace n), n + 1⟩)

def drawMany : Nat → DigitStream → List Digit × DigitStream
  | 0, s => ([], s)
  | k + 1, s =>
    let (d, s) := s.draw
    let (ds, s) := drawMany k s
    (d :: ds, s)

/-- Nine digits, the first one drawn in front. -/
def block (s : DigitStream) : List Digit × DigitStream :=
  s.drawMany 9

end DigitStream

namespace Identifier

def ofDigits (ds : List Digit) : Text :=
  "id_" ++ ds.map Digit.toChar

def beyond (used : List Text) : Text :=
  "id_" ++ List.replicate ((used.map List.length).foldr max 0 + 1) 'z'

/-- The first block that gives an unused identifier. Should none of the tries do, a longer one is
made up. -/
def fresh (used : List Text) : (tries : Nat) → DigitStream → Text × DigitStream
  | 0, s => (beyond used, s)
  | tries + 1, s =>
    let (ds, s) := s.block
    if used.contains (ofDigits ds) then fresh used tries s else (ofDigits ds, s)

/-- Blocks of pending digits may repeat; the blocks behind them differ from one another. -/
def tries (used : List Text) (s : DigitStream) : Nat :=
  s.pending.length / 9 + used.length + 2

end Identifier
end CodeGraph
