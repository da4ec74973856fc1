import CodeGraph.Text.Basic

/-! Places in a text, as error messages give them. -/
namespace CodeGraph.Text

/-- Lines and columns count from one, offsets from zero; only a line feed ends a line. -/
structure Position where
  line : Nat
  column : Nat
  offset : Nat
deriving DecidableEq, Repr

def positionAt (t : Text) (offset : Nat) : Position :=
  let before := t.take offset
  { line := before.count '\n' + 1
    column := (afterLast '\n' before).length + 1
    offset }

end CodeGraph.Text
