import CodeGraph.Text.Basic

/-! Sets of code points given by their bounds. -/
namespace CodeGraph.Text

/-- Membership in a set of half-open ranges: the bounds ascend, start and end by turns. -/
def inRanges : List Nat → Nat → Bool
  | lo :: hi :: r, n => if n < lo then false else if n < hi then true else inRanges r n
  | _, _ => false

end CodeGraph.Text
