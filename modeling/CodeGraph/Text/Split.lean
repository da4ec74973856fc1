import CodeGraph.Text.Basic

/-! Splitting a text at every occurrence of another one, or at the first few. -/
namespace CodeGraph.Text

/-- The parts before and behind the first occurrence of a separator. -/
def cut? (sep : Text) : Text → Option (Text × Text)
  | [] => none
  | c :: r =>
    match dropPrefix? sep (c :: r) with
    | some rest => some ([], rest)
    | none => (cut? sep r).map fun (a, b) => (c :: a, b)

/-- The pieces between the first `n` separators; the last piece holds the rest. -/
def splitFirst (sep : Text) : (n : Nat) → Text → List Text
  | 0, t => [t]
  | n + 1, t =>
    match cut? sep t with
    | none => [t]
    | some (a, b) => a :: splitFirst sep n b

def splitAll (sep : Text) (t : Text) : List Text :=
  splitFirst sep t.length t

/-- The number of separators, none of which overlap. -/
def countOf (sep : Text) (t : Text) : Nat :=
  (splitAll sep t).length - 1

end CodeGraph.Text
