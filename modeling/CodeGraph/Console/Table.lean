import CodeGraph.Text.Basic

/-! Tables with a title and columns. -/
namespace CodeGraph

inductive Alignment
  | left
  | right
  | center
deriving DecidableEq, Repr

structure Column where
  heading : Text
  alignment : Alignment := .left
deriving DecidableEq, Repr

/-- The cells may have style tags. -/
structure Table where
  title : Text
  columns : List Column
  rows : List (List Text)
deriving DecidableEq, Repr

end CodeGraph
