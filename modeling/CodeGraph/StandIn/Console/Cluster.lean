import CodeGraph.StandIn.Console.Width

/-! Characters that are drawn as one, and texts cut or filled up to a number of columns. -/
namespace CodeGraph.Text

/-- A character with the marks and joined characters behind it. -/
structure Cluster where
  text : Text
  width : Nat
deriving DecidableEq, Repr

namespace Cluster

/-- The cluster at hand, with its text in reverse, and those behind it. `base` is the character
that a selector may widen. -/
def split (k : Cluster) (base : Option Char) : Text → List Cluster
  | [] => [{ k with text := k.text.reverse }]
  | c :: r =>
    if c = joiner then
      match r with
      | [] => [{ k with text := (c :: k.text).reverse }]
      | d :: r => split { k with text := d :: c :: k.text } base r
    else if c = selector then
      if base.any isSelectable then split ⟨c :: k.text, k.width + 1⟩ none r
      else split { k with text := c :: k.text } base r
    else
      match charWidth c with
      | 0 => split { k with text := c :: k.text } base r
      | n + 1 => { k with text := k.text.reverse } :: split ⟨[c], n + 1⟩ (some c) r

def ofText : Text → List Cluster
  | [] => []
  | c :: r => split ⟨[c], charWidth c⟩ (if charWidth c = 0 then none else some c) r

/-- The front up to a number of columns. In place of half a wide cluster stands a blank. -/
def crop : (columns : Nat) → List Cluster → Text
  | _, [] => []
  | 0, _ => []
  | columns, k :: r => if k.width ≤ columns then k.text ++ crop (columns - k.width) r else [' ']

/-- Lines as wide as they fit. `used` is the width of the line at hand. -/
def chop (columns : Nat) : (used : Nat) → (line : Text) → List Cluster → List Text
  | _, line, [] => if line.isEmpty then [] else [line]
  | used, line, k :: r =>
    if columns < used + k.width then line :: chop columns k.width k.text r
    else chop columns (used + k.width) (line ++ k.text) r

end Cluster

def crop (columns : Nat) (t : Text) : Text :=
  if width t ≤ columns then t else Cluster.crop columns (Cluster.ofText t)

def chop (columns : Nat) (t : Text) : List Text :=
  Cluster.chop columns 0 [] (Cluster.ofText t)

end CodeGraph.Text
