import CodeGraph.Text.Ranges

/-! Blank characters and the removal of blanks at the ends of a text. -/
namespace CodeGraph.Text

/-- Bounds of the characters with the white space property or a separating bidirectional class. -/
def blankBounds : List Nat :=
  [9, 14, 28, 33, 133, 134, 160, 161, 5760, 5761, 8192, 8203, 8232, 8234, 8239, 8240, 8287,
   8288, 12288, 12289]

def isBlank (c : Char) : Bool :=
  inRanges blankBounds c.toNat

def stripLeft (t : Text) : Text :=
  t.dropWhile isBlank

def stripRight (t : Text) : Text :=
  (stripLeft t.reverse).reverse

def strip (t : Text) : Text :=
  stripRight (stripLeft t)

/-- White space, which the information separators are not. -/
def isSpace (c : Char) : Bool :=
  isBlank c && !('\x1c' ≤ c && c ≤ '\x1f')

def trim (t : Text) : Text :=
  ((t.dropWhile isSpace).reverse.dropWhile isSpace).reverse

/-- The parts between blanks, without empty ones. -/
def parts : Text → List Text
  | [] => []
  | c :: r =>
    if isBlank c then parts r
    else if r.head?.any isBlank then [c] :: parts r
    else
      match parts r with
      | [] => [[c]]
      | p :: ps => (c :: p) :: ps

end CodeGraph.Text
