import CodeGraph.Text.Blank
import CodeGraph.StandIn.Console.Cluster

/-! Breaking a line of text where it grows too wide. -/
namespace CodeGraph.Text

/-- A word too wide for any line goes on in the next one, or is cut short with dots at its end. -/
inductive Overflow
  | fold
  | dots
deriving DecidableEq, Repr

def words (fuel : Nat) (line : Text) : List Text :=
  match fuel with
  | 0 => []
  | fuel + 1 =>
    let (lead, rest) := line.span isBlank
    let (body, rest) := rest.span fun c => !isBlank c
    let (trail, rest) := rest.span isBlank
    if body.isEmpty then [] else (lead ++ body ++ trail) :: words fuel rest

/-- Lines so far in reverse, the open line, and the width that it takes up. -/
structure Wrapping where
  done : List Text := []
  line : Text := []
  used : Nat := 0

namespace Wrapping

def start (w : Wrapping) (line : Text) : Wrapping :=
  { done := if w.line.isEmpty then w.done else w.line :: w.done, line, used := width line }

/-- A word goes to the open line if it fits without the blanks after it, else to a new one. -/
def add (o : Overflow) (limit : Nat) (w : Wrapping) (word : Text) : Wrapping :=
  let size := width (stripRight word)
  if w.used + size ≤ limit then { w with line := w.line ++ word, used := w.used + width word }
  else if limit < size && o = .fold then (chop limit word).foldl start w
  else w.start word

end Wrapping

/-- Drops blanks at the end as far as they stick out, then whatever else does. -/
def trimTo (o : Overflow) (limit : Nat) (line : Text) : Text :=
  let blanks := line.length - (stripRight line).length
  let line := line.take (line.length - min blanks (line.length - limit))
  match o with
  | .fold => crop limit line
  | .dots => if width line ≤ limit then line else crop (limit - 1) line ++ ['…']

def wrapLine (o : Overflow) (limit : Nat) (line : Text) : List Text :=
  let w := (words (line.length + 1) line).foldl (Wrapping.add o limit) {}
  let lines := if w.done.isEmpty && w.line.isEmpty then [line] else (w.line :: w.done).reverse
  lines.map (trimTo o limit)

/-- The parts between tabs, with blanks up to the next multiple of `stop` in place of each tab. -/
def expandTabs (stop : Nat) : (column : Nat) → List Text → Text
  | _, [] => []
  | _, [part] => part
  | column, part :: rest =>
    let column := column + width (part ++ [' '])
    let size := (stop - column % stop) % stop
    part ++ ' ' :: List.replicate size ' ' ++ expandTabs stop (column + size) rest

def wrap (o : Overflow) (limit : Nat) (t : Text) : List Text :=
  (split '\n' t).flatMap fun line => wrapLine o limit (expandTabs 8 0 (split '\t' line))

def endsLine (c : Char) : Bool :=
  c = '\n' || '\x0b' ≤ c && c ≤ '\r' || '\x1c' ≤ c && c ≤ '\x1e' || c = '\x85' || c = '\u2028' ||
    c = '\u2029'

def widestLine : (line : Text) → Text → Nat
  | line, [] => width line.reverse
  | line, c :: r =>
    if endsLine c then max (width line.reverse) (widestLine [] r) else widestLine (c :: line) r

end CodeGraph.Text
