import CodeGraph.Text.Blank
import CodeGraph.Text.Word

/-! Patterns in source text: where they match, and the search for them from left to right. -/
namespace CodeGraph

/-- A pattern is tried at a place in a text, with the character before it. It gives what it found
and the text behind the match. -/
abbrev Pattern (α : Type) := (before : Option Char) → (here : Text) → Option (α × Text)

namespace Pattern

variable {α : Type}

/-- What the pattern finds at every place, also within other matches. -/
def everywhere (p : Pattern α) (before : Option Char) : Text → List α
  | [] => []
  | c :: r => ((p before (c :: r)).map (·.1)).toList ++ everywhere p (some c) r

/-- What the pattern finds from left to right. The first `skip` characters belong to a match
already. -/
def search (p : Pattern α) : (skip : Nat) → (before : Option Char) → Text → List α
  | _, _, [] => []
  | skip + 1, _, c :: r => search p skip (some c) r
  | 0, before, c :: r =>
    match p before (c :: r) with
    | some (a, rest) => a :: search p (r.length - rest.length) (some c) r
    | none => search p 0 (some c) r

def findAll (p : Pattern α) (t : Text) : List α :=
  search p 0 none t

end Pattern

/-! Pieces of patterns. -/

def outsideWord (before : Option Char) : Bool :=
  !before.any Text.isWord

def atLineStart (before : Option Char) : Bool :=
  before.all (· = '\n')

def atWordEnd (here : Text) : Bool :=
  !here.head?.any Text.isWord

def blanks? : Text → Option Text
  | c :: r => if Text.isBlank c then some (Text.stripLeft r) else none
  | [] => none

def char? (c : Char) : Text → Option Text
  | x :: r => if x = c then some r else none
  | [] => none

def isQuote (c : Char) : Bool :=
  c == '\'' || c == '"'

/-- What stands between two quotes of either sort, at least one character, and the text behind. -/
def quotedText? : Text → Option (Text × Text)
  | q :: r =>
    if isQuote q then
      match r.takeWhile (!isQuote ·), r.dropWhile (!isQuote ·) with
      | c :: cs, _ :: rest => some (c :: cs, rest)
      | _, _ => none
    else none
  | [] => none

end CodeGraph
