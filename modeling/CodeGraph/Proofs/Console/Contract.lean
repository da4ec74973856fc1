import CodeGraph.Console.Library

/-! What is documented of the packages that show texts: which texts with tags a console shows
without an error, and which texts are put out as they are. -/
namespace CodeGraph

/-- A piece of a text with tags: text without tags, text in a color that the end of the piece closes
by its name or as the last one opened, and text that stands for itself. -/
inductive MarkupPiece
  | plain (t : Text)
  | colored (color t : Text) (named : Bool)
  | escaped (t : Text)

namespace MarkupPiece

/-- Neither brackets nor backslashes mean anything in such a text, since there are none. -/
def isPlain (t : Text) : Bool :=
  t.all fun c => c ≠ '[' && c ≠ ']' && c ≠ '\\'

def isHexDigit (c : Char) : Bool :=
  c.isDigit || 'a' ≤ c && c ≤ 'f'

/-- A color by its name, or by its parts in six digits. -/
def isColor (t : Text) : Bool :=
  ["red".toList, "green".toList, "yellow".toList].contains t ||
    t.head? = some '#' && t.length = 7 && t.tail.all isHexDigit

def closing (color : Text) (named : Bool) : Text :=
  if named then "[/" ++ color ++ "]" else "[/]"

def raw : MarkupPiece → Text
  | plain t | escaped t => t
  | colored color t named => "[" ++ color ++ "]" ++ t ++ closing color named

/-- The piece as a console reads it. -/
def text (c : Console) : MarkupPiece → Text
  | escaped t => c.escape t
  | piece => piece.raw

def firstBracket (pieces : List MarkupPiece) : Option Char :=
  (pieces.flatMap raw).find? fun c => c = '[' || c = ']'

/-- Text that stands for itself is followed by plain text or nothing, and what follows closes no
bracket that it may have left open. -/
def IsSound : List MarkupPiece → Prop
  | [] => True
  | plain t :: rest => isPlain t = true ∧ IsSound rest
  | colored color t _ :: rest => isColor color = true ∧ isPlain t = true ∧ IsSound rest
  | [escaped _] => True
  | escaped _ :: plain t :: rest =>
    t ≠ [] ∧ firstBracket (plain t :: rest) ≠ some ']' ∧ isPlain t = true ∧ IsSound rest
  | escaped _ :: _ => False

end MarkupPiece

namespace Console

open MarkupPiece (IsSound isPlain)

def markup (c : Console) (pieces : List MarkupPiece) : Text :=
  pieces.flatMap (·.text c)

/-- The titles are plain, and the cells are sound. -/
structure IsSoundTable (c : Console) (t : Table) : Prop where
  title : isPlain t.title = true
  columns : ∀ column ∈ t.columns, isPlain column.heading = true
  cells : ∀ row ∈ t.rows, ∀ cell ∈ row, ∃ pieces, IsSound pieces ∧ cell = c.markup pieces

/-- Tags that are closed in turn and text that stands for itself are shown without an error. -/
structure ShowsSound (c : Console) : Prop where
  line : ∀ pieces, IsSound pieces → ∃ t, c.line (c.markup pieces) = .ok t
  complaint : ∀ pieces, IsSound pieces → ∃ t, c.complaint (c.markup pieces) = .ok t
  table : ∀ t, c.IsSoundTable t → ∃ shown, c.table t = .ok shown

end Console

/-- A sequence that styles a terminal: an escape character and a bracket, parameters, a letter. -/
def HasTerminalSequence (t : Text) : Prop :=
  ∃ before parameters letter after,
    t = before ++ '\x1b' :: '[' :: (parameters ++ letter :: after) ∧
    (∀ c ∈ parameters, (c.isDigit || c = ';' || c = '?') = true) ∧ letter.isAlpha = true

/-- A text without such sequences is put out as it is, as a line. -/
def CommandLine.EchoesLines (c : CommandLine) : Prop :=
  ∀ t, ¬HasTerminalSequence t → c.echo t = t ++ ['\n']

structure Libraries.AreDocumented (l : Libraries) : Prop where
  console : l.console.ShowsSound
  commandLine : l.commandLine.EchoesLines

end CodeGraph
