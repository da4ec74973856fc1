import CodeGraph.Console.Table
import CodeGraph.StandIn.Console.Wrap

/-! Tables as boxes on a console, with their titles above. -/
namespace CodeGraph.StandIn

/-- Fills a line up with blanks. Of an odd number, the center has one more on the right. -/
def fill (a : Alignment) (size : Nat) (t : Text) : Text :=
  let space := size - Text.width t
  let before := match a with
    | .left => 0
    | .right => space
    | .center => space / 2
  List.replicate before ' ' ++ t ++ List.replicate (space - before) ' '

namespace TableText

def consoleWidth : Nat := 500

def naturalWidths (t : Table) : List Nat :=
  t.columns.mapIdx fun i c =>
    (c.heading :: t.rows.map fun row => row.getD i []).foldl
      (fun n cell => max n (Text.widestLine [] cell)) 0

/-- The width of a table: of its columns, a blank on either side of each, and the lines between. -/
def totalWidth (widths : List Nat) : Nat :=
  widths.foldl (fun n w => n + w + 3) 1

def widths (t : Table) : List Nat :=
  let ws := naturalWidths t
  let widest := ws.foldl max 0
  let excess := totalWidth ws - consoleWidth
  ws.map fun w => if w = widest then w - excess else w

def rule (first line between last : Char) (widths : List Nat) : Text :=
  first :: Text.join [between] (widths.map fun w => List.replicate (w + 2) line) ++ [last, '\n']

/-- A row of cells, as high as its highest cell. Words too wide for a cell end in dots. -/
def row (border : Char) (widths : List Nat) (columns : List Column) (cells : List Text) : Text :=
  let cells := (widths.zip (columns.zip cells)).map fun (w, c, cell) =>
    (w, c.alignment, Text.wrap .dots w cell)
  let height := cells.foldl (fun n (_, _, lines) => max n lines.length) 1
  (List.range height).flatMap fun i =>
    border :: cells.flatMap (fun (w, a, lines) =>
      ' ' :: fill a w (lines.getD i []) ++ [' ', border]) ++ ['\n']

def render (t : Table) : Text :=
  let ws := widths t
  fill .center (totalWidth ws) t.title ++ '\n' ::
    rule '┏' '━' '┳' '┓' ws ++
    row '┃' ws t.columns (t.columns.map (·.heading)) ++
    rule '┡' '━' '╇' '┩' ws ++
    t.rows.flatMap (row '│' ws t.columns) ++
    rule '└' '─' '┴' '┘' ws

end TableText
end CodeGraph.StandIn
