import CodeGraph.Graph.Basic

/-! Drawings of a graph in the DOT language, whole or around a focus. -/
namespace CodeGraph
namespace Dot

/-- A known id keeps its place and takes the new node; a new one comes last. -/
def place (n : Node) : List Node → List Node
  | [] => [n]
  | x :: r => if x.id = n.id then n :: r else x :: place n r

/-- One node for each id, the last one given. -/
def distinctNodes (nodes : List Node) : List Node :=
  nodes.foldl (fun acc n => place n acc) []

structure Drawing where
  nodes : List Node
  edges : List Edge
deriving DecidableEq, Repr

def inFocus (focus : Text) (n : Node) : Bool :=
  Text.occursIn focus n.name || Text.occursIn focus n.path

/-- Nodes in focus, the edges that touch them and the other ends of those. Everything is drawn for
an empty focus and for one that no node is in. -/
def select (nodes : List Node) (edges : List Edge) (focus : Text) : Drawing :=
  let centers := (nodes.filter (inFocus focus)).map (·.id)
  if focus.isEmpty || centers.isEmpty then ⟨nodes, edges⟩
  else
    let touching := edges.filter fun e => centers.contains e.source || centers.contains e.target
    let ids := Text.sortDistinct (centers ++ touching.flatMap fun e => [e.source, e.target])
    ⟨ids.filterMap fun id => nodes.find? (·.id = id), touching⟩

/-- Edges without an end are never drawn. -/
def drawing (g : Graph) (focus : Text) : Drawing :=
  select (distinctNodes g.nodes) g.withoutDanglingEdges.edges focus

/-- A string literal, in which only the quote is escaped. -/
def literal (t : Text) : Text :=
  '"' :: Text.replaceChar '"' "\\\"" t ++ ['"']

def nodeLine (n : Node) : Text :=
  "  " ++ literal n.id ++ " [label=" ++ literal (n.kind.name ++ "\\n" ++ n.name) ++
    ", fillcolor=\"" ++ n.kind.color ++ "\"];"

def edgeLine (e : Edge) : Text :=
  "  " ++ literal e.source ++ " -> " ++ literal e.target ++ " [label=\"" ++ e.kind.name ++
    "\", color=\"" ++ e.kind.color ++ "\"];"

def header : List Text :=
  ["digraph CodeGraph \x7b",
   "  rankdir=LR;",
   "  node [style=filled, fontcolor=\"#e6edf3\", color=\"#30363d\"];"]

def footer : List Text :=
  ["\x7d"]

def Drawing.lines (d : Drawing) : List Text :=
  header ++ d.nodes.map nodeLine ++ d.edges.map edgeLine ++ footer

def Drawing.write (d : Drawing) : Text :=
  d.lines.flatMap (· ++ ['\n'])

end Dot

def Graph.toDot (g : Graph) (focus : Text) : Text :=
  (Dot.drawing g focus).write

end CodeGraph
