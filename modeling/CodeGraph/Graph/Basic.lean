import CodeGraph.Graph.Kind

/-! Nodes, edges and graphs: look-ups, counts and edges without an end. -/
namespace CodeGraph

/-- `extension` is null for a node that has none; `metadata` holds further fields. -/
structure Node where
  id : Text
  name : Text
  kind : NodeKind
  path : Text
  extension : Json := .null
  hasDb : Bool := false
  metadata : Fields := []
deriving DecidableEq, Repr

structure Edge where
  source : Text
  target : Text
  kind : EdgeKind
  metadata : Fields := []
deriving DecidableEq, Repr

structure Graph where
  nodes : List Node := []
  edges : List Edge := []
deriving DecidableEq, Repr

namespace Graph

def isEmpty (g : Graph) : Bool :=
  g.nodes.isEmpty

/-- The first node with this id. -/
def node? (g : Graph) (id : Text) : Option Node :=
  g.nodes.find? (·.id = id)

def ids (g : Graph) : List Text :=
  g.nodes.map (·.id)

def countNodes (g : Graph) (k : NodeKind) : Nat :=
  g.nodes.countP (·.kind = k)

def countEdges (g : Graph) (k : EdgeKind) : Nat :=
  g.edges.countP (·.kind = k)

/-- One of the ends is no node of the graph. -/
def isDangling (g : Graph) (e : Edge) : Bool :=
  !(g.ids.contains e.source && g.ids.contains e.target)

def danglingEdges (g : Graph) : List Edge :=
  g.edges.filter g.isDangling

def withoutDanglingEdges (g : Graph) : Graph :=
  { g with edges := g.edges.filter fun e => !g.isDangling e }

end Graph
end CodeGraph
