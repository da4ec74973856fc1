import CodeGraph.Graph.Basic
import CodeGraph.Scan.Identifier

/-! The nodes of a scan in order of arrival, with the paths under which they are found. -/
namespace CodeGraph

/-- A node and the path that it is indexed under, if it is. -/
structure Registry.Entry where
  key : Option Text
  node : Node
deriving DecidableEq, Repr

/-- `used` holds every identifier handed out, newest first. -/
structure Registry where
  entries : List Registry.Entry := []
  used : List Text := []
  digits : DigitStream := {}
deriving DecidableEq, Repr

namespace Registry

def nodes (r : Registry) : List Node :=
  r.entries.map (·.node)

def size (r : Registry) : Nat :=
  r.entries.length

def index (r : Registry) : List (Text × Node) :=
  r.entries.filterMap fun e => e.key.map (·, e.node)

def lookup (r : Registry) (path : Text) : Option Node :=
  (r.index.find? (·.1 = path)).map (·.2)

def isIndexed (r : Registry) (path : Text) : Bool :=
  (r.lookup path).isSome

def newId (r : Registry) : Text × Registry :=
  let (id, digits) := Identifier.fresh r.used (Identifier.tries r.used r.digits) r.digits
  (id, { r with used := id :: r.used, digits })

def append (r : Registry) (key : Option Text) (node : Node) : Node × Registry :=
  let (id, r) := r.newId
  let node := { node with id }
  (node, { r with entries := r.entries ++ [⟨key, node⟩] })

/-- Appends a node and indexes it under the path; a path that is taken is refused. -/
def register? (r : Registry) (path : Text) (node : Node) : Option (Node × Registry) :=
  if r.isIndexed path then none else some (r.append (some path) node)

/-- Appends a node and indexes it under its own path if that is free. -/
def add (r : Registry) (node : Node) : Node × Registry :=
  r.append (if r.isIndexed node.path then none else some node.path) node

/-- The node of exactly this path, else the first whose path ends with it. A leading `./` may be
left out, and nothing ends with nothing. -/
def findByPath (r : Registry) (path : Text) : Option Node :=
  match r.lookup path with
  | some node => some node
  | none =>
    let stripped := (Text.dropPrefix? "./" path).getD path
    if stripped.isEmpty then none
    else
      (r.index.find? fun (key, _) => Text.endsWith path key || Text.endsWith stripped key).map (·.2)

def findEndpoint (r : Registry) (name : Text) : Option Node :=
  r.nodes.find? fun n => n.kind = .endpoint && n.name = name

def markDatabase (r : Registry) (id : Text) : Registry :=
  { r with entries := r.entries.map fun e =>
      if e.node.id = id then { e with node := { e.node with hasDb := true } } else e }

end Registry
end CodeGraph
