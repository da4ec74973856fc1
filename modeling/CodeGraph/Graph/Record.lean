import CodeGraph.Graph.Basic
import CodeGraph.Json.Plain

/-! Nodes, edges and graphs as JSON objects, and back. -/
namespace CodeGraph

inductive ShapeFault
  | notAnObject
  | notAList
deriving DecidableEq, Repr

/-- The plain text of a field, empty if it is missing. -/
def Fields.plain (key : Text) (fs : Fields) : Text :=
  match fs.get? key with
  | some v => v.plain
  | none => []

namespace Node

def ownKeys : List Text :=
  ["id", "name", "type", "path", "extension", "hasDb"]

def toFields (n : Node) : Fields :=
  let fs := n.metadata.update
    [("id", .str n.id), ("name", .str n.name), ("type", .str n.kind.name), ("path", .str n.path)]
  let fs := if n.extension = .null then fs else fs.set "extension" n.extension
  if n.hasDb then fs.set "hasDb" (.bool true) else fs

/-- Fields of other keys are kept as metadata, and so is a false `hasDb`. -/
def ofFields (fs : Fields) : Node :=
  let others : Fields := fs.filter fun f => !ownKeys.contains f.1
  let hasDb := fs.get? "hasDb"
  { id := fs.plain "id"
    name := fs.plain "name"
    kind := .ofJson (fs.get? "type")
    path := fs.plain "path"
    extension := (fs.get? "extension").getD .null
    hasDb := hasDb.any (·.truthy)
    metadata :=
      match hasDb with
      | some v => if v.truthy then others else others.set "hasDb" v
      | none => others }

def ofJson : Json → Except ShapeFault Node
  | .obj fs => .ok (ofFields fs)
  | _ => .error .notAnObject

end Node

namespace Edge

def ownKeys : List Text :=
  ["source", "target", "type"]

def toFields (e : Edge) : Fields :=
  e.metadata.update
    [("source", .str e.source), ("target", .str e.target), ("type", .str e.kind.name)]

def ofFields (fs : Fields) : Edge :=
  { source := fs.plain "source"
    target := fs.plain "target"
    kind := .ofJson (fs.get? "type")
    metadata := fs.filter fun f => !ownKeys.contains f.1 }

def ofJson : Json → Except ShapeFault Edge
  | .obj fs => .ok (ofFields fs)
  | _ => .error .notAnObject

end Edge

/-- What stands in a collection: the items of a list, the keys of an object, the characters of a
string. -/
def Json.elements : Json → Except ShapeFault (List Json)
  | .arr items => .ok items
  | .obj fs => .ok ((Fields.keys fs).map .str)
  | .str t => .ok (t.map fun c => .str [c])
  | _ => .error .notAList

namespace Graph

def toFields (g : Graph) : Fields :=
  [("nodes", .arr (g.nodes.map fun n => .obj n.toFields)),
    ("edges", .arr (g.edges.map fun e => .obj e.toFields))]

/-- Only the nodes and the edges are looked at; either may be missing. -/
def ofFields (fs : Fields) : Except ShapeFault Graph := do
  let nodes ← ((fs.get? "nodes").getD (.arr [])).elements
  let nodes ← nodes.mapM Node.ofJson
  let edges ← ((fs.get? "edges").getD (.arr [])).elements
  let edges ← edges.mapM Edge.ofJson
  return { nodes, edges }

def ofJson : Json → Except ShapeFault Graph
  | .obj fs => ofFields fs
  | _ => .error .notAnObject

def dump (g : Graph) : Text :=
  (Json.obj g.toFields).indentedText

end Graph
end CodeGraph
