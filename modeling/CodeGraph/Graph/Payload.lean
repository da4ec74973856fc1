import CodeGraph.Graph.Record
import CodeGraph.Folder.Lookup
import CodeGraph.Json.Reader

/-! Checked loading of a graph from JSON text. -/
namespace CodeGraph

inductive PayloadFault
  | notAnObject
  | noNodes
  | noEdges
  | strayNode
  | strayEdge
deriving DecidableEq, Repr

def PayloadFault.message : PayloadFault → Text
  | .notAnObject => "Invalid JSON: expected an object with nodes and edges"
  | .noNodes => "Invalid JSON: missing nodes array"
  | .noEdges => "Invalid JSON: missing edges/links array"
  | .strayNode => "Invalid JSON: every node must be an object"
  | .strayEdge => "Invalid JSON: every edge must be an object"

namespace Payload

/-- The value of the edges, which may also go by the name of links. -/
def edges? (fs : Fields) : Option Json :=
  match fs.get? "edges" with
  | none | some .null => fs.get? "links"
  | some v => some v

/-- Checks that a value holds lists of objects, and puts the edges under one name. -/
def normalize : Json → Except PayloadFault Fields
  | .obj fs =>
    match Fields.get? "nodes" fs with
    | some (.arr nodes) =>
      match edges? fs with
      | some (.arr edges) =>
        if !nodes.all (·.isObject) then .error .strayNode
        else if !edges.all (·.isObject) then .error .strayEdge
        else .ok ((Fields.set "edges" (.arr edges) fs).erase "links")
      | _ => .error .noEdges
    | _ => .error .noNodes
  | _ => .error .notAnObject

end Payload

/-- Why no graph could be loaded. A huge number ends the reading at once. -/
inductive LoadFault
  | unreadable (file reason : Text)
  | notJson (fault : Json.Fault) (source : Text)
  | hugeNumber
  | notAGraph (fault : PayloadFault)
  | misshapen (fault : ShapeFault)
deriving DecidableEq, Repr

def LoadFault.message : LoadFault → Text
  | .unreadable file reason => "Failed to read " ++ file ++ ": " ++ reason
  | .notJson fault source => "Failed to parse JSON: " ++ fault.message source
  | .notAGraph fault => fault.message
  | .hugeNumber => Json.Complaint.hugeNumber.message
  | .misshapen _ => []

def Graph.load (t : Text) : Except LoadFault Graph :=
  match Json.read t with
  | .error ⟨.hugeNumber, _⟩ => .error .hugeNumber
  | .error fault => .error (.notJson fault t)
  | .ok v =>
    match Payload.normalize v with
    | .error fault => .error (.notAGraph fault)
    | .ok fs => (Graph.ofFields fs).mapError .misshapen

def Graph.loadFile (top : Entry) (here : Location) (path : Text) : Except LoadFault Graph :=
  match Lookup.content top here path with
  | .error fault => .error (.unreadable path (fault.message path))
  | .ok content =>
    match Utf8.decode content with
    | .error fault => .error (.unreadable path fault.message)
    | .ok t => Graph.load (Text.unifyLineEnds t)

end CodeGraph
