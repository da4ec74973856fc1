import CodeGraph.Decimal.Truncation
import CodeGraph.Graph.Dot
import CodeGraph.Graph.Record
import CodeGraph.Text.Case

/-! The forms in which a graph is given out. -/
namespace CodeGraph

inductive ExportFormat
  | json
  | dot
deriving DecidableEq, Repr

namespace ExportFormat

def name : ExportFormat → Text
  | .json => "json"
  | .dot => "dot"

/-- Upper and lower case are not told apart. -/
def ofName? (t : Text) : Option ExportFormat :=
  let t := Text.lower t
  [ExportFormat.json, .dot].find? fun f => f.name = t

end ExportFormat

def Graph.exportText (g : Graph) : ExportFormat → Text
  | .json => g.dump
  | .dot => g.toDot []

def wholeMilliseconds? (seconds : Binary64) : Option Int :=
  (seconds.times 1000).truncate?

def exportName (milliseconds : Int) (ending : Text) : Text :=
  "code-graph-" ++ Text.ofInt milliseconds ++ '.' :: ending

end CodeGraph
