import CodeGraph.Console.Library
import CodeGraph.StandIn.Console.Markup
import CodeGraph.StandIn.Console.TableText

/-! A console without colors to run the commands with. -/
namespace CodeGraph.StandIn.Console

def raised (fault : MarkupFault) : Raised :=
  ⟨if fault = .brokenColor then "ValueError" else "MarkupError", fault.message⟩

def line (markup : Text) : Except Raised Text := do
  let shown ← (Markup.plainText markup).mapError raised
  return Text.join "\n" (Text.wrap .fold TableText.consoleWidth shown) ++ ['\n']

def table (t : Table) : Except Raised Text := do
  let rows ← (Markup.plainRows t.rows).mapError raised
  return TableText.render { t with rows }

def console : CodeGraph.Console :=
  { escape := Markup.escape, line, complaint := line, table }

end CodeGraph.StandIn.Console
