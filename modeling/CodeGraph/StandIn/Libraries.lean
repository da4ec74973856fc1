import CodeGraph.StandIn.CommandLine.Reader
import CodeGraph.StandIn.Console.Library
import CodeGraph.StandIn.Toml.Library

/-! Packages to run the program with. They follow the packages that it was written for as far as
they were seen to go; no theorem about the program rests on them but where it is shown at work on
one input. -/
namespace CodeGraph.StandIn

def libraries : Libraries where
  toml := Toml.library
  console := Console.console
  commandLine := { read := CommandLine.read, echo := CommandLine.echo }

end CodeGraph.StandIn
