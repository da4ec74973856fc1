import CodeGraph.Console.Command
import CodeGraph.Console.Table
import CodeGraph.Toml.Library

/-! The packages that commands are read and shown with, as far as the commands rely on them. -/
namespace CodeGraph

/-- A console shows texts with style tags as lines, and tables. `escape` makes a text stand for
itself in one with tags. What is complained about goes to a console of its own. -/
structure Console where
  escape : Text → Text
  line : Text → Except Raised Text
  complaint : Text → Except Raised Text
  table : Table → Except Raised Text

/-- `read` gives no invocation for a command line that makes no sense. `echo` is what is put out of
a text that is no markup. -/
structure CommandLine where
  read : List Text → Option Invocation
  echo : Text → Text

structure Libraries where
  toml : Toml.Library
  console : Console
  commandLine : CommandLine

end CodeGraph
