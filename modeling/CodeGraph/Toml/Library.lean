import CodeGraph.Toml.Value

/-! The package that reads and writes settings texts, as far as the store relies on it. -/
namespace CodeGraph

/-- An error that a package lets out, by its kind. -/
structure Raised where
  kind : Text
  message : Text
deriving DecidableEq, Repr

namespace Toml

/-- A text is complained about if it is not well formed. Other errors are not meant to happen, but
some texts lead to them. -/
inductive Fault
  | malformed (message : Text)
  | raised (error : Raised)
deriving DecidableEq, Repr

structure Library where
  load : Text → Except Fault Table
  dump : Table → Except Raised Text

end Toml
end CodeGraph
