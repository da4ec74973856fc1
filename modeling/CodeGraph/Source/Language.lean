import CodeGraph.Graph.Kind
import CodeGraph.Source.Path

/-! What the extension of a file says: the kind of its node, and how it writes imports. -/
namespace CodeGraph

/-- Nodes of files with these extensions; all others are plain files. -/
def NodeKind.extensions : List (Text × NodeKind) :=
  [("js", .file), ("ts", .file), ("jsx", .file), ("tsx", .file), ("py", .script),
   ("rb", .script), ("go", .file), ("rs", .file), ("java", .file), ("css", .utility),
   ("scss", .utility), ("less", .utility), ("html", .file), ("vue", .file), ("svelte", .file),
   ("json", .collection), ("yaml", .collection), ("yml", .collection), ("sql", .collection),
   ("md", .utility), ("txt", .utility)]

def NodeKind.ofExtension (ext : Text) : NodeKind :=
  (NodeKind.extensions.lookup (Text.lower ext)).getD .file

inductive Language
  | javascript
  | python
deriving DecidableEq, Repr

namespace Language

def extensions : List (Text × Language) :=
  [("js", .javascript), ("ts", .javascript), ("jsx", .javascript), ("tsx", .javascript),
   ("vue", .javascript), ("svelte", .javascript), ("py", .python)]

def ofExtension? (ext : Text) : Option Language :=
  extensions.lookup (Text.lower ext)

end Language

def defaultExtensions : List Text :=
  ["js", "ts", "jsx", "tsx", "py", "go", "java", "vue", "svelte", "rb"]

def isAccepted (extensions : List Text) (path : Text) : Bool :=
  extensions.contains (Path.extension path)

end CodeGraph
