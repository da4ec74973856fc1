import CodeGraph.Text.Case

/-! Slash-separated paths: the folder, the name and the extension of a file. -/
namespace CodeGraph.Path

def fileName (path : Text) : Text :=
  Text.afterLast '/' path

/-- The part before the last slash, empty if there is none. -/
def folder (path : Text) : Text :=
  (Text.beforeLast? '/' path).getD []

/-- The lower-case part of the file name after its last dot. A name without a dot, or with its only
dot in front, has an empty extension. -/
def extension (path : Text) : Text :=
  let name := fileName path
  match Text.beforeLast? '.' name with
  | none | some [] => []
  | some _ => Text.lower (Text.afterLast '.' name)

end CodeGraph.Path
