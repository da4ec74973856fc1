import CodeGraph.Scan.Registry
import CodeGraph.Source.Specifier

/-! The node that an import refers to. -/
namespace CodeGraph

namespace Path

/-- One segment further: `..` leads to the parent, at the top to the top; `.` leads nowhere. -/
def step (at_ : List Text) (segment : Text) : List Text :=
  if segment = ['.', '.'] then at_.dropLast
  else if segment = ['.'] then at_
  else at_ ++ [segment]

def walk (folder relative : Text) : Text :=
  let start := (Text.split '/' folder).filter (!·.isEmpty)
  Text.join "/" ((Text.split '/' relative).foldl step start)

/-- Endings that an import may leave out, in the order in which they are tried. -/
def suffixes : List Text :=
  [".js", ".ts", ".jsx", ".tsx", "/index.js", "/index.ts"]

end Path

namespace Registry

/-- The path that a relative path leads to. If it holds no dot, the first ending that makes it an
indexed path is added. -/
def resolvePath (r : Registry) (folder relative : Text) : Text :=
  let path := Path.walk folder relative
  if path.contains '.' then path
  else ((Path.suffixes.map (path ++ ·)).find? r.isIndexed).getD path

def candidate (r : Registry) (source : Text) (s : Specifier) : Text :=
  match s.language with
  | .python => s.raw
  | .javascript => r.resolvePath (Path.folder source) s.raw

def resolve (r : Registry) (source : Text) (s : Specifier) : Option Node :=
  r.findByPath (r.candidate source s)

end Registry
end CodeGraph
