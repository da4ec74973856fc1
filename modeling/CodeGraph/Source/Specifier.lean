import CodeGraph.Source.Language
import CodeGraph.Source.Pattern

/-! Imports of a source text, found by their form alone. -/
namespace CodeGraph

/-- What an import names: a relative path as written, or the path that a module name stands for. -/
structure Specifier where
  language : Language
  raw : Text
deriving DecidableEq, Repr

namespace Specifier

def isClauseChar (c : Char) : Bool :=
  Text.isWord c || Text.isBlank c || ['*', '\x7b', '\x7d', ',', '$'].contains c

/-- A clause stands between blanks, then comes `from` and more blanks. The arguments are read from
the end. -/
def endsInFrom (clause : Text) : Bool :=
  match Text.dropPrefix? "morf" (Text.stripLeft clause.reverse) with
  | some (last :: _ :: first :: r) =>
    clause.reverse.head?.any Text.isBlank && Text.isBlank last &&
      Text.isBlank ((first :: r).getLastD first)
  | _ => false

def isImportClause (clause : Text) : Bool :=
  !clause.isEmpty && clause.all Text.isBlank || endsInFrom clause

def importStatement : Pattern Text := fun before here => do
  guard (outsideWord before)
  let r ← Text.dropPrefix? "import" here
  guard (isImportClause (r.takeWhile isClauseChar))
  quotedText? (r.dropWhile isClauseChar)

def requireCall : Pattern Text := fun before here => do
  guard (outsideWord before)
  let r ← Text.dropPrefix? "require" here
  let r ← char? '(' (Text.stripLeft r)
  let (path, r) ← quotedText? (Text.stripLeft r)
  let r ← char? ')' (Text.stripLeft r)
  return (path, r)

def isRelative (path : Text) : Bool :=
  Text.startsWith "." path

/-- Relative paths of import statements, then those of calls. -/
def javascriptPaths (content : Text) : List Text :=
  (importStatement.findAll content ++ requireCall.findAll content).filter isRelative

def isModuleChar (c : Char) : Bool :=
  Text.isWord c || c == '.'

def moduleName? (t : Text) : Option (Text × Text) :=
  match t.takeWhile isModuleChar with
  | [] => none
  | name => some (name, t.dropWhile isModuleChar)

/-- `from` a module, anywhere. -/
def fromStatement : Pattern Text := fun before here => do
  guard (outsideWord before)
  let r ← Text.dropPrefix? "from" here
  let (name, r) ← moduleName? (← blanks? r)
  let r ← Text.dropPrefix? "import" (← blanks? r)
  guard (atWordEnd r)
  return (name, r)

/-- `import` of a module at the start of a line. -/
def plainImport : Pattern Text := fun before here => do
  guard (atLineStart before)
  let r ← Text.dropPrefix? "import" here
  moduleName? (← blanks? r)

def modulePath (name : Text) : Text :=
  Text.replaceChar '.' "/" name ++ ".py"

/-- Files of `from` statements, then those of plain imports. -/
def pythonPaths (content : Text) : List Text :=
  (fromStatement.findAll content ++ plainImport.findAll content).map modulePath

/-- The specifiers of a text in the order of their patterns. A text in no known language has
none. -/
def ofContent (content : Text) : Option Language → List Specifier
  | some .javascript => (javascriptPaths content).map (⟨.javascript, ·⟩)
  | some .python => (pythonPaths content).map (⟨.python, ·⟩)
  | none => []

end Specifier
end CodeGraph
