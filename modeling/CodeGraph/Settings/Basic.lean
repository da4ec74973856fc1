import CodeGraph.Source.Language
import CodeGraph.Text.Blank
import CodeGraph.Text.Case
import CodeGraph.Toml.Value

/-! The settings of a scan: the defaults, and what a stored section changes in them. -/
namespace CodeGraph

def defaultSkips : List Text :=
  [".git", ".hg", ".svn", ".venv", "venv", "__pycache__", "node_modules", "site-packages", ".tox",
   ".pytest_cache", "build", "dist", ".mypy_cache", ".ruff_cache", "htmlcov", ".eggs",
   ".graphscan"]

/-- Without blanks around it and dots in front, in lower case. -/
def normalizeExtension (t : Text) : Text :=
  Text.lower ((Text.strip t).dropWhile (· = '.'))

/-- The distinct normal forms in order. Blank texts are passed over. -/
def normalizeExtensions (extensions : List Text) : List Text :=
  Text.sortDistinct
    ((extensions.filter fun t => !(Text.strip t).isEmpty).map normalizeExtension)

/-- The number of workers is kept as it is stored: a positive number, or true. -/
structure Settings where
  maxWorkers : Toml.Value := .int 8
  extensions : List Text := Text.sortDistinct defaultExtensions
  skips : List Text := Text.sortDistinct defaultSkips
deriving DecidableEq

namespace Settings

def isWorkerCount : Toml.Value → Bool
  | .int n => 0 < n
  | .bool b => b
  | _ => false

def workersOf (table : Toml.Table) : Toml.Value :=
  match table.get? "max_workers" with
  | some v => if isWorkerCount v then v else ({} : Settings).maxWorkers
  | none => ({} : Settings).maxWorkers

def extensionsOf (table : Toml.Table) : List Text :=
  match table.get? "extensions" with
  | some (.arr (v :: vs)) => normalizeExtensions ((v :: vs).map (·.plain))
  | _ => ({} : Settings).extensions

def skipsOf (table : Toml.Table) : List Text :=
  match table.get? "skip_dirs" with
  | some (.arr vs) => Text.sortDistinct (vs.map (·.plain))
  | _ => ({} : Settings).skips

/-- Each key counts for itself: a value that cannot be used leaves the default. -/
def ofTable (table : Toml.Table) : Settings :=
  ⟨workersOf table, extensionsOf table, skipsOf table⟩

end Settings
end CodeGraph
