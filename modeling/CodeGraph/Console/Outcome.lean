import CodeGraph.Console.Library
import CodeGraph.Console.Workspace

/-! What a command leaves: output, an exit code, and the surroundings as they are afterwards. -/
namespace CodeGraph

inductive Crash
  | settings (fault : StoreFault)
  | search (fault : PathFault)
  | output (fault : PathFault)
  | scan (fault : ScanFault)
  | hugeNumber
  | console (error : Raised)
deriving DecidableEq

def Crash.message : Crash → Text
  | .settings (.undecodable fault) => "unreadable settings: " ++ fault.message
  | .settings (.library error) => "settings that cannot be read or written: " ++ error.message
  | .settings (.path fault) => fault.message "settings"
  | .search fault => fault.message "folder"
  | .output fault => fault.message "output"
  | .scan fault => fault.message
  | .hugeNumber => LoadFault.hugeNumber.message
  | .console error => error.message

/-- The exit code 2 stands for a command line that makes no sense. -/
structure Outcome where
  workspace : Workspace
  exit : Nat := 0
  stdout : Text := []
  stderr : Text := []
  crash : Option Crash := none

namespace Outcome

/-- Breaks off. What was put out before stays. -/
def fail (o : Outcome) (crash : Crash) : Outcome :=
  { o with exit := 1, crash := some crash }

def print (o : Outcome) (t : Text) : Outcome :=
  { o with stdout := o.stdout ++ t }

def printError (o : Outcome) (t : Text) : Outcome :=
  { o with stderr := o.stderr ++ t }

/-- Goes on with what a console shows, unless the command broke off before. -/
def withShown (o : Outcome) (shown : Except Raised Text) (f : Text → Outcome) : Outcome :=
  match o.crash, shown with
  | some _, _ => o
  | none, .ok t => f t
  | none, .error error => o.fail (.console error)

variable (c : Console)

def say (o : Outcome) (markup : Text) : Outcome :=
  o.withShown (c.line markup) o.print

/-- Says a text with style tags on the side. -/
def complain (o : Outcome) (markup : Text) : Outcome :=
  o.withShown (c.complaint markup) o.printError

def sayTable (o : Outcome) (t : Table) : Outcome :=
  o.withShown (c.table t) o.print

end Outcome
end CodeGraph
