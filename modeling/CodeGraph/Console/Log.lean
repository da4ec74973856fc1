import CodeGraph.Scan.Result
import CodeGraph.Settings.Store

/-! What is reported on the side while a command works. -/
namespace CodeGraph

inductive LogLevel
  | debug
  | info
  | warning
  | error
deriving DecidableEq, Repr

namespace LogLevel

def name : LogLevel → Text
  | .debug => "DEBUG"
  | .info => "INFO"
  | .warning => "WARNING"
  | .error => "ERROR"

/-- Details are shown on demand only. -/
def isShown (verbose : Bool) : LogLevel → Bool
  | .debug | .info => verbose
  | .warning | .error => true

end LogLevel

def logLine (verbose : Bool) (level : LogLevel) (message : Text) : Text :=
  if level.isShown verbose then level.name ++ ": " ++ message ++ ['\n'] else []

namespace Event

def level : Event → LogLevel
  | .duplicatePath _ | .unresolved .. | .newEndpoint .. => .debug
  | .unreadable .. => .warning
  | .finished .. => .info

def message : Event → Text
  | .duplicatePath path => "Duplicate path " ++ path ++ " ignored"
  | .unreadable path reason => "Skipping unreadable file " ++ path ++ ": " ++ reason
  | .unresolved raw source => "Unresolved import " ++ Text.quoted raw ++ " in " ++ source
  | .newEndpoint verb route source =>
    "Endpoint " ++ verb.method ++ " " ++ route ++ " found in " ++ source
  | .finished files nodes edges warnings =>
    "Scanned " ++ Text.ofNat files ++ " file(s): " ++ Text.ofNat nodes ++ " node(s), " ++
      Text.ofNat edges ++ " edge(s), " ++ Text.ofNat warnings ++ " warning(s)"

def logText (verbose : Bool) (events : List Event) : Text :=
  events.flatMap fun e => logLine verbose e.level e.message

end Event

namespace Notice

def level : Notice → LogLevel
  | .brokenText .. | .notRead .. => .warning
  | .notWritten .. => .error

/-- Notices about the settings file at a path. -/
def logText (path : Text) (notices : List Notice) : Text :=
  notices.flatMap fun n => logLine false n.level (n.message path)

end Notice
end CodeGraph
