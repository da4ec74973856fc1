import CodeGraph.Console.Session
import CodeGraph.StandIn.Libraries
import Std.Time.DateTime.Timestamp

/-! The program. For a scan, the paths of the files are read from standard input, one a line and
seen from the current folder. -/
namespace CodeGraph.Program

inductive Found
  | nothing
  | file (content : Bytes)
  | locked (reason : Text)
  | folder

def folderRead : UInt32 := 21

def lookAt (path : String) : IO Found := do
  try
    return .file (← IO.FS.readBinFile path).toList
  catch
    | .noFileOrDirectory .. => return .nothing
    | .inappropriateType _ code _ => return if code = folderRead then .folder else .nothing
    | e => return .locked (toString e)

def place (here : Location) (path : Text) : Location :=
  ((Text.split '/' path).filter (!·.isEmpty)).foldl Path.step (Lookup.start here path)

/-- Takes what stands at a path into the surroundings. -/
def takeIn (w : Workspace) (path : Text) : IO Workspace := do
  let spot := place w.here path
  let put (e : Entry) : Workspace := { w with top := w.top.put spot e }
  match ← lookAt (String.ofList path) with
  | .nothing => return w
  | .file content => return put (.file content)
  | .folder => return if (w.top.at? spot).isSome then w else put (.folder [])
  | .locked reason =>
    let known := w.unreadable?
    return { put (.file []) with
      unreadable? := fun p => if Text.endsWith p path then some reason else known p }

def readLines (input : IO.FS.Stream) : IO (List Text) := do
  let mut lines := []
  repeat
    let line := (← input.getLine).toList
    if line.isEmpty then break
    lines := line.filter (· ≠ '\n') :: lines
  return lines.reverse

def pathsOf (command : Command) : IO (List Text) := do
  let withOutput (output : Option Text) : List Text :=
    output.toList.flatMap fun path => [Path.folder path, path]
  match command with
  | .scan request =>
    return request.folder :: withOutput request.output ++ (← readLines (← IO.getStdin))
  | .inspect file => return [file]
  | .sample output _ => return withOutput output
  | _ => return []

def randomDigits (count : Nat) : IO (List Digit) := do
  let bytes ← IO.getRandomBytes count.toUSize
  return (bytes.toList.filter (· < 252)).map fun b => ⟨b.toNat % 36, Nat.mod_lt _ (by decide)⟩

def homePath : IO String := do
  match ← IO.getEnv "GRAPHSCAN_HOME" with
  | some path => return path
  | none => return ((← IO.getEnv "HOME").getD "") ++ "/.graphscan"

/-- Writes a file that the command changed. -/
def putBack (before after : Entry) (spot : Location) : IO Unit := do
  match before.at? spot, after.at? spot with
  | old, some (.file content) =>
    let unchanged := match old with
      | some (.file former) => former == content
      | _ => false
    unless unchanged do
      IO.FS.createDirAll ("/" ++ String.ofList (Text.join "/" spot.dropLast))
      IO.FS.writeBinFile ("/" ++ String.ofList (Text.join "/" spot)) ⟨content.toArray⟩
  | _, _ => pure ()

/-- The places of files that a command may write. -/
def writtenPlaces (w : Workspace) : Command → List Location
  | .scan { output := some output, format, .. } | .sample (some output) format =>
    (ExportFormat.ofName? format).toList.map fun f => place w.here (w.outputPath output f)
  | .setWorkers _ | .setExtensions _ | .resetSettings => [place w.here w.settingsPath]
  | _ => []

def run (args : List Text) : IO UInt32 := do
  match StandIn.libraries.commandLine.read args with
  | none => return 2
  | some invocation =>
    let here := place [] (toString (← IO.currentDir)).toList
    let homeText := (← homePath).toList
    let start : Workspace :=
      { top := (Entry.folder []).put here (.folder [])
        here
        home := homeText
        homeText
        milliseconds := (← Std.Time.Timestamp.now).toMillisecondsSinceUnixEpoch.val
        digits := { pending := ← randomDigits 100000 } }
    let settings := [start.homePath, start.settingsPath]
    let w ← (settings ++ (← pathsOf invocation.command)).foldlM takeIn start
    let o := Session.run StandIn.libraries w invocation
    (← IO.getStdout).putStr (String.ofList o.stdout)
    (← IO.getStderr).putStr (String.ofList o.stderr)
    if let some crash := o.crash then
      (← IO.getStderr).putStrLn (String.ofList crash.message)
    for spot in writtenPlaces w invocation.command do
      putBack w.top o.workspace.top spot
    return UInt32.ofNat o.exit

end CodeGraph.Program

def main (args : List String) : IO UInt32 :=
  CodeGraph.Program.run (args.map String.toList)
