import CodeGraph.Console.Log
import CodeGraph.Console.Outcome
import CodeGraph.Graph.Sample

/-! Running the commands. -/
namespace CodeGraph

/-- The extensions that count for a request. -/
def ScanRequest.accepted (request : ScanRequest) (settings : Settings) : List Text :=
  if request.extensions.isEmpty then settings.extensions
  else normalizeExtensions request.extensions

namespace Session

def versionLine : Text := "graphscan v1.0.0"

/-- The output of a command line that makes no sense. -/
def usageError (w : Workspace) : Outcome :=
  { workspace := w, exit := 2 }

/-- The number of items of each kind, where a kind without items is left out. -/
def countRows (kinds : List α) (color label : α → Text) (count : α → Nat) : List (List Text) :=
  kinds.filterMap fun k =>
    if count k = 0 then none
    else some ["[" ++ color k ++ "]●[/] " ++ label k, Text.ofNat (count k)]

def countTable (title : Text) (rows : List (List Text)) : Table :=
  { title
    columns := [{ heading := "Type" }, { heading := "Count", alignment := .right }]
    rows }

def nodeTable (g : Graph) : Table :=
  countTable "Nodes" (countRows NodeKind.all NodeKind.color NodeKind.label g.countNodes)

def edgeTable (g : Graph) : Table :=
  countTable "Edges" (countRows EdgeKind.all EdgeKind.color EdgeKind.label g.countEdges)

variable (l : Libraries)

def summarize (o : Outcome) (g : Graph) : Outcome :=
  (o.sayTable l.console (nodeTable g)).sayTable l.console (edgeTable g)

def sizes (g : Graph) : Text :=
  "Nodes: " ++ Text.ofNat g.nodes.length ++ " | Edges: " ++ Text.ofNat g.edges.length

def writtenLine (c : Console) (path : Text) : Text :=
  "[green]✓[/green] Graph written to " ++ c.escape path

def writeGraph (o : Outcome) (g : Graph) (format : ExportFormat) (output : Text) : Outcome :=
  let path := o.workspace.outputPath output format
  match o.workspace.write path (g.exportText format) with
  | .error fault => o.fail (.output fault)
  | .ok w =>
    { o with workspace := w }.say l.console (writtenLine l.console path)

def skippedLine (c : Console) (w : Warning) : Text :=
  "[yellow]⚠[/yellow] Skipped " ++ c.escape w.path ++ ": " ++ c.escape w.reason

def sizesLine (r : ScanResult) : Text :=
  "Scanned: " ++ Text.ofNat r.filesAccepted ++ " files | " ++ sizes r.graph

/-- Gives out the graph of a scan: on the console, or in a file with a summary on the console. -/
def giveOut (o : Outcome) (output : Option Text) (format : ExportFormat) (r : ScanResult) :
    Outcome :=
  if r.graph.isEmpty then o.say l.console "No code files found in the selected folder."
  else
    match output with
    | none => o.print (l.commandLine.echo (r.graph.exportText format))
    | some output =>
      let o := writeGraph l o r.graph format output
      summarize l (o.say l.console (sizesLine r)) r.graph

/-- Gives out the graph of a folder. -/
def scanPlace (w : Workspace) (verbose : Bool) (request : ScanRequest) (place : Location)
    (format : ExportFormat) : Outcome :=
  match w.settings l.toml with
  | .error fault => Outcome.fail { workspace := w } (.settings fault)
  | .ok (settings, notices) =>
    let o : Outcome := { workspace := w, stderr := Notice.logText w.settingsText notices }
    match w.sources place settings.skips with
    | .error fault => o.fail (.search fault)
    | .ok files =>
      match w.scan (request.accepted settings) files with
      | .error fault => o.fail (.scan fault)
      | .ok r =>
        let o := o.printError (Event.logText verbose r.events)
        let o := r.warnings.foldl (fun o w => o.complain l.console (skippedLine l.console w)) o
        if o.crash.isSome then o else giveOut l o request.output format r

def scanFolder (w : Workspace) (verbose : Bool) (request : ScanRequest) : Outcome :=
  match w.folder? (Path.tidy request.folder), ExportFormat.ofName? request.format with
  | some place, some format => scanPlace l w verbose request place format
  | _, _ => usageError w

def loadedLine (c : Console) (path : Text) (g : Graph) : Text :=
  "Loaded: " ++ c.escape (Path.fileName path) ++ " | " ++ sizes g

def inspect (w : Workspace) (file : Text) : Outcome :=
  let o : Outcome := { workspace := w }
  let path := Path.tidy file
  if !w.hasFile path then usageError w
  else
    match Graph.loadFile w.top w.here path with
    | .error .hugeNumber => o.fail .hugeNumber
    | .error fault =>
      let o := o.complain l.console ("[red]✗[/red] " ++ l.console.escape fault.message)
      { o with exit := 1 }
    | .ok g =>
      let o := o.say l.console (loadedLine l.console path g)
      let dangling := g.danglingEdges.length
      let o :=
        if dangling = 0 then o
        else
          o.say l.console ("[yellow]⚠[/yellow] " ++ Text.ofNat dangling ++
            " edge(s) reference unknown nodes and will not be drawn")
      summarize l o g

def sample (w : Workspace) (output : Option Text) (format : Text) : Outcome :=
  match ExportFormat.ofName? format, output with
  | none, _ => usageError w
  | some format, none =>
    { workspace := w, stdout := l.commandLine.echo (Sample.graph.exportText format) }
  | some format, some output => writeGraph l { workspace := w } Sample.graph format output

def settingsTable (s : Settings) : Table :=
  { title := "Scan settings"
    columns := [{ heading := "Key" }, { heading := "Value" }]
    rows :=
      [["max_workers", s.maxWorkers.plain], ["extensions", Text.join ", " s.extensions],
       ["skip_dirs", Text.join ", " s.skips]] }

def showSettings (w : Workspace) : Outcome :=
  let o : Outcome := { workspace := w }
  match w.settings l.toml with
  | .error fault => o.fail (.settings fault)
  | .ok (settings, notices) =>
    (o.printError (Notice.logText w.settingsText notices)).sayTable l.console
      (settingsTable settings)

/-- Says a text if the settings could be stored. -/
def afterAttempt (w : Workspace) (a : Store.Attempt) (markup : Text) : Outcome :=
  let stderr := Notice.logText w.settingsText a.notices
  match w.withHome a.home, a.stored with
  | .error fault, _ => Outcome.fail { workspace := w, stderr } (.settings (.path fault))
  | .ok w, .error fault => Outcome.fail { workspace := w, stderr } (.settings fault)
  | .ok w, .ok false => { workspace := w, stderr, exit := 1 }
  | .ok w, .ok true =>
    Outcome.say l.console { workspace := w, stderr } ("[green]✓[/green] " ++ markup)

def setExtensions (w : Workspace) (extensions : List Text) : Outcome :=
  afterAttempt l w (Store.save l.toml w.settingsHome [("extensions", .arr (extensions.map .str))])
    ("extensions = " ++ Text.join ", " extensions)

def run (w : Workspace) (i : Invocation) : Outcome :=
  match i.command with
  | .help => { workspace := w }
  | .version => { workspace := w, stdout := l.commandLine.echo versionLine }
  | .scan request => scanFolder l w i.verbose request
  | .inspect file => inspect l w file
  | .sample output format => sample l w output format
  | .showSettings => showSettings l w
  | .setWorkers count =>
    afterAttempt l w (Store.save l.toml w.settingsHome [("max_workers", .int count)])
      ("max_workers = " ++ Text.ofInt count)
  | .setExtensions extensions =>
    let extensions := normalizeExtensions extensions
    if extensions.isEmpty then usageError w else setExtensions l w extensions
  | .resetSettings =>
    afterAttempt l w (Store.clear l.toml w.settingsHome) "Scan settings reset to defaults"

def runLine (w : Workspace) (args : List Text) : Outcome :=
  match l.commandLine.read args with
  | some i => run l w i
  | none => usageError w

end Session
end CodeGraph
