import CodeGraph.Scan.Progress

/-! A scan of source files: all files are registered before any text is looked at. -/
namespace CodeGraph

/-- What becomes of the reading of a file. A crash ends the scan. -/
inductive Reading
  | text (content : Text)
  | unreadable (reason : Text)
  | crash (message : Text)
deriving DecidableEq, Repr

structure SourceFile where
  path : Text
  reading : Reading
deriving DecidableEq, Repr

structure Warning where
  path : Text
  reason : Text
deriving DecidableEq, Repr

structure ScanResult where
  graph : Graph
  warnings : List Warning
  filesSeen : Nat
  filesAccepted : Nat
  events : List Event
deriving DecidableEq, Repr

inductive ScanFault
  | cancelled
  | crashed (message : Text)
deriving DecidableEq, Repr

def ScanFault.message : ScanFault → Text
  | .cancelled => "Scan cancelled"
  | .crashed message => message

/-- `completion k` is the order in which `k` readings complete, and `isCancelled n` the answer to the
`n`-th question whether to give up. -/
structure ScanOptions where
  extensions : List Text := defaultExtensions
  digits : DigitStream := {}
  completion : Nat → List Nat := List.range
  isCancelled : Nat → Bool := fun _ => false

namespace Scan

def fileNode (path : Text) : Node :=
  let ext := Path.extension path
  { id := [], name := Path.fileName path, kind := .ofExtension ext, path, extension := .str ext }

structure Kept where
  file : SourceFile
  node : Node
deriving DecidableEq, Repr

/-- Registers a file unless its path is taken. -/
def registerFile (state : Progress × List Kept) (file : SourceFile) : Progress × List Kept :=
  let (p, kept) := state
  match p.registry.register? file.path (fileNode file.path) with
  | none => (p.report (.duplicatePath file.path), kept)
  | some (node, registry) => ({ p with registry }, kept ++ [⟨file, node⟩])

def registerAll (digits : DigitStream) (files : List SourceFile) : Progress × List Kept :=
  files.foldl registerFile ({ registry := { digits } }, [])

/-- The texts that were read, by number of the file, and the warnings. -/
structure Harvest where
  texts : List (Nat × Text) := []
  warnings : List Warning := []
deriving DecidableEq, Repr

/-- Takes in the readings in the given order, with one question before each. -/
def gather (isCancelled : Nat → Bool) (files : List SourceFile) :
    (question : Nat) → (order : List Nat) → Harvest → Except ScanFault Harvest
  | _, [], h => .ok h
  | question, i :: order, h =>
    if isCancelled question then .error .cancelled
    else
      match files[i]? with
      | none => gather isCancelled files (question + 1) order h
      | some ⟨_, .text content⟩ =>
        gather isCancelled files (question + 1) order { h with texts := (i, content) :: h.texts }
      | some ⟨path, .unreadable reason⟩ =>
        gather isCancelled files (question + 1) order
          { h with warnings := h.warnings ++ [⟨path, reason⟩] }
      | some ⟨_, .crash message⟩ => .error (.crashed message)

/-- Looks at the texts in order of the files, with one question before each. A file without a text
adds nothing. -/
def analyzeAll (isCancelled : Nat → Bool) (texts : List (Nat × Text)) :
    (question number : Nat) → List Kept → Progress → Except ScanFault Progress
  | _, _, [], p => .ok p
  | question, number, ⟨_, node⟩ :: rest, p =>
    if isCancelled question then .error .cancelled
    else
      let language := Language.ofExtension? (Path.extension node.path)
      let p :=
        match texts.lookup number with
        | none | some [] => p
        | some content => p.analyze content language node
      analyzeAll isCancelled texts (question + 1) (number + 1) rest p

end Scan

/-- Scans the files with an accepted extension; of several with one path, the first. -/
def scan (options : ScanOptions) (files : List SourceFile) : Except ScanFault ScanResult := do
  let accepted := files.filter fun f => isAccepted options.extensions f.path
  let (p, kept) := Scan.registerAll options.digits accepted
  let count := kept.length
  let harvest ←
    Scan.gather options.isCancelled (kept.map (·.file)) 0 (options.completion count) {}
  let p := { p with events := p.events ++ harvest.warnings.map fun w => .unreadable w.path w.reason }
  let p ← Scan.analyzeAll options.isCancelled harvest.texts count 0 kept p
  let p := p.report
    (.finished accepted.length p.registry.size p.edges.length harvest.warnings.length)
  return {
    graph := { nodes := p.registry.nodes, edges := p.edges }
    warnings := harvest.warnings
    filesSeen := files.length
    filesAccepted := accepted.length
    events := p.events }

end CodeGraph
