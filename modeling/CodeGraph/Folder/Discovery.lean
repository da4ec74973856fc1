import CodeGraph.Folder.Lookup
import CodeGraph.Scan.Result

/-! The files below a folder, in order, as the sources of a scan. -/
namespace CodeGraph

namespace Discovery

mutual

/-- Everything below an entry at `here`, with folders in front of what is in them. Links are not
followed. -/
def below (here : Location) : Entry → List (Location × Entry)
  | .file _ | .link _ => []
  | .folder items => belowItems here items

def belowItems (here : Location) : List (Text × Entry) → List (Location × Entry)
  | [] => []
  | (name, e) :: rest => (here ++ [name], e) :: (below (here ++ [name]) e ++ belowItems here rest)

end

def path (p : Location) : Text :=
  Text.join "/" p

def fullPath (p : Location) : Text :=
  '/' :: path p

def isKept (skips : List Text) (p : Location) : Bool :=
  p.dropLast.all fun s => !skips.contains s

/-- The content if the location is that of a file or of a link to one. What there is not is no file,
but a name or a path that is too long for the system breaks the look off. -/
def content? (top : Entry) (p : Location) : Except PathFault (Option Bytes) :=
  match Lookup.content top [] (fullPath p) with
  | .ok content => .ok (some content)
  | .error .tooLong => .error .tooLong
  | .error _ => .ok none

/-- A folder whose path is too long cannot be listed. -/
def isUnlisted (p : Location) (e : Entry) : Bool :=
  e.isFolder && Lookup.pathLimit < Lookup.byteSize (fullPath p)

def look (top : Entry) (base p : Location) : Except PathFault (Option (Location × Bytes)) := do
  return (← content? top (base ++ p)).map (p, ·)

def inOrder (found : List (Location × Bytes)) : List (Location × Bytes) :=
  (Text.sortDistinct (found.map (·.1))).filterMap fun p => (found.lookup p).map (p, ·)

/-- The files below the folder at `base`. All folders are listed before names are skipped. -/
def files (top : Entry) (base : Location) (skips : List Text) :
    Except PathFault (List (Location × Bytes)) :=
  let root := (top.at? base).getD (.file [])
  let met := below [] root
  if (([], root) :: met).any fun (p, e) => isUnlisted (base ++ p) e then .error .tooLong
  else do
    let found ← ((met.map (·.1)).filter (isKept skips)).mapM (look top base)
    return inOrder found.reduceOption

def paths (top : Entry) (base : Location) (skips : List Text) : Except PathFault (List Text) := do
  return (← files top base skips).map fun (p, _) => path p

/-- Stray bytes are replaced, so that the rest of the file still counts. -/
def sourceText (bytes : Bytes) : Text :=
  Text.unifyLineEnds (Utf8.decodeLossy bytes)

/-- A file as a source. `unreadable?` gives the reason why a path cannot be read. -/
def source (unreadable? : Text → Option Text) (file : Location × Bytes) : SourceFile :=
  { path := path file.1
    reading :=
      match unreadable? (path file.1) with
      | some reason => .unreadable reason
      | none => .text (sourceText file.2) }

def sources (top : Entry) (base : Location) (skips : List Text)
    (unreadable? : Text → Option Text := fun _ => none) : Except PathFault (List SourceFile) := do
  return (← files top base skips).map (source unreadable?)

end Discovery
end CodeGraph
