import CodeGraph.Folder.Entry
import CodeGraph.Text.Quoted

/-! Looking up paths, with links followed. -/
namespace CodeGraph

inductive PathFault
  | missing
  | occupied
  | notAFolder
  | isAFolder
  | tooManyLinks
  | tooLong
  | zeroCharacter
deriving DecidableEq, Repr

def PathFault.message (path : Text) : PathFault → Text
  | .missing => "[Errno 2] No such file or directory: " ++ Text.quoted path
  | .occupied => "[Errno 17] File exists: " ++ Text.quoted path
  | .notAFolder => "[Errno 20] Not a directory: " ++ Text.quoted path
  | .isAFolder => "[Errno 21] Is a directory: " ++ Text.quoted path
  | .tooManyLinks => "[Errno 40] Too many levels of symbolic links: " ++ Text.quoted path
  | .tooLong => "[Errno 36] File name too long: " ++ Text.quoted path
  | .zeroCharacter => "embedded null byte"

namespace Lookup

/-- Where a walk along a path ends: at an entry, at a free name in a folder, or at a link with more
to go. -/
inductive Stop
  | taken (place : Location)
  | vacant (place : Location)
  | link (folder : Location) (target : Text) (rest : List Text)
  | failed (fault : PathFault)
deriving DecidableEq, Repr

/-- The length of the longest name in bytes. -/
def nameLimit : Nat := 255

def pathLimit : Nat := 4095

def byteSize (t : Text) : Nat :=
  (Utf8.encode t).length

/-- Walks as far as the first link. Empty segments and `.` stay, `..` leads to the parent. -/
def walk (top : Entry) : (here : Location) → (segments : List Text) → Stop
  | here, [] => .taken here
  | here, s :: rest =>
    if s = [] ∨ s = ['.'] then walk top here rest
    else if s = ['.', '.'] then walk top here.dropLast rest
    else if nameLimit < byteSize s then .failed .tooLong
    else
      match top.at? (here ++ [s]) with
      | some (.folder _) => walk top (here ++ [s]) rest
      | some (.file _) => if rest.isEmpty then .taken (here ++ [s]) else .failed .notAFolder
      | some (.link target) => .link here target rest
      | none => if rest.isEmpty then .vacant (here ++ [s]) else .failed .missing

def start (here : Location) (path : Text) : Location :=
  if Text.startsWith "/" path then [] else here

/-- Follows at most `links` links. The answer is a place without links on the way, and whether
there is an entry. -/
def follow (top : Entry) : (links : Nat) → Stop → Except PathFault (Location × Bool)
  | _, .taken place => .ok (place, true)
  | _, .vacant place => .ok (place, false)
  | _, .failed fault => .error fault
  | 0, .link .. => .error .tooManyLinks
  | links + 1, .link folder target rest =>
    follow top links (walk top (start folder target) (Text.split '/' target ++ rest))

def linkLimit : Nat := 40

def locate (top : Entry) (here : Location) (path : Text) : Except PathFault (Location × Bool) :=
  if path.contains '\x00' then .error .zeroCharacter
  else if path.isEmpty then .error .missing
  else if pathLimit < byteSize path then .error .tooLong
  else follow top linkLimit (walk top (start here path) (Text.split '/' path))

def find? (top : Entry) (here : Location) (path : Text) : Option (Location × Entry) :=
  match locate top here path with
  | .ok (place, true) => (top.at? place).map (place, ·)
  | _ => none

def content (top : Entry) (here : Location) (path : Text) : Except PathFault Bytes := do
  let (place, _) ← locate top here path
  match top.at? place with
  | some (.file content) => .ok content
  | some (.folder _) => .error .isAFolder
  | some (.link _) | none => .error .missing

def putContent (top : Entry) (here : Location) (path : Text) (content : Bytes) :
    Except PathFault Entry := do
  let (place, _) ← locate top here path
  match top.at? place with
  | some (.folder _) => .error .isAFolder
  | _ => .ok (top.put place (.file content))

def lead (top : Entry) (here : Location) (names : List Text) : Except PathFault (Location × Bool) :=
  follow top linkLimit (walk top here names)

/-- Makes a folder under a name in the one that the names `above` lead to, unless there is one. -/
def makeFolder (here : Location) (top : Entry) (above : List Text) (name : Text) :
    Except PathFault Entry :=
  match lead top here (above ++ [name]), lead top here above with
  | .ok (place, true), _ => if (top.at? place).any Entry.isFolder then .ok top else .error .occupied
  | _, .error fault => .error fault
  | _, .ok (folder, _) =>
    match top.at? folder, top.at? (folder ++ [name]) with
    | some (.folder _), none =>
      if nameLimit < byteSize name then .error .tooLong
      else .ok (top.put (folder ++ [name]) (.folder []))
    | some (.folder _), some _ => .error .occupied
    | some _, _ => .error .notAFolder
    | none, _ => .error .missing

/-- Makes the folder that names lead to, and those above it if they are missing. The names come from
the last one up. -/
def makeFolders (here : Location) (top : Entry) : (names : List Text) → Except PathFault Entry
  | [] => .ok top
  | name :: above =>
    match makeFolder here top above.reverse name with
    | .error .missing => do makeFolder here (← makeFolders here top above) above.reverse name
    | made => made

def putFolder (top : Entry) (here : Location) (path : Text) : Except PathFault Entry :=
  if path.contains '\x00' then .error .zeroCharacter
  else if pathLimit < byteSize path then .error .tooLong
  else
    let names := (Text.split '/' path).filter fun s => s ≠ [] ∧ s ≠ ['.']
    makeFolders (start here path) top names.reverse

end Lookup
end CodeGraph
