import CodeGraph.Text.Utf8

/-! Folders with files, links and folders in them. -/
namespace CodeGraph

/-- The target of a link counts from the folder that the link is in. -/
inductive Entry
  | file (content : Bytes)
  | link (target : Text)
  | folder (items : List (Text × Entry))

/-- Names of folders from the top down, with the name of the entry last. -/
abbrev Location := List Text

namespace Entry

def isFile : Entry → Bool
  | .file _ => true
  | _ => false

def isFolder : Entry → Bool
  | .folder _ => true
  | _ => false

def items : Entry → List (Text × Entry)
  | .folder items => items
  | _ => []

/-- The entry at a location. Links are not followed. -/
def at? : Location → Entry → Option Entry
  | [], e => some e
  | name :: rest, e => (e.items.lookup name).bind (at? rest)

def setItem (name : Text) (e : Entry) : List (Text × Entry) → List (Text × Entry)
  | [] => [(name, e)]
  | (n, x) :: r => if n = name then (name, e) :: r else (n, x) :: setItem name e r

/-- Puts an entry at a location. Folders on the way are made as needed. -/
def put (e : Entry) : Location → (new : Entry) → Entry
  | [], new => new
  | name :: rest, new =>
    .folder (setItem name (put ((e.items.lookup name).getD (.folder [])) rest new) e.items)

end Entry
end CodeGraph
