import CodeGraph.StandIn.Toml.Layout
import CodeGraph.StandIn.Toml.Value

/-! Reading a settings text, line by line, into nested tables. -/
namespace CodeGraph.StandIn.Toml

inductive Step
  | field (key : Text)
  | lastItem
deriving DecidableEq, Repr

/-- Changes the value that the steps lead to. -/
def atSteps (change : Json → Except Trouble (Json × α)) :
    List Step → Json → Except Trouble (Json × α)
  | [], v => change v
  | .field key :: rest, v =>
    match v with
    | .obj fs =>
      match Fields.get? key fs with
      | some child => do
        let (child, a) ← atSteps change rest child
        return (.obj (Fields.set key child fs), a)
      | none => .error .notATable
    | _ => .error .notATable
  | .lastItem :: rest, v =>
    match v with
    | .arr items =>
      match items.getLast? with
      | some child => do
        let (child, a) ← atSteps change rest child
        return (.arr (items.dropLast ++ [child]), a)
      | none => .error .cutShort
    | _ => .error .notATable

/-- The names between the dots of a table header. Quotes around a name are taken off, and dots
within them belong to it. -/
def headerNames : (fuel : Nat) → List Text → Except Trouble (List Text)
  | 0, _ | _, [] => return []
  | fuel + 1, part :: rest =>
    let part := Text.strip part
    if part.head?.any isMark then
      let closes (t : Text) : Bool := 1 < t.length && t.head? = t.getLast?
      let joined (count : Nat) : Text := Text.strip (Text.join "." (part :: rest.take count))
      match (List.range (rest.length + 1)).find? fun count => closes (joined count) with
      | some count => return inner (joined count) :: (← headerNames fuel (rest.drop count))
      | none => complain (.brokenTableName (joined rest.length))
    else if !part.isEmpty && part.all fun c => c.isAlphanum || c = '_' || c = '-' then
      return part :: (← headerNames fuel rest)
    else complain (.badTableName part)

/-- Whether a header is that of an array of tables, and its names. -/
def header (line : Text) : Except Trouble (Bool × List Text) := do
  let (isArray, line, close) ← match line with
    | [_] => complain .loneBracket
    | _ :: '[' :: r => pure (true, r, "]]".toList)
    | _ :: r => pure (false, r, "]".toList)
    | [] => complain .loneBracket
  let count := firstOutside close false (quoteParts line)
  let pieces := Text.splitFirst close count line
  if pieces.length < count + 1 || !(Text.strip (pieces.getLastD [])).isEmpty then
    complain .tableNotAlone
  let parts := Text.split '.' (Text.join close pieces.dropLast)
  return (isArray, ← headerNames (parts.length + 1) parts)

def newTable (isLast isArray : Bool) : Json :=
  if isLast && isArray then .arr [.obj []] else .obj []

/-- After a name of an array of tables, the last table of an array is meant. -/
def intoArray (isArray : Bool) (v : Json) : Except Trouble (List Step) :=
  if !isArray then .ok []
  else
    match v with
    | .obj _ | .str (_ :: _) => .ok []
    | .arr [] | .str [] => .error .cutShort
    | .arr _ => .ok [.lastItem]
    | _ => .error .notATable

def descend (isArray : Bool)
    (go : (implicit : List Text) → Json → Except Trouble (Json × List Step × List Text))
    (implicit : List Text) (child : Json) : Except Trouble (Json × List Step × List Text) := do
  match ← intoArray isArray child, child with
  | [.lastItem], .arr items =>
    let (last, steps, implicit) ← go implicit (items.getLastD .null)
    return (.arr (items.dropLast ++ [last]), .lastItem :: steps, implicit)
  | _, _ => go implicit child

/-- Makes the tables that the names of a header stand for. Given back are the value, the steps to
the last table, and the names of tables that so far exist only as parts of longer headers. -/
def enter (isArray : Bool) : (names : List Text) → (implicit : List Text) → Json →
    Except Trouble (Json × List Step × List Text)
  | [], implicit, v => .ok (v, [], implicit)
  | name :: rest, implicit, v =>
    if name.isEmpty then complain .emptyTableName
    else
      match v with
      | .obj fs => do
        let (child, implicit) ←
          match Fields.get? name fs with
          | none =>
            pure (newTable rest.isEmpty isArray,
              if rest.isEmpty then implicit else implicit ++ [name])
          | some child =>
            if !rest.isEmpty then pure (child, implicit)
            else if implicit.contains name then
              if isArray then complain .implicitTableArray
              else pure (child, implicit.erase name)
            else if isArray then
              match child with
              | .arr items => pure (.arr (items ++ [.obj []]), implicit)
              | _ => .error .notATable
            else complain (.tableExists name v)
        let (child, steps, implicit) ← descend isArray (enter isArray rest) implicit child
        return (.obj (Fields.set name child fs), .field name :: steps, implicit)
      | .arr items =>
        match items.getLast? with
        | none => .error .cutShort
        | some (.obj fs) => do
          let child := (Fields.get? name fs).getD (newTable rest.isEmpty isArray)
          let (child, steps, implicit) ← descend isArray (enter isArray rest) implicit child
          return (.arr (items.dropLast ++ [.obj (Fields.set name child fs)]),
            .lastItem :: .field name :: steps, implicit)
        | some _ => .error .notATable
      | .str [] => .error .cutShort
      | _ => .error .notATable

/-- The tables so far, the table at hand, and a string that is still open. -/
structure Reading where
  root : Json := .obj []
  steps : List Step := []
  implicit : List Text := []
  opened : Option OpenString := none

namespace Reading

def close (r : Reading) (key : Text) (value : Json) : Except Trouble Reading := do
  let put : Json → Except Trouble (Json × Unit)
    | .obj fs => return (.obj (Fields.set key value fs), ())
    | _ => .error .notATable
  let (root, _) ← atSteps put r.steps r.root
  return { r with root, opened := none }

def continueString (r : Reading) (s : OpenString) (line : Text) : Except Trouble Reading := do
  let text := s.text ++ line
  let mark := text.head?
  let closed : Bool ←
    if mark = some '[' then
      match line.getLast? with
      | some c => pure (c == ']')
      | none => .error .cutShort
    else pure (2 < line.length && (line.reverse.take 3).all fun c => some c == mark)
  if closed then
    let (value, _) ← readValue (fuelFor text) text true
    r.close s.key value
  else
    let joined := endsEscaped text
    let text := if joined then text.dropLast else text ++ ['\n']
    return { r with opened := some { s with text, joined } }

def readLine (r : Reading) (line : Text) : Except Trouble Reading := do
  match line with
  | [] => return r
  | '[' :: _ =>
    let (isArray, names) ← header line
    let (root, steps, implicit) ← enter isArray names r.implicit r.root
    return { r with root, steps, implicit }
  | '\x7b' :: _ =>
    if line.getLast? ≠ some '\x7d' then complain .brokenInlineTable
    let add (table : Json) : Except Trouble (Json × Unit) := do
      return (← readInline (fuelFor line) line table, ())
    let (root, _) ← atSteps add r.steps r.root
    return { r with root }
  | _ =>
    if line.contains '=' then
      let (root, opened) ← atSteps (readAssignment (fuelFor line) line) r.steps r.root
      return { r with root, opened }
    else return r

/-- Blanks at the ends of a line count only within a string of several lines. -/
def step (r : Reading) (line : Text) : Except Trouble Reading :=
  match r.opened with
  | none => r.readLine (Text.strip line)
  | some s =>
    let line := if s.joined || !s.text.contains '\n' then Text.strip line else line
    if line.isEmpty && s.joined then .ok r else r.continueString s line

def run : (offset : Nat) → Reading → List Text → Except Fault Reading
  | _, r, [] => .ok r
  | offset, r, line :: rest =>
    match r.step line with
    | .ok r => run (offset + line.length + 1) r rest
    | .error trouble => .error ⟨trouble, offset⟩

end Reading

def read (source : Text) : Except Fault Fields := do
  let lines ← Layout.lines source
  let r ← Reading.run 0 {} lines
  match r.root with
  | .obj fs => return fs
  | _ => return []

end CodeGraph.StandIn.Toml
