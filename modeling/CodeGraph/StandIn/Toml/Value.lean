import CodeGraph.Decimal.Literal
import CodeGraph.Text.Case
import CodeGraph.StandIn.Toml.Quotes

/-! Values of settings and the lines that assign them. -/
namespace CodeGraph.StandIn.Toml

inductive ItemSort
  | bool
  | string
  | array
  | table
  | integer
  | float
deriving DecidableEq, Repr

/-- A string of three quotes that is still open at the end of its line. `joined` tells that a
backslash ended the line, so that the next one continues it. -/
structure OpenString where
  key : Text
  text : Text
  joined : Bool
deriving DecidableEq, Repr

def digitsFit (number : Text) : Bool :=
  match Text.strip number with
  | [] => false
  | [c] => c ≠ '_'
  | c :: d :: r =>
    let n := c :: d :: r
    if c = '_' || n.getLast? = some '_' || Text.occursIn "_." n || Text.occursIn "._" n then false
    else if c = '0' && !(['.', 'o', 'b', 'x'].contains d) then false
    else
      let n := if c = '+' || c = '-' then d :: r else n
      let leadingZero := match n with
        | '0' :: x :: _ => (c = '+' || c = '-') && x ≠ '.'
        | _ => false
      !leadingZero && !Text.occursIn "__" n

/-- A number after its sign was looked at. A sign in front of a zero double is dropped. -/
def number (v : Text) : Except Trouble (Json × ItemSort) := do
  let (negative, v) := Literal.sign v
  let v := Literal.dropUnderscores v
  let isFloat := v.contains '.' || !v.contains 'x' && (v.contains 'e' || v.contains 'E')
  if isFloat then
    if v.contains '.' && ((Text.splitFirst "." 1 v).getLastD []).isEmpty then complain .noPlaces
    if !(v.head?.any fun c => '0' ≤ c && c ≤ '9') then complain .noLeadingDigit
  let name := Text.lower v
  if isFloat || name = "inf".toList || name = "nan".toList then
    match Literal.float? v with
    | some x => return (.real (if negative && !x.isZero then x.negate else x), .float)
    | none => complain (.notAFloat v)
  else
    let count := (Text.trim v).length
    if Literal.digitLimit < count && (Text.trim v).all Char.isDigit then
      complain (.tooManyDigits count)
    match Literal.basedInteger? v with
    | some n => return (.int (if negative then -n else n), .integer)
    | none => complain (.notAnInteger v)

def startsWithString (array : Text) : Bool :=
  (Text.strip (inner array)).head?.any isMark

/-- The last quote closes the first one of a text. -/
def isBounded (t : Text) : Bool :=
  match t with
  | [] => true
  | first :: r => (r.getLast?.getD first) = first && !endsEscaped r.dropLast

def isCut (t : Text) : Bool :=
  !isBounded t ||
    match t, t.reverse with
    | a :: b :: c :: _, _ :: y :: z :: _ => a = b && b = c && y ≠ a && z ≠ a
    | _, _ => false

def closePiece : (piece : Text) → List Text → Except Trouble (Text × List Text)
  | piece, [] => if isCut (Text.strip piece) then .error .cutShort else .ok (piece, [])
  | piece, next :: rest =>
    if isCut (Text.strip piece) then closePiece (piece ++ ',' :: next) rest
    else .ok (piece, next :: rest)

/-- Joins the pieces of strings that hold commas. The last piece is left as it is. -/
def closePieces : (fuel : Nat) → List Text → Except Trouble (List Text)
  | fuel + 1, piece :: next :: rest => do
    let (piece, rest) ← closePiece piece (next :: rest)
    return piece :: (← closePieces fuel rest)
  | _, pieces => .ok pieces

/-- The texts of inline tables in an array. `group` is the one at hand in reverse, and `depth` the
number of braces open in it. -/
def tableGroups : (fuel : Nat) → (group : Text) → (depth : Nat) → (inString : Bool) → Text →
    List Text
  | 0, _, _, _, _ => []
  | _, _, _, _, [] => []
  | fuel + 1, group, depth, inString, c :: r =>
    let inString :=
      if isMark c then
        let flips := if inString then (group.takeWhile (· = '\\')).length else 0
        if flips % 2 = 0 then !inString else inString
      else inString
    let depth := if c = '\x7b' && !inString then depth + 1 else depth
    if inString || c ≠ '\x7d' then tableGroups fuel (c :: group) depth inString r
    else if 1 < depth then tableGroups fuel (c :: group) (depth - 1) inString r
    else
      (c :: group).reverse ::
        match (r.drop 1).dropWhile (· ≠ '\x7b') with
        | b :: r => tableGroups fuel [b] depth inString r
        | [] => []

def bracketPieces : (depth : Int) → (piece : Text) → Text → List Text
  | _, piece, [] => [piece.reverse]
  | depth, piece, c :: r =>
    if c = '[' then bracketPieces (depth + 1) (c :: piece) r
    else if c = ']' then bracketPieces (depth - 1) (c :: piece) r
    else if c = ',' && depth = 0 then piece.reverse :: bracketPieces depth [] r
    else bracketPieces depth (c :: piece) r

def arrayPieces (array : Text) : Except Trouble (List Text) :=
  let a := Text.strip array
  let body := inner a
  let flat := !body.contains '[' || !(Text.strip (body.takeWhile (· ≠ '['))).isEmpty
  if flat then
    let pieces :=
      if (Text.strip body).head? = some '\x7b' then
        match body with
        | c :: r => tableGroups (r.length + 1) [c] (if c = '\x7b' then 1 else 0) false r
        | [] => []
      else Text.split ',' body
    if startsWithString a then closePieces pieces.length pieces else .ok pieces
  else .ok (bracketPieces 0 [] body)

def isComplete (value : Text) : Except Trouble Bool :=
  match value, value.getLast? with
  | first :: _, some last =>
    .ok (first = last && isMark first || "-0123456789".toList.contains first ||
      value = "true".toList || value = "false".toList || first = '[' && last = ']' ||
      first = '\x7b' && last = '\x7d')
  | _, _ => .error .cutShort

/-- The fields of an inline table, joined where a value goes on behind a comma. -/
def inlineFields : (started : Option Text) → List Text → Except Trouble (List Text)
  | none, [] => return []
  | some _, [] => complain .badInlineValue
  | started, piece :: rest => do
    let field := match started with
      | some t => t ++ ',' :: piece
      | none => piece
    match Text.cut? "=" field with
    | none => complain .badInlineTable
    | some (_, value) =>
      if ← isComplete (Text.strip value) then return field :: (← inlineFields none rest)
      else inlineFields (some field) rest

/-- Changes the table that dotted names lead to. Tables on the way are made as needed, and empty
names are passed over. -/
def within (names : List Text) (table : Json)
    (change : Json → Except Trouble (Json × α)) : Except Trouble (Json × α) :=
  match names with
  | [] => change table
  | name :: rest =>
    if name.isEmpty then within rest table change
    else
      match table with
      | .obj fs => do
        let (child, a) ← within rest ((Fields.get? name fs).getD (.obj [])) change
        return (.obj (Fields.set name child fs), a)
      | _ => .error .notATable

def keyNames : (quoted : Bool) → List Text → List Text
  | _, [] => []
  | true, part :: rest => part :: keyNames false rest
  | false, part :: rest => (Text.split '.' part).map Text.strip ++ keyNames true rest

def keyPath (key : Text) : Except Trouble (List Text × Text) :=
  if key.contains '.' then
    let names :=
      if key.any isMark then keyNames false (quoteParts key) else Text.split '.' key
    match names.reverse.dropWhile (·.isEmpty) with
    | [] => .error .cutShort
    | last :: before => .ok (before.reverse, Text.strip last)
  else
    match key, key.getLast? with
    | first :: _, some last =>
      if first = last && isMark first then (unescape (inner key)).map ([], ·) else .ok ([], key)
    | _, _ => .error .cutShort

/-- Joins the last pieces until the last one starts with a quote. The pieces come in reverse. -/
def lastQuoted : List Text → Except Trouble Text
  | [] => .ok []
  | [piece] => .ok piece
  | piece :: before :: rest =>
    match piece with
    | [] => .error .cutShort
    | c :: _ => if isMark c then .ok piece else lastQuoted ((before ++ ',' :: piece) :: rest)
termination_by pieces => pieces.length

/-- The length of the string of three quotes that the value leaves open, if it does. -/
def openLength? (value : Text) : Except Trouble (Option Nat) := do
  if value.length < 3 then return none
  let p ←
    if value.head? = some '[' && (Text.strip value).getLast? ≠ some ']' && startsWithString value
    then lastQuoted (Text.split ',' (Text.strip (value.drop 1))).reverse
    else pure value
  match p with
  | [] => .error .cutShort
  | a :: rest =>
    if !isMark a then return none
    match rest with
    | [] => .error .cutShort
    | b :: rest =>
      if b ≠ a then return none
      match rest with
      | [] => .error .cutShort
      | c :: _ =>
        if c ≠ a then return none
        let closed := 5 < p.length && (p.reverse.take 3).all (· = a)
        return if closed then none else some p.length

/-- Splits a line at the sign in front of the value. An unquoted value that is no number is tried
again behind the next sign. -/
def splitAssignment (line : Text) : (tries signs : Nat) → (pair : List Text) → (fits : Bool) →
    Except Trouble (List Text × Bool)
  | 0, _, pair, fits => .ok (pair, fits)
  | tries + 1, signs, pair, fits =>
    let value := pair.getLastD []
    match value with
    | [] => .ok (pair, fits)
    | c :: _ =>
      let trimmed := Text.strip value
      if [' ', '\t', '\'', '"', '[', '\x7b'].contains c || trimmed = "true".toList ||
          trimmed = "false".toList || (Literal.float? value).isSome then .ok (pair, fits)
      else
        let next := Text.splitFirst "=" (signs + 1) line
        if next.getLastD [] = value then complain .badNumberOrDate
        else splitAssignment line tries (signs + 1) next (fits && digitsFit (next.getLastD []))

/-- The key and the value of a line, and whether the value is fit for a number. -/
def assignmentParts (line : Text) : Except Trouble (Text × Text × Bool) := do
  let signs := firstOutside "=" false (quoteParts line)
  let pair := Text.splitFirst "=" signs line
  let last := pair.getLastD []
  let cleaned :=
    if last.head?.any fun c => '0' ≤ c && c ≤ '9' then Literal.dropUnderscores last else last
  let (pair, fits) ←
    splitAssignment line (line.length + 1) signs (pair.dropLast ++ [cleaned]) (digitsFit last)
  return (Text.strip (Text.join "=" pair.dropLast), Text.strip (pair.getLastD []), fits)

def assign (key : Text) (value : Json) : Json → Except Trouble Json
  | .obj fs =>
    match Fields.get? key fs with
    | some _ => complain .duplicateKey
    | none => return .obj (Fields.set key value fs)
  | _ => complain .duplicateKey

mutual

def readValue (fuel : Nat) (v : Text) (fits : Bool) : Except Trouble (Json × ItemSort) :=
  match fuel with
  | 0 => complain .emptyValue
  | fuel + 1 =>
    match v with
    | [] => complain .emptyValue
    | c :: _ =>
      if v = "true".toList then return (.bool true, .bool)
      else if Text.lower v = "true".toList then complain .badBoolean
      else if v = "false".toList then return (.bool false, .bool)
      else if Text.lower v = "false".toList then complain .badBoolean
      else if isMark c then do return (.str (← stringText v), .string)
      else if c = '[' then do
        let items ← readItems fuel none (← arrayPieces v)
        return (.arr items, .array)
      else if c = '\x7b' then do return (← readInline fuel v (.obj []), .table)
      else if !fits then complain .badDigits
      else number v

/-- Reads the items of an array, all of one sort. Blank pieces are passed over. -/
def readItems (fuel : Nat) (sort : Option ItemSort) (pieces : List Text) :
    Except Trouble (List Json) :=
  match fuel with
  | 0 => complain .emptyValue
  | fuel + 1 =>
    match pieces with
    | [] => return []
    | piece :: rest =>
      match Text.strip piece with
      | [] => readItems fuel sort rest
      | piece => do
        let (item, s) ← readValue fuel piece true
        if sort.any (· ≠ s) then complain .mixedArray
        return item :: (← readItems fuel (some s) rest)

def readInline (fuel : Nat) (line : Text) (table : Json) : Except Trouble Json :=
  match fuel with
  | 0 => complain .emptyValue
  | fuel + 1 =>
    match Text.split ',' (inner line) with
    | [only] =>
      if (Text.strip only).isEmpty then return table
      else do readFields fuel (← inlineFields none [only]) table
    | pieces => do readFields fuel (← inlineFields none pieces) table

def readFields (fuel : Nat) (fields : List Text) (table : Json) : Except Trouble Json :=
  match fuel with
  | 0 => complain .emptyValue
  | fuel + 1 =>
    match fields with
    | [] => return table
    | field :: rest => do
      match ← readAssignment fuel field table with
      | (table, none) => readFields fuel rest table
      | (table, some _) => return table

/-- Adds what a line assigns to a table. A string that stays open is given back. -/
def readAssignment (fuel : Nat) (line : Text) (table : Json) :
    Except Trouble (Json × Option OpenString) :=
  match fuel with
  | 0 => complain .emptyValue
  | fuel + 1 => do
    let (key, value, fits) ← assignmentParts line
    let (names, name) ← keyPath key
    let outcome : Except Trouble (Option Json × Option OpenString) := do
      match ← openLength? value with
      | some size =>
        let joined := endsEscaped (value.drop (value.length - size))
        return (none, some ⟨name, if joined then value.dropLast else value ++ ['\n'], joined⟩)
      | none =>
        let (v, _) ← readValue fuel value fits
        return (some v, none)
    within names table fun t => do
      match ← outcome with
      | (some v, opened) => return (← assign name v t, opened)
      | (none, opened) => do
        let _ ← assign name .null t
        if name.isEmpty then .error .namelessString else return (t, opened)

end

/-- Fuel for any text of this length: each step takes a piece off or a shorter text on. -/
def fuelFor (t : Text) : Nat :=
  6 * t.length + 8

end CodeGraph.StandIn.Toml
