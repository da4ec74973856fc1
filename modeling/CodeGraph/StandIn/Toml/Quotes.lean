import CodeGraph.Text.Split
import CodeGraph.StandIn.Toml.Fault

/-! Quoted parts of a settings line: where they lie, and what their escapes stand for. -/
namespace CodeGraph.StandIn.Toml

def complain (c : Complaint) : Except Trouble α :=
  .error (.malformed c)

def isMark (c : Char) : Bool :=
  c == '"' || c == '\''

def inner (t : Text) : Text :=
  (t.drop 1).dropLast

def endsEscaped (t : Text) : Bool :=
  (t.reverse.takeWhile (· = '\\')).length % 2 = 1

/-- Adds double-quoted pieces to one that a single quote opened, until the single quotes match. -/
def closeSingle : (singles : List Text) → (doubles : List Text) → List Text × List Text
  | singles, [] => (singles, [])
  | singles, d :: ds =>
    if singles.length % 2 = 0 then
      let last := singles.getLastD [] ++ '"' :: d
      closeSingle (singles.dropLast ++ Text.split '\'' last) ds
    else (singles, d :: ds)

/-- The parts of a line outside and within quotes, by turns. After the first part that a double
quote ends, single quotes do not count any more. -/
def quoteParts (line : Text) : List Text :=
  match Text.split '"' line with
  | first :: rest =>
    if !rest.isEmpty && first.contains '\'' then
      match closeSingle (Text.split '\'' first) rest with
      | (singles, d :: ds) => singles ++ Text.split '\'' d ++ ds
      | (singles, []) => singles
    else Text.split '\'' first ++ rest
  | [] => []

/-- The number of separators up to and with the first one outside quotes. -/
def firstOutside (sep : Text) : (quoted : Bool) → List Text → Nat
  | _, [] => 1
  | quoted, part :: rest =>
    if !quoted && Text.occursIn sep part then 1
    else Text.countOf sep part + firstOutside sep (!quoted) rest

def escape? : Char → Option Char
  | '0' => some '\x00'
  | 'b' => some '\x08'
  | 'f' => some '\x0c'
  | 'n' => some '\n'
  | 'r' => some '\r'
  | 't' => some '\t'
  | '"' => some '"'
  | _ => none

def unescape : Text → Except Trouble Text
  | '\\' :: c :: r =>
    match escape? c with
    | some x => return x :: (← unescape r)
    | none =>
      if c = '\\' then return '\\' :: (← unescape r)
      else if c = 'u' ∨ c = 'U' then return '\\' :: c :: (← unescape r)
      else complain .reservedEscape
  | c :: r => return c :: (← unescape r)
  | [] => return []

def isHexDigit (c : Char) : Bool :=
  '0' ≤ c && c ≤ '9' || 'a' ≤ c && c ≤ 'f'

/-- The character of a code point in hexadecimal digits. -/
def codePoint (digits : Text) : Except Trouble Char := do
  if !digits.all isHexDigit then complain (.badCodeEscape digits)
  match digits with
  | [] => .error .cutShort
  | ['d'] => .error .cutShort
  | 'd' :: second :: _ => if '7' < second then complain (.surrogateEscape digits)
  | _ => pure ()
  let n := digits.foldl (fun n d => n * 16 + if d ≤ '9' then d.toNat - 48 else d.toNat - 87) 0
  if 0x7FFFFFFF < n then .error .hugeCodePoint
  else if 0x10FFFF < n then complain .codePointRange
  else return if 0xD800 ≤ n ∧ n < 0xE000 then '\uFFFD' else Char.ofNat n

/-- Replaces the escapes in the pieces of a text between `mark`, which `size` digits follow. With
`skip`, the mark before the next piece is escaped itself. -/
def codeEscapes (mark : Text) (size : Nat) : (skip : Bool) → List Text → Except Trouble Text
  | _, [] => return []
  | true, piece :: rest => return mark ++ piece ++ (← codeEscapes mark size (endsEscaped piece) rest)
  | false, piece :: rest => do
    let digits := (piece.take size).map Char.toLower
    return (← codePoint digits) :: piece.drop size ++ (← codeEscapes mark size false rest)

def replaceCodeEscapes (mark : Text) (size : Nat) (t : Text) : Except Trouble Text :=
  match Text.splitAll mark t with
  | first :: rest => return first ++ (← codeEscapes mark size (endsEscaped first) rest)
  | [] => return []

/-- Only known escapes stand behind the backslashes of these pieces. -/
def checkEscapes : (escaped : Bool) → List Text → Except Trouble Unit
  | _, [] => return ()
  | escaped, [] :: rest => checkEscapes (!escaped) rest
  | escaped, (c :: _) :: rest =>
    if (escape? c).isNone && c ≠ 'u' && c ≠ 'U' && !escaped then complain .reservedEscape
    else checkEscapes false rest

/-- Nothing but quotes follows the quote that closes a string. `quotes` counts the empty pieces of
a string of three quotes since its last other piece. -/
def checkClosed (triple : Bool) :
    (closed : Bool) → (quotes : Nat) → List Text → Except Trouble Unit
  | _, _, [] => return ()
  | closed, quotes, [] :: rest =>
    if triple then checkClosed triple closed (quotes + 1) rest
    else checkClosed triple true quotes rest
  | closed, quotes, piece :: rest =>
    if endsEscaped piece then checkClosed triple closed quotes rest
    else if closed then complain .textAfterString
    else if !triple || 1 < quotes then checkClosed triple true quotes rest
    else checkClosed triple closed 0 rest

def stringText (v : Text) : Except Trouble Text := do
  let mark := v.headD '"'
  match Text.split mark (v.drop 1) with
  | [] :: [] :: pieces => checkClosed true false 0 pieces
  | pieces => checkClosed false false 0 pieces
  let v ←
    if mark = '"' then do
      checkEscapes false ((Text.split '\\' v).drop 1)
      let v ← replaceCodeEscapes "\\u" 4 v
      let v ← replaceCodeEscapes "\\U" 8 v
      unescape v
    else pure v
  match v with
  | [_, b] => return if b = mark then [] else inner v
  | _ :: b :: c :: _ => return if b = mark ∧ b = c then inner ((v.drop 2).dropLast.dropLast) else inner v
  | _ => return inner v

end CodeGraph.StandIn.Toml
