import CodeGraph.StandIn.Console.Handler
import CodeGraph.StandIn.Console.Style
import CodeGraph.StandIn.Console.Emoji
import CodeGraph.Text.Split

/-! Style tags in square brackets, which a text loses on a console without colors. -/
namespace CodeGraph.StandIn

/-- What is wrong with tags: one closes what is not open, a handler has parameters that are no
values, or a color has parts that are no numbers. -/
inductive MarkupFault
  | strayTag
  | badParameters
  | brokenColor
deriving DecidableEq, Repr

def MarkupFault.message : MarkupFault → Text
  | .strayTag => "a closing tag without its style"
  | .badParameters => "a handler with parameters that are no values"
  | .brokenColor => "a color with parts that are no numbers"

namespace Markup

structure Tag where
  escapes : Nat
  body : Text
deriving DecidableEq, Repr

def opensTag (c : Char) : Bool :=
  'a' ≤ c && c ≤ 'z' || c = '#' || c = '/' || c = '@'

/-- The tag that starts here, with what follows it. -/
def tag? (t : Text) : Option (Tag × Text) :=
  let (backslashes, rest) := t.span (· = '\\')
  match rest with
  | '[' :: c :: r =>
    if opensTag c then
      match r.span fun c => c ≠ '[' && c ≠ ']' with
      | (body, ']' :: rest) => some (⟨backslashes.length, c :: body⟩, rest)
      | _ => none
    else none
  | _ => none

inductive Piece
  | text (t : Text)
  | tag (t : Tag)
deriving DecidableEq, Repr

/-- The pieces of a text; `seen` holds text since the last tag in reverse. -/
def pieces (fuel : Nat) (seen : Text) (t : Text) : List Piece :=
  let flush := if seen.isEmpty then [] else [Piece.text seen.reverse]
  match fuel, t with
  | 0, _ | _, [] => flush
  | fuel + 1, c :: r =>
    match tag? (c :: r) with
    | some (tag, rest) => flush ++ .tag tag :: pieces fuel [] rest
    | none => pieces fuel (c :: seen) r

def piecesOf (t : Text) : List Piece :=
  pieces (t.length + 1) [] t

/-- Doubles the backslashes in front of tags and adds one, so that the tags stay as they are. A
single backslash at the end is doubled. -/
def escape (t : Text) : Text :=
  let t := (piecesOf t).flatMap fun
    | .text t => t
    | .tag ⟨n, body⟩ => List.replicate (2 * n + 1) '\\' ++ '[' :: body ++ [']']
  if Text.endsWith "\\" t && !Text.endsWith "\\\\" t then t ++ ['\\'] else t

def isDropped (c : Char) : Bool :=
  c = '\x07' || c = '\x08' || c = '\x0b' || c = '\x0c' || c = '\r'

/-- Text as it is shown: a backslash in front of a bracket is left out, and emojis replace their
codes. -/
def shownText (t : Text) : Text :=
  (Text.replaceCodes (Text.join "[" (Text.splitAll "\\[" t))).filter fun c => !isDropped c

/-- A style or a handler that is open. What stands behind an equals sign are its parameters. -/
structure Opened where
  name : Text
  parameters : Option Text := none
deriving DecidableEq, Repr

namespace Opened

def isHandler (o : Opened) : Bool :=
  Text.startsWith "@" o.name

def styleText (o : Opened) : Text :=
  match o.parameters with
  | some t => o.name ++ ' ' :: t
  | none => o.name

end Opened

def nameOf (t : Text) : Except MarkupFault Text :=
  match Style.nameOf t with
  | .ok name => .ok name
  | .error _ => .error .brokenColor

def opening (body : Text) : Except MarkupFault Opened :=
  match Text.cut? "=" body with
  | some (name, parameters) => do return ⟨← nameOf name, some parameters⟩
  | none => do return ⟨← nameOf body, none⟩

/-- Takes off what a closing tag closes: the last one of its name, or without a name the last one.
`opened` has the last one first. -/
def close (name : Text) (opened : List Opened) : Except MarkupFault (List Opened) := do
  let name := Text.strip name
  let closed ←
    if name.isEmpty then pure opened.head?
    else do
      let name ← nameOf name
      pure (opened.find? (·.name = name))
  match closed with
  | none => .error .strayTag
  | some o =>
    if o.isHandler && !Handler.areParameters (o.parameters.getD []) then .error .badParameters
    else .ok (opened.erase o)

/-- What the pieces show, and the styles that they open. -/
def readPieces : (opened : List Opened) → List Piece → Except MarkupFault (Text × List Text)
  | _, [] => .ok ([], [])
  | opened, .text t :: rest => do
    let (shown, styles) ← readPieces opened rest
    return (shownText t ++ shown, styles)
  | opened, .tag ⟨n, body⟩ :: rest => do
    let backslashes := List.replicate (n / 2) '\\'
    if n % 2 = 1 then
      let (shown, styles) ← readPieces opened rest
      return (backslashes ++ shownText ('[' :: body ++ [']']) ++ shown, styles)
    else
      match body with
      | '/' :: name =>
        let (shown, styles) ← readPieces (← close (name.takeWhile (· ≠ '=')) opened) rest
        return (backslashes ++ shown, styles)
      | body =>
        let o ← opening body
        let (shown, styles) ← readPieces (o :: opened) rest
        return (backslashes ++ shown, o.styleText :: styles)

def read (t : Text) : Except MarkupFault (Text × List Text) :=
  readPieces [] (piecesOf t)

/-- A console looks styles up when all texts are read. An unknown style changes nothing. -/
def checkStyle (style : Text) : Except MarkupFault Unit :=
  match Style.parse style with
  | .error .brokenColor => .error .brokenColor
  | .error .unknown | .ok _ => .ok ()

def plainText (t : Text) : Except MarkupFault Text := do
  let (shown, styles) ← read t
  styles.forM checkStyle
  return shown

def plainRows (rows : List (List Text)) : Except MarkupFault (List (List Text)) := do
  let shown ← rows.mapM fun row => row.mapM read
  (shown.flatten.flatMap (·.2)).forM checkStyle
  return shown.map fun row => row.map (·.1)

end Markup
end CodeGraph.StandIn
