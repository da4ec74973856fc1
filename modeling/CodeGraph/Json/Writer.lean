import CodeGraph.Json.Basic
import CodeGraph.Decimal.Shortest

/-! Writing JSON text in ASCII, on one line or with one item a line. -/
namespace CodeGraph.Json

def codeEscape (n : Nat) : Text :=
  "\\u" ++ Text.hex 4 n

/-- A character within a string. Whatever is not printable ASCII is written in code units. -/
def escapeChar (c : Char) : Text :=
  if c = '"' then "\\\""
  else if c = '\\' then "\\\\"
  else if c = '\n' then "\\n"
  else if c = '\r' then "\\r"
  else if c = '\t' then "\\t"
  else if c = '\x08' then "\\b"
  else if c = '\x0c' then "\\f"
  else if 32 ≤ c.toNat ∧ c.toNat < 127 then [c]
  else if c.toNat < 0x10000 then codeEscape c.toNat
  else
    let n := c.toNat - 0x10000
    codeEscape (0xD800 + n / 0x400) ++ codeEscape (0xDC00 + n % 0x400)

def writeString (t : Text) : Text :=
  '"' :: t.flatMap escapeChar ++ ['"']

/-- The shortest digits, positional from 0.0001 to below 10^16. -/
def numberStyle : Binary64.Style := ⟨-4, 16, 2, "NaN", "Infinity"⟩

/-- How items are set: on one line, or each on its own, two more blanks in. -/
inductive Layout
  | inline
  | indented
deriving DecidableEq, Repr

def Layout.edge : Layout → Nat → Text
  | .inline, _ => []
  | .indented, depth => '\n' :: List.replicate (2 * depth) ' '

def Layout.gap : Layout → Nat → Text
  | .inline, _ => ", "
  | .indented, depth => ',' :: Layout.indented.edge depth

mutual

def write (layout : Layout) (depth : Nat) : Json → Text
  | .null => "null"
  | .bool b => if b then "true" else "false"
  | .int n => Text.ofInt n
  | .real x => x.write numberStyle
  | .str t => writeString t
  | .arr [] => "[]"
  | .arr (item :: items) =>
    '[' :: layout.edge (depth + 1) ++ write layout (depth + 1) item ++
      writeItems layout (depth + 1) items ++ layout.edge depth ++ [']']
  | .obj [] => ['\x7b', '\x7d']
  | .obj ((key, value) :: fields) =>
    '\x7b' :: layout.edge (depth + 1) ++ writeString key ++ ": " ++
      write layout (depth + 1) value ++ writeFields layout (depth + 1) fields ++
      layout.edge depth ++ ['\x7d']

def writeItems (layout : Layout) (depth : Nat) : List Json → Text
  | [] => []
  | item :: items =>
    layout.gap depth ++ write layout depth item ++ writeItems layout depth items

def writeFields (layout : Layout) (depth : Nat) : List (Text × Json) → Text
  | [] => []
  | (key, value) :: fields =>
    layout.gap depth ++ writeString key ++ ": " ++ write layout depth value ++
      writeFields layout depth fields

end

def inlineText (v : Json) : Text :=
  write .inline 0 v

def indentedText (v : Json) : Text :=
  write .indented 0 v

end CodeGraph.Json
