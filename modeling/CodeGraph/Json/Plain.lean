import CodeGraph.Json.Writer
import CodeGraph.Text.Quoted

/-! The plain text of a value, for use as an identifier, a name or a path. -/
namespace CodeGraph.Json

def plainNumberStyle : Binary64.Style := ⟨-4, 16, 2, "nan", "inf"⟩

mutual

/-- The text of a value inside another one, where strings are quoted. -/
def shown : Json → Text
  | .null => "None"
  | .bool b => if b then "True" else "False"
  | .int n => Text.ofInt n
  | .real x => x.write plainNumberStyle
  | .str t => Text.quoted t
  | .arr [] => "[]"
  | .arr (item :: items) => '[' :: shown item ++ shownItems items ++ [']']
  | .obj [] => ['\x7b', '\x7d']
  | .obj ((key, value) :: fields) =>
    '\x7b' :: Text.quoted key ++ ": " ++ shown value ++ shownFields fields ++ ['\x7d']

def shownItems : List Json → Text
  | [] => []
  | item :: items => ", " ++ shown item ++ shownItems items

def shownFields : List (Text × Json) → Text
  | [] => []
  | (key, value) :: fields =>
    ", " ++ Text.quoted key ++ ": " ++ shown value ++ shownFields fields

end

/-- A string is its own text; any other value is shown. -/
def plain : Json → Text
  | .str t => t
  | v => shown v

end CodeGraph.Json
