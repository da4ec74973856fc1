import CodeGraph.StandIn.Toml.Reader
import CodeGraph.StandIn.Toml.Writer
import CodeGraph.Toml.Library

/-! A package for settings texts to run the commands with. It knows no dates and no times. -/
namespace CodeGraph.StandIn.Toml

open CodeGraph.Toml (Library Value)

mutual

def ofJson : Json → Value
  | .null => .scalar .null
  | .bool b => .bool b
  | .int n => .int n
  | .real x => .scalar (.real x)
  | .str t => .str t
  | .arr items => .arr (ofItems items)
  | .obj fields => .obj (ofFields fields)

def ofItems : List Json → List Value
  | [] => []
  | item :: items => ofJson item :: ofItems items

def ofFields : List (Text × Json) → List (Text × Value)
  | [] => []
  | (key, value) :: fields => (key, ofJson value) :: ofFields fields

end

mutual

def toJson : Value → Json
  | .scalar .null => .null
  | .bool b => .bool b
  | .int n => .int n
  | .scalar (.real x) => .real x
  | .str t | .scalar (.moment t _) => .str t
  | .arr items => .arr (toItems items)
  | .obj fields => .obj (toFields fields)

def toItems : List Value → List Json
  | [] => []
  | item :: items => toJson item :: toItems items

def toFields : List (Text × Value) → List (Text × Json)
  | [] => []
  | (key, value) :: fields => (key, toJson value) :: toFields fields

end

def Trouble.raised : Trouble → Raised
  | .malformed complaint => ⟨"TomlDecodeError", complaint.message⟩
  | .notATable => ⟨"TypeError", "a value that is no table is used as one"⟩
  | .cutShort => ⟨"IndexError", "the text ends where a character is needed"⟩
  | .hugeCodePoint => ⟨"OverflowError", "a code point is far too large"⟩
  | .namelessString => ⟨"UnboundLocalError", "a string of several lines has an empty key"⟩

def load (t : Text) : Except CodeGraph.Toml.Fault CodeGraph.Toml.Table :=
  match read t with
  | .ok table => .ok (ofFields table)
  | .error ⟨.malformed complaint, offset⟩ => .error (.malformed (complaint.messageAt t offset))
  | .error ⟨trouble, _⟩ => .error (.raised trouble.raised)

def dump (table : CodeGraph.Toml.Table) : Except Raised Text :=
  (write (toFields table)).mapError Trouble.raised

def library : Library := { load, dump }

end CodeGraph.StandIn.Toml
