import CodeGraph.Json.Plain

/-! The values of settings. -/
namespace CodeGraph.Toml

/-- What holds no other values. A date or a time goes by its text, on its own and within another
value. -/
inductive Scalar
  | null
  | bool (value : Bool)
  | int (value : Int)
  | real (value : Binary64)
  | str (text : Text)
  | moment (text inner : Text)
deriving DecidableEq, Repr

inductive Value
  | scalar (value : Scalar)
  | arr (items : List Value)
  | obj (fields : List (Text × Value))
deriving Repr

abbrev Table := Fields Value

namespace Value

@[match_pattern] abbrev bool (value : Bool) : Value := .scalar (.bool value)

@[match_pattern] abbrev int (value : Int) : Value := .scalar (.int value)

@[match_pattern] abbrev str (text : Text) : Value := .scalar (.str text)

mutual

def decEq : (a b : Value) → Decidable (a = b)
  | .scalar a, .scalar b => if h : a = b then isTrue (h ▸ rfl) else isFalse (by simp [h])
  | .arr a, .arr b =>
    match decEqItems a b with
    | isTrue h => isTrue (h ▸ rfl)
    | isFalse h => isFalse (by simp [h])
  | .obj a, .obj b =>
    match decEqFields a b with
    | isTrue h => isTrue (h ▸ rfl)
    | isFalse h => isFalse (by simp [h])
  | .scalar _, .arr _ | .scalar _, .obj _ | .arr _, .scalar _ | .arr _, .obj _ | .obj _, .scalar _
  | .obj _, .arr _ => isFalse nofun

def decEqItems : (a b : List Value) → Decidable (a = b)
  | [], [] => isTrue rfl
  | x :: a, y :: b =>
    match decEq x y, decEqItems a b with
    | isTrue h, isTrue k => isTrue (h ▸ k ▸ rfl)
    | isFalse h, _ => isFalse (by simp [h])
    | _, isFalse k => isFalse (by simp [k])
  | [], _ :: _ => isFalse nofun
  | _ :: _, [] => isFalse nofun

def decEqFields : (a b : List (Text × Value)) → Decidable (a = b)
  | [], [] => isTrue rfl
  | (k, x) :: a, (l, y) :: b =>
    if hk : k = l then
      match decEq x y, decEqFields a b with
      | isTrue h, isTrue i => isTrue (hk ▸ h ▸ i ▸ rfl)
      | isFalse h, _ => isFalse (by simp [h])
      | _, isFalse i => isFalse (by simp [i])
    else isFalse (by simp [hk])
  | [], _ :: _ => isFalse nofun
  | _ :: _, [] => isFalse nofun

end

instance : DecidableEq Value := decEq

end Value

def Scalar.shown : Scalar → Text
  | .null => "None"
  | .bool b => if b then "True" else "False"
  | .int n => Text.ofInt n
  | .real x => x.write Json.plainNumberStyle
  | .str t => Text.quoted t
  | .moment _ inner => inner

namespace Value

mutual

/-- The text of a value inside another one, where strings are quoted. -/
def shown : Value → Text
  | .scalar v => v.shown
  | .arr [] => "[]"
  | .arr (item :: items) => '[' :: shown item ++ shownItems items ++ [']']
  | .obj [] => ['\x7b', '\x7d']
  | .obj ((key, value) :: fields) =>
    '\x7b' :: Text.quoted key ++ ": " ++ shown value ++ shownFields fields ++ ['\x7d']

def shownItems : List Value → Text
  | [] => []
  | item :: items => ", " ++ shown item ++ shownItems items

def shownFields : List (Text × Value) → Text
  | [] => []
  | (key, value) :: fields =>
    ", " ++ Text.quoted key ++ ": " ++ shown value ++ shownFields fields

end

def plain : Value → Text
  | .scalar (.str t) => t
  | .scalar (.moment t _) => t
  | v => shown v

end Value
end CodeGraph.Toml
