import CodeGraph.Text.Basic
import CodeGraph.Decimal.Binary64

/-! JSON values, with integers of any size apart from doubles and the order of fields kept. -/
namespace CodeGraph

inductive Json
  | null
  | bool (value : Bool)
  | int (value : Int)
  | real (value : Binary64)
  | str (text : Text)
  | arr (items : List Json)
  | obj (fields : List (Text × Json))
deriving Repr

/-- Fields of an object, in order. -/
abbrev Fields (α : Type := Json) := List (Text × α)

namespace Fields

variable {α : Type}

def keys (fs : Fields α) : List Text :=
  fs.map (·.1)

/-- The value of the first field with this key. -/
def get? (key : Text) : Fields α → Option α
  | [] => none
  | (k, v) :: r => if k = key then some v else get? key r

/-- A known key keeps its place and takes the new value; a new one comes last. -/
def set (key : Text) (value : α) : Fields α → Fields α
  | [] => [(key, value)]
  | (k, v) :: r => if k = key then (key, value) :: r else (k, v) :: set key value r

def erase (key : Text) (fs : Fields α) : Fields α :=
  fs.filter (·.1 ≠ key)

def update (fs new : Fields α) : Fields α :=
  new.foldl (fun acc f => acc.set f.1 f.2) fs

/-- Repeated keys stand at their first place with their last value. -/
def ofPairs (fs : Fields α) : Fields α :=
  update [] fs

end Fields

namespace Json

mutual

def decEq : (a b : Json) → Decidable (a = b)
  | .null, .null => isTrue rfl
  | .bool a, .bool b => if h : a = b then isTrue (h ▸ rfl) else isFalse (by simp [h])
  | .int a, .int b => if h : a = b then isTrue (h ▸ rfl) else isFalse (by simp [h])
  | .real a, .real b => if h : a = b then isTrue (h ▸ rfl) else isFalse (by simp [h])
  | .str a, .str b => if h : a = b then isTrue (h ▸ rfl) else isFalse (by simp [h])
  | .arr a, .arr b =>
    match decEqItems a b with
    | isTrue h => isTrue (h ▸ rfl)
    | isFalse h => isFalse (by simp [h])
  | .obj a, .obj b =>
    match decEqFields a b with
    | isTrue h => isTrue (h ▸ rfl)
    | isFalse h => isFalse (by simp [h])
  | .null, .bool _ | .null, .int _ | .null, .real _ | .null, .str _ | .null, .arr _
  | .null, .obj _ | .bool _, .null | .bool _, .int _ | .bool _, .real _ | .bool _, .str _
  | .bool _, .arr _ | .bool _, .obj _ | .int _, .null | .int _, .bool _ | .int _, .real _
  | .int _, .str _ | .int _, .arr _ | .int _, .obj _ | .real _, .null | .real _, .bool _
  | .real _, .int _ | .real _, .str _ | .real _, .arr _ | .real _, .obj _ | .str _, .null
  | .str _, .bool _ | .str _, .int _ | .str _, .real _ | .str _, .arr _ | .str _, .obj _
  | .arr _, .null | .arr _, .bool _ | .arr _, .int _ | .arr _, .real _ | .arr _, .str _
  | .arr _, .obj _ | .obj _, .null | .obj _, .bool _ | .obj _, .int _ | .obj _, .real _
  | .obj _, .str _ | .obj _, .arr _ => isFalse nofun

def decEqItems : (a b : List Json) → Decidable (a = b)
  | [], [] => isTrue rfl
  | x :: a, y :: b =>
    match decEq x y, decEqItems a b with
    | isTrue h, isTrue k => isTrue (h ▸ k ▸ rfl)
    | isFalse h, _ => isFalse (by simp [h])
    | _, isFalse k => isFalse (by simp [k])
  | [], _ :: _ => isFalse nofun
  | _ :: _, [] => isFalse nofun

def decEqFields : (a b : List (Text × Json)) → Decidable (a = b)
  | [], [] => isTrue rfl
  | (k, x) :: a, (l, y) :: b =>
    if hk : k = l then
      match decEq x y, decEqFields a b with
      | isTrue h, isTrue i => isTrue (hk ▸ h ▸ i ▸ rfl)
      | isFalse h, _ => isFalse (by simp [h])
      | _, isFalse i => isFalse (by simp [i])
    else isFalse (by simp [hk])
  | [], _ :: _ => isFalse nofun
  | _ :: _, [] => isFalse nofun

end

instance : DecidableEq Json := decEq

/-- False values are null, false, zeros and whatever is empty. -/
def truthy : Json → Bool
  | .null => false
  | .bool b => b
  | .int n => n != 0
  | .real x => !x.isZero
  | .str t => !t.isEmpty
  | .arr items => !items.isEmpty
  | .obj fields => !fields.isEmpty

def isObject : Json → Bool
  | .obj _ => true
  | _ => false

mutual

/-- The number of containers inside one another. -/
def depth : Json → Nat
  | .arr items => depthOfItems items + 1
  | .obj fields => depthOfFields fields + 1
  | _ => 0

def depthOfItems : List Json → Nat
  | [] => 0
  | v :: r => max (depth v) (depthOfItems r)

def depthOfFields : List (Text × Json) → Nat
  | [] => 0
  | (_, v) :: r => max (depth v) (depthOfFields r)

end

end Json
end CodeGraph
