import CodeGraph.Json.Plain
import CodeGraph.Text.Split
import CodeGraph.StandIn.Toml.Fault

/-! Writing nested tables as a settings text. Plain values of a table come first, then its arrays of
tables, and the tables within it after all tables of its level. -/
namespace CodeGraph.StandIn.Toml

/-- Adds the mark of a two-digit code escape to the text in front of it. After an odd number of
backslashes it stays as it is, otherwise it becomes a mark of four digits. -/
def withMark (t : Text) : Text :=
  let t := Text.join "\\" (Text.splitAll "\\\\" t)
  let run := (t.reverse.takeWhile (· = '\\')).length
  let odd := (if run = t.length then run - 1 else run) % 2 = 1
  t ++ (if run = 0 ∨ odd then "x" else "u00")

/-- Joins the pieces between the marks of two-digit code escapes. A first piece that is empty is
left out with its mark. -/
def joinEscapes : List Text → Except Trouble Text
  | [piece] => .ok piece
  | [] :: first :: next :: rest =>
    if first.isEmpty then .error .cutShort
    else .ok ((next :: rest).foldl (fun t piece => withMark t ++ piece) first)
  | [] :: _ | [] => .error .cutShort
  | first :: rest => .ok (rest.foldl (fun t piece => withMark t ++ piece) first)

def writeString (t : Text) : Except Trouble Text := do
  let shown := Text.quoted t
  let body := (shown.drop 1).dropLast
  let body :=
    if shown.head? = some '\'' then
      Text.replaceChar '"' "\\\"" (Text.join "'" (Text.splitAll "\\'" body))
    else body
  return '"' :: (← joinEscapes (Text.splitAll "\\x" body)) ++ ['"']

/-- A key that needs no quotes. A line break at its end is passed over. -/
def isBare (key : Text) : Bool :=
  let body := if key.getLast? = some '\n' then key.dropLast else key
  !body.isEmpty && body.all fun c => c.isAlphanum || c = '_' || c = '-'

def writeKey (key : Text) : Except Trouble Text :=
  if isBare key then .ok key else writeString key

/-- As in other texts, but with no zeros in front of an exponent. -/
def numberStyle : Binary64.Style := ⟨-4, 16, 1, "nan", "inf"⟩

def writeKeys : Fields → Except Trouble Text
  | [] => .ok []
  | (key, _) :: rest => do return ' ' :: (← writeString key) ++ ',' :: (← writeKeys rest)

mutual

/-- The text of a value on one line. A table in an array is written as the array of its keys. -/
def writeValue : Json → Except Trouble Text
  | .null => .ok "\"None\""
  | .bool b => .ok (if b then "true" else "false")
  | .int n => .ok (Text.ofInt n)
  | .real x => .ok (x.write numberStyle)
  | .str t => writeString t
  | .arr items => do return '[' :: (← writeItems items) ++ [']']
  | .obj fields => do return '[' :: (← writeKeys fields) ++ [']']

def writeItems : List Json → Except Trouble Text
  | [] => .ok []
  | item :: items => do return ' ' :: (← writeValue item) ++ ',' :: (← writeItems items)

end

/-- What is written of one table: the lines of its plain values, those of its arrays of tables, and
the tables within it, which are written later. -/
structure Section where
  values : Text := []
  arrays : Text := []
  tables : Fields := []

def Section.lines (s : Section) : Text :=
  s.values ++ s.arrays

def nameIn (outer key : Text) : Text :=
  if outer.isEmpty then key else outer ++ '.' :: key

def heading (name : Text) : Text :=
  '[' :: name ++ "]\n".toList

/-- Adds tables and the tables within them, level by level. `add` puts a section with its name behind
a text. -/
def writeLevels (table : (name : Text) → Fields → Except Trouble Section)
    (add : (name : Text) → Section → Text → Text) (outer : Text) :
    (fuel : Nat) → Fields → Text → Except Trouble Text
  | 0, _, text | _, [], text => .ok text
  | fuel + 1, tables, text => do
    let (text, inner) ← tables.foldlM (fun (text, inner) (key, v) => do
      match v with
      | .obj fs =>
        let s ← table (nameIn outer key) fs
        return (add (nameIn outer key) s text,
          s.tables.foldl (fun inner (k, v) => Fields.set (nameIn key k) v inner) inner)
      | _ => return (text, inner)) (text, ([] : Fields))
    writeLevels table add outer fuel inner text

/-- An item of an array of tables, with all that is in it. Only what is empty can stand there
instead of a table. -/
def writeArrayItem (table : (name : Text) → Fields → Except Trouble Section) (fuel : Nat)
    (name : Text) (item : Json) : Except Trouble Text := do
  let s ← match item with
    | .obj fs => table name fs
    | .str [] | .arr [] => pure {}
    | .str (c :: _) => do
      let _ ← writeKey [c]
      .error .notATable
    | .arr (v :: _) => do
      let _ ← writeKey v.plain
      .error .notATable
    | _ => .error .notATable
  let add (inner : Text) (s : Section) (text : Text) : Text :=
    if s.lines.isEmpty then text else text ++ heading inner ++ s.lines
  let body := if s.values.isEmpty then '\n' :: s.arrays else s.lines ++ ['\n']
  return "[[" ++ name ++ "]]\n" ++ (← writeLevels table add name fuel s.tables body)

/-- Adds a field of a table, where null is left out. -/
def writeField (table : (name : Text) → Fields → Except Trouble Section) (fuel : Nat)
    (name : Text) (s : Section) (field : Text × Json) : Except Trouble Section := do
  let key ← writeKey field.1
  let line (v : Json) : Except Trouble Section := do
    return { s with values := s.values ++ key ++ " = ".toList ++ (← writeValue v) ++ ['\n'] }
  match field.2 with
  | .null => return s
  | .obj fs => return { s with tables := Fields.set key (.obj fs) s.tables }
  | .arr items =>
    if items.any (·.isObject) then
      let texts ← items.mapM (writeArrayItem table fuel (nameIn name key))
      return { s with arrays := s.arrays ++ texts.flatten }
    else line (.arr items)
  | v => line v

/-- The fuel bounds the depth of the table. -/
def writeTable : (fuel : Nat) → (name : Text) → Fields → Except Trouble Section
  | 0, _, _ => return {}
  | fuel + 1, name, fs => fs.foldlM (writeField (writeTable fuel) fuel name) {}

def addSection (name : Text) (s : Section) (text : Text) : Text :=
  if s.lines.isEmpty && !s.tables.isEmpty then text
  else
    (if text.isEmpty || Text.endsWith "\n\n" text then text else text ++ ['\n']) ++
      heading name ++ s.lines

def write (fs : Fields) : Except Trouble Text := do
  let fuel := (Json.obj fs).depth + 1
  let top ← writeTable fuel [] fs
  writeLevels (writeTable fuel) addSection [] fuel top.tables top.lines

end CodeGraph.StandIn.Toml
