import CodeGraph.Decimal.Literal
import CodeGraph.Json.Basic
import CodeGraph.Text.Position

/-! Reading JSON text. A fault is placed by the number of characters left from it to the end. -/
namespace CodeGraph.Json

inductive Complaint
  | byteOrderMark
  | expectedValue
  | expectedName
  | expectedColon
  | expectedComma
  | extraData
  | unterminatedString
  | controlCharacter
  | badEscape
  | badCodeEscape
  | hugeNumber
deriving DecidableEq, Repr

structure Fault where
  complaint : Complaint
  left : Nat
deriving DecidableEq, Repr

def isSpace (c : Char) : Bool :=
  c == ' ' || c == '\t' || c == '\n' || c == '\r'

def skipSpace (t : Text) : Text :=
  t.dropWhile isSpace

def hexDigit? (c : Char) : Option Nat :=
  if '0' ≤ c ∧ c ≤ '9' then some (c.toNat - 48)
  else if 'a' ≤ c ∧ c ≤ 'f' then some (c.toNat - 87)
  else if 'A' ≤ c ∧ c ≤ 'F' then some (c.toNat - 55)
  else none

def hexUnit? (a b c d : Char) : Option Nat := do
  let a ← hexDigit? a
  let b ← hexDigit? b
  let c ← hexDigit? c
  let d ← hexDigit? d
  return ((a * 16 + b) * 16 + c) * 16 + d

def isHighSurrogate (n : Nat) : Bool := 0xD800 ≤ n && n < 0xDC00
def isLowSurrogate (n : Nat) : Bool := 0xDC00 ≤ n && n < 0xE000

/-- The character of a code unit. No text can hold a surrogate on its own, so all of these become
one mark: texts that differ in such escapes alone read the same here, though a reader that keeps
surrogates tells them apart. -/
def unitChar (n : Nat) : Char :=
  if isHighSurrogate n || isLowSurrogate n then '\uFFFD' else Char.ofNat n

def pairChar (high low : Nat) : Char :=
  Char.ofNat (0x10000 + (high - 0xD800) * 0x400 + (low - 0xDC00))

def shortEscape? : Char → Option Char
  | '"' => some '"'
  | '\\' => some '\\'
  | '/' => some '/'
  | 'b' => some '\x08'
  | 'f' => some '\x0c'
  | 'n' => some '\n'
  | 'r' => some '\r'
  | 't' => some '\t'
  | _ => none

/-- The rest of a string after its opening quote; `opening` is the text from that quote on. -/
def readString (opening : Text) : Text → Except Fault (Text × Text)
  | [] => .error ⟨.unterminatedString, opening.length⟩
  | '"' :: r => .ok ([], r)
  | '\\' :: 'u' :: a :: b :: c :: d :: '\\' :: 'u' :: e :: f :: g :: h :: r =>
    match hexUnit? a b c d with
    | none => .error ⟨.badCodeEscape, r.length + 11⟩
    | some high =>
      if isHighSurrogate high && !r.isEmpty then
        match hexUnit? e f g h with
        | none => .error ⟨.badCodeEscape, r.length + 5⟩
        | some low =>
          if isLowSurrogate low then do
            let (t, r) ← readString opening r
            return (pairChar high low :: t, r)
          else do
            let (t, r) ← readString opening ('\\' :: 'u' :: e :: f :: g :: h :: r)
            return (unitChar high :: t, r)
      else do
        let (t, r) ← readString opening ('\\' :: 'u' :: e :: f :: g :: h :: r)
        return (unitChar high :: t, r)
  | '\\' :: 'u' :: a :: b :: c :: d :: x :: r =>
    match hexUnit? a b c d with
    | none => .error ⟨.badCodeEscape, r.length + 6⟩
    | some n => do
      let (t, r) ← readString opening (x :: r)
      return (unitChar n :: t, r)
  | '\\' :: 'u' :: r => .error ⟨.badCodeEscape, r.length + 1⟩
  | ['\\'] => .error ⟨.unterminatedString, opening.length⟩
  | '\\' :: c :: r =>
    match shortEscape? c with
    | none => .error ⟨.badEscape, r.length + 2⟩
    | some x => do
      let (t, r) ← readString opening r
      return (x :: t, r)
  | c :: r =>
    if c.toNat < 0x20 then .error ⟨.controlCharacter, r.length + 1⟩
    else do
      let (t, r) ← readString opening r
      return (c :: t, r)

def isDigit (c : Char) : Bool := '0' ≤ c && c ≤ '9'

def digitsValue (ds : Text) : Nat :=
  ds.foldl (fun n d => n * 10 + (d.toNat - 48)) 0

/-- One zero, or digits that do not start with a zero. -/
def wholePart? : Text → Option (Text × Text)
  | '0' :: r => some (['0'], r)
  | t =>
    match t.takeWhile isDigit with
    | [] => none
    | ds => some (ds, t.dropWhile isDigit)

/-- A point with digits after it; a point alone is left where it is. -/
def places (t : Text) : Text × Text :=
  match t with
  | '.' :: r =>
    match r.takeWhile isDigit with
    | [] => ([], t)
    | ds => (ds, r.dropWhile isDigit)
  | _ => ([], t)

/-- An exponent with at least one digit; anything less is left where it is. -/
def exponent? (t : Text) : Option (Int × Text) :=
  match t with
  | c :: r =>
    if c = 'e' ∨ c = 'E' then
      let (negative, r) := match r with
        | '-' :: r => (true, r)
        | '+' :: r => (false, r)
        | r => (false, r)
      match r.takeWhile isDigit with
      | [] => none
      | ds =>
        let n : Int := digitsValue ds
        some (if negative then -n else n, r.dropWhile isDigit)
    else none
  | [] => none

/-- A number without places and exponent is an integer, any other one a double. -/
def readNumber? (t : Text) : Option (Json × Text) := do
  let (negative, t) := match t with
    | '-' :: r => (true, r)
    | t => (false, t)
  let (whole, t) ← wholePart? t
  let (fraction, t) := places t
  match exponent? t with
  | some (e, t) =>
    return (.real (.ofDecimal negative (digitsValue (whole ++ fraction)) (e - fraction.length)), t)
  | none =>
    if fraction.isEmpty then
      let n : Int := digitsValue whole
      return (.int (if negative then -n else n), t)
    else
      return (.real (.ofDecimal negative (digitsValue (whole ++ fraction)) (-fraction.length)), t)

/-- The integer that stands here has more digits than an integer is read from. -/
def isHuge (t : Text) : Bool :=
  Literal.digitLimit < (((Text.dropPrefix? "-" t).getD t).takeWhile isDigit).length

def words : List (Text × Json) :=
  [("null", .null), ("true", .bool true), ("false", .bool false), ("NaN", .real .nan),
    ("Infinity", .real (.infinite false)), ("-Infinity", .real (.infinite true))]

def readWord? (t : Text) : Option (Json × Text) :=
  words.findSome? fun (name, v) => (Text.dropPrefix? name t).map (v, ·)

mutual

def readValue : (fuel : Nat) → Text → Except Fault (Json × Text)
  | 0, t => .error ⟨.expectedValue, t.length⟩
  | fuel + 1, t =>
    match t with
    | '"' :: r => do
      let (s, r) ← readString t r
      return (.str s, r)
    | '[' :: r =>
      match skipSpace r with
      | ']' :: r => return (.arr [], r)
      | r => do
        let (items, r) ← readItems fuel r
        return (.arr items, r)
    | '{' :: r =>
      match skipSpace r with
      | '}' :: r => return (.obj [], r)
      | r => do
        let (fields, r) ← readFields fuel r
        return (.obj (Fields.ofPairs fields), r)
    | _ =>
      match readWord? t with
      | some found => .ok found
      | none =>
        match readNumber? t with
        | some (.int n, r) => if isHuge t then .error ⟨.hugeNumber, t.length⟩ else .ok (.int n, r)
        | some found => .ok found
        | none => .error ⟨.expectedValue, t.length⟩

/-- Items up to the closing bracket, at least one. -/
def readItems : (fuel : Nat) → Text → Except Fault (List Json × Text)
  | 0, t => .error ⟨.expectedValue, t.length⟩
  | fuel + 1, t => do
    let (item, r) ← readValue fuel t
    match skipSpace r with
    | ']' :: r => return ([item], r)
    | ',' :: r =>
      let (items, r) ← readItems fuel (skipSpace r)
      return (item :: items, r)
    | r => .error ⟨.expectedComma, r.length⟩

/-- Fields up to the closing brace, at least one. -/
def readFields : (fuel : Nat) → Text → Except Fault (Fields × Text)
  | 0, t => .error ⟨.expectedName, t.length⟩
  | fuel + 1, t =>
    match t with
    | '"' :: r => do
      let (key, r) ← readString t r
      match skipSpace r with
      | ':' :: r =>
        let (value, r) ← readValue fuel (skipSpace r)
        match skipSpace r with
        | '}' :: r => return ([(key, value)], r)
        | ',' :: r =>
          let (fields, r) ← readFields fuel (skipSpace r)
          return ((key, value) :: fields, r)
        | r => .error ⟨.expectedComma, r.length⟩
      | r => .error ⟨.expectedColon, r.length⟩
    | t => .error ⟨.expectedName, t.length⟩

end

/-- Each call of the reader consumes a character or passes a shorter text on, so twice the length of
the text is fuel enough. -/
def read (t : Text) : Except Fault Json :=
  match t with
  | '\uFEFF' :: _ => .error ⟨.byteOrderMark, t.length⟩
  | _ => do
    let (v, r) ← readValue (2 * t.length + 2) (skipSpace t)
    match skipSpace r with
    | [] => return v
    | r => .error ⟨.extraData, r.length⟩

def Complaint.message : Complaint → Text
  | .byteOrderMark => "Unexpected UTF-8 BOM (decode using utf-8-sig)"
  | .expectedValue => "Expecting value"
  | .expectedName => "Expecting property name enclosed in double quotes"
  | .expectedColon => "Expecting ':' delimiter"
  | .expectedComma => "Expecting ',' delimiter"
  | .extraData => "Extra data"
  | .unterminatedString => "Unterminated string starting at"
  | .controlCharacter => "Invalid control character at"
  | .badEscape => "Invalid \\escape"
  | .badCodeEscape => "Invalid \\uXXXX escape"
  | .hugeNumber => "Number with too many digits"

/-- The complaint and its place in the text that was read. -/
def Fault.message (f : Fault) (source : Text) : Text :=
  let p := Text.positionAt source (source.length - f.left)
  f.complaint.message ++ ": line " ++ Text.ofNat p.line ++ " column " ++ Text.ofNat p.column ++
    " (char " ++ Text.ofNat p.offset ++ ")"

end CodeGraph.Json
