import CodeGraph.Decimal.Literal
import CodeGraph.Text.Utf8

/-! What a tag says of the handler of its text: a name, and parameters as values written out. Values
are numbers, texts, and what brackets and braces make of them. -/
namespace CodeGraph.StandIn.Handler

/-- What the rules ask of a value: numbers stand in sums, and sets and dictionaries are no keys. -/
inductive Form
  | number (imaginary signed : Bool)
  | value (isKey : Bool)
deriving DecidableEq, Repr

def Form.isKey : Form → Bool
  | .number .. => true
  | .value isKey => isKey

/-- Drops blanks, comments and line ends behind backslashes; within brackets other line ends too. -/
def skip (inside : Bool) : (comment : Bool) → Text → Text
  | _, [] => []
  | true, c :: r =>
    if c ≠ '\n' then skip inside true r else if inside then skip inside false r else c :: r
  | false, '\\' :: '\n' :: r => skip inside false r
  | false, c :: r =>
    if c = ' ' || c = '\t' || c = '\x0c' || inside && c = '\n' then skip inside false r
    else if c = '#' then skip inside true r
    else c :: r

/-! Numbers. -/

def isHexDigit (c : Char) : Bool :=
  c.isDigit || 'a' ≤ c.toLower && c.toLower ≤ 'f'

def digits (isDigit : Char → Bool) : Text → Text × Text
  | [] => ([], [])
  | c :: r =>
    if isDigit c then
      let (ds, rest) := digits isDigit r
      (c :: ds, rest)
    else if c = '_' && r.head?.any isDigit then digits isDigit r
    else ([], c :: r)

def decimalDigits (t : Text) : Text × Text :=
  if t.head?.any Char.isDigit then digits Char.isDigit t else ([], t)

/-- Digits behind a zero and a letter, which tells their base. -/
def basedNumber? : Text → Option Text
  | '0' :: letter :: t =>
    let isDigit : Char → Bool := match letter.toLower with
      | 'x' => isHexDigit
      | 'o' => fun c => '0' ≤ c && c ≤ '7'
      | 'b' => fun c => c = '0' || c = '1'
      | _ => fun _ => false
    let (ds, rest) := digits isDigit t
    if ds.isEmpty then none else some rest
  | _ => none

def exponent? : Text → Option Text
  | [] => none
  | e :: r =>
    let r := match r with
      | '+' :: r | '-' :: r => r
      | r => r
    let (ds, rest) := decimalDigits r
    if e.toLower ≠ 'e' || ds.isEmpty then none else some rest

/-- A number in decimal digits. A whole one has no zero in front of other digits. -/
def decimalNumber? (t : Text) : Option (Form × Text) := do
  let (whole, r) := decimalDigits t
  let (places, r) := match r with
    | '.' :: r => (decimalDigits r).map some id
    | r => (none, r)
  guard !(whole.isEmpty && (places.getD []).isEmpty)
  let (hasExponent, r) := match exponent? r with
    | some r => (true, r)
    | none => (false, r)
  match r with
  | 'j' :: r | 'J' :: r => return (.number true false, r)
  | r =>
    guard (places.isSome || hasExponent ||
      whole.length ≤ Literal.digitLimit && (whole.head? ≠ some '0' || whole.all (· = '0')))
    return (.number false false, r)

def number? (t : Text) : Option (Form × Text) := do
  let (form, rest) ← match basedNumber? t with
    | some rest => some (.number false false, rest)
    | none => decimalNumber? t
  guard !(rest.head?.any Text.isWord)
  return (form, rest)

/-! Texts. -/

structure Quoting where
  mark : Char
  raw : Bool
  bytes : Bool
  triple : Bool
deriving DecidableEq, Repr

/-- The letters in front of a quote: raw, bytes, both, or a plain text. -/
def quoting? (t : Text) : Option (Quoting × Text) := do
  let (letters, r) := t.span Char.isAlpha
  let word := letters.map Char.toLower
  guard (["".toList, "u".toList, "r".toList, "b".toList, "br".toList, "rb".toList].contains word)
  match r with
  | c :: r =>
    guard (c = '"' || c = '\'')
    let (raw, bytes) := (word.contains 'r', word.contains 'b')
    match r with
    | d :: e :: rest =>
      if d = c && e = c then return (⟨c, raw, bytes, true⟩, rest)
      else return (⟨c, raw, bytes, false⟩, r)
    | r => return (⟨c, raw, bytes, false⟩, r)
  | [] => none

/-- The number of hexadecimal digits behind the letter of an escape. -/
def escapeSize (q : Quoting) (letter : Char) : Nat :=
  if q.raw then 0
  else if letter = 'x' then 2
  else if q.bytes then 0
  else if letter = 'u' then 4
  else if letter = 'U' then 8
  else 0

/-- The escape has its digits, and they stand for a character. Characters by their names are none
of these values. -/
def escapeFits (q : Quoting) (letter : Char) (rest : Text) : Bool :=
  let ds := rest.take (escapeSize q letter)
  ds.length = escapeSize q letter && ds.all isHexDigit &&
    (ds.length < 8 || ds.take 3 = "000".toList || ds.take 4 = "0010".toList) &&
    !(letter = 'N' && !q.raw && !q.bytes)

def closeText? (q : Quoting) : Text → Option Text
  | [] => none
  | '\\' :: c :: r =>
    if escapeFits q c r && (!q.bytes || c.toNat < 128) then closeText? q r else none
  | c :: r =>
    if q.bytes && 127 < c.toNat then none
    else if c = '\n' && !q.triple then none
    else if c ≠ q.mark then closeText? q r
    else if !q.triple then some r
    else if r.take 2 = [c, c] then some (r.drop 2)
    else closeText? q r

def texts? (inside : Bool) : (fuel : Nat) → (bytes : Option Bool) → Text → Option Text
  | 0, _, _ => none
  | fuel + 1, bytes, t =>
    match quoting? t with
    | none => if bytes.isSome then some t else none
    | some (q, r) =>
      if bytes.any (· ≠ q.bytes) then none
      else do texts? inside fuel (some q.bytes) (skip inside false (← closeText? q r))

/-! Values. -/

def named? (inside : Bool) (t : Text) : Option (Form × Text) := do
  let (name, rest) := t.span fun c => Text.isWord c || 127 < c.toNat
  if ["None".toList, "True".toList, "False".toList].contains name then return (.value true, rest)
  guard (name = "set".toList)
  let '(' :: r := skip inside false rest | none
  let ')' :: r := skip true false r | none
  return (.value false, r)

/-- What follows the closing bracket, or nothing at the end of the text. -/
def closing? (close : Option Char) (t : Text) : Option Text :=
  match close, skip true false t with
  | none, [] => some []
  | some d, c :: r => if c = d then some r else none
  | _, _ => none

def depthLimit : Nat := 200

mutual

/-- A value without a sign in front; `depth` counts the brackets around it. -/
def unsigned? (fuel depth : Nat) (t : Text) : Option (Form × Text) :=
  match fuel with
  | 0 => none
  | fuel + 1 =>
    match t with
    | '(' :: r =>
      if depthLimit ≤ depth then none
      else
        match items? fuel (depth + 1) (some ')') r with
        | some ([form], false, rest) => some (form, rest)
        | some (forms, _, rest) => some (.value (forms.all Form.isKey), rest)
        | none => none
    | '\x7b' :: r =>
      if depthLimit ≤ depth then none
      else (members? fuel (depth + 1) none r).map (.value false, ·)
    | '.' :: '.' :: '.' :: r => some (.value true, r)
    | t =>
      match number? t, texts? (0 < depth) (t.length + 1) none t with
      | some found, _ => some found
      | none, some rest => some (.value true, rest)
      | none, none => named? (0 < depth) t

/-- A value. A sign stands in front of a number, and a sum is one of a number and an imaginary
number. -/
def value? (fuel depth : Nat) (t : Text) : Option (Form × Text) :=
  match fuel with
  | 0 => none
  | fuel + 1 => do
    let (first, rest) ← match t with
      | c :: r =>
        if c = '+' || c = '-' then
          match ← unsigned? fuel depth (skip (0 < depth) false r) with
          | (.number imaginary false, rest) => some (.number imaginary true, rest)
          | _ => none
        else unsigned? fuel depth t
      | [] => none
    match skip (0 < depth) false rest with
    | c :: r =>
      if c = '+' || c = '-' then
        match first, ← unsigned? fuel depth (skip (0 < depth) false r) with
        | .number false _, (.number true false, rest) => some (.value true, rest)
        | _, _ => none
      else return (first, c :: r)
    | [] => return (first, [])

/-- Values with commas between them and perhaps a comma at the end, up to the closing bracket or
the end of the text. The flag tells of that comma, or that there are no values. -/
def items? (fuel depth : Nat) (close : Option Char) (t : Text) :
    Option (List Form × Bool × Text) :=
  match fuel with
  | 0 => none
  | fuel + 1 =>
    match closing? close t with
    | some rest => some ([], true, rest)
    | none => do
      let (form, rest) ← value? fuel depth (skip (0 < depth) false t)
      match closing? close rest, skip (0 < depth) false rest with
      | some rest, _ => return ([form], false, rest)
      | none, ',' :: r => do
        let (forms, comma, rest) ← items? fuel depth close r
        return (form :: forms, comma, rest)
      | none, _ => none

/-- The members of a set, or the keys and values of a dictionary, up to the closing brace. -/
def members? (fuel depth : Nat) (pairs : Option Bool) (t : Text) : Option Text :=
  match fuel with
  | 0 => none
  | fuel + 1 =>
    match skip true false t with
    | '\x7d' :: r => some r
    | t => do
      let (key, rest) ← value? fuel depth t
      let (isPair, rest) ← match skip true false rest with
        | ':' :: r => do
          let (_, rest) ← value? fuel depth (skip true false r)
          some (true, skip true false rest)
        | rest => some (false, rest)
      if !key.isKey || pairs.any (· ≠ isPair) then none
      else
        match rest with
        | ',' :: r => members? fuel depth (some isPair) r
        | '\x7d' :: r => some r
        | _ => none

end

def isValue (t : Text) : Bool :=
  let t := Text.unifyLineEnds t
  !t.contains '\x00' &&
    match items? (3 * t.length + 3) 0 none (skip true false t) with
    | some (_ :: _, _, _) => true
    | _ => false

def areParameters (t : Text) : Bool :=
  let t := Text.strip t
  let rest := t.dropWhile fun c => Text.isWord c || c = '.'
  if rest.isEmpty then true
  else if Text.startsWith "(" rest && Text.endsWith ")" rest && !rest.contains '\n' then isValue rest
  else isValue t

end CodeGraph.StandIn.Handler
