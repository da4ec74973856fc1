import CodeGraph.Text.Blank
import CodeGraph.Text.Word
import CodeGraph.StandIn.Toml.Fault

/-! The first look at a settings text, character by character. Comments are blanked out, arrays over
several lines are set on one, and the form of keys is checked. -/
namespace CodeGraph.StandIn.Toml

/-- Where the look stands with a key: outside, within, or behind it and before the sign. -/
inductive KeyState
  | outside
  | within
  | behind
deriving DecidableEq, Repr

/-- `done` is the text so far in reverse, and `mark` the quote that a string was opened with. -/
structure Layout where
  done : Text := []
  key : KeyState := .outside
  dotted : Bool := false
  inString : Bool := false
  mark : Option Char := none
  multiline : Bool := false
  openArrays : Int := 0
  lineStart : Bool := true
  inTableName : Bool := false
  inTableArrayName : Bool := false
  inComment : Bool := false
deriving DecidableEq, Repr

namespace Layout

def malformed (c : Complaint) : Except Trouble α :=
  .error (.malformed c)

def emit (s : Layout) (c : Char) : Layout :=
  { s with done := c :: s.done }

def toggle (s : Layout) (triple : Bool) (quote : Char) : Layout :=
  let multiline := if triple then !s.multiline else s.multiline
  let inString := if triple then multiline else !s.inString
  { s with multiline, inString, mark := if inString then some quote else none }

/-- The number of characters `c` right before this place, as far as `limit`. -/
def runBefore (c : Char) (limit : Nat) (back : Text) : Nat :=
  ((back.take limit).takeWhile (· = c)).length

/-- A quote that is part of no key. Behind two others it is the third; a double quote behind an odd
number of backslashes changes nothing. -/
def quote (s : Layout) (c : Char) (back : Text) : Layout :=
  let run := runBefore c 2 back
  if c = '\'' then s.toggle (run = 2) c
  else
    let backslashes := if run = 1 then 0 else runBefore '\\' back.length (back.drop run)
    if backslashes % 2 = 0 then s.toggle (run = 2) c
    else { s with mark := if s.inString then some c else none }

/-- The end of a line. It stays in strings of three quotes, except behind the opening ones, and is
a blank within arrays. -/
def lineEnd (s : Layout) : Except Trouble Layout :=
  if s.inString || s.multiline then
    if !s.multiline then malformed .unbalancedQuotes
    else
      match s.done with
      | a :: b :: r =>
        if (a = '\'' || a = '"') && b = a then
          match r with
          | c :: r => .ok { s with done := a :: a :: b :: (if c = a then ' ' else c) :: r }
          | [] => .ok (s.emit a)
        else .ok (s.emit '\n')
      | _ => .ok (s.emit '\n')
  else if s.openArrays ≠ 0 then .ok (s.emit ' ')
  else .ok { s with done := '\n' :: s.done, lineStart := true }

/-- What follows a key and its blanks or dots: another name after a dot. -/
def resumeKey (s : Layout) (c : Char) (rest : Text) : Except Trouble Layout :=
  match rest with
  | [] => .error .cutShort
  | next :: _ =>
    .ok { s.emit c with key := if Text.isBlank next || next = '.' then .behind else .within }

def outsideKey (s : Layout) (c : Char) (back rest : Text) : Except Trouble Layout :=
  let s :=
    if c = '\'' && s.mark ≠ some '"' || c = '"' && s.mark ≠ some '\'' then s.quote c back else s
  let plain := !s.inString && !s.inTableName && !s.inTableArrayName
  let s :=
    if c = '[' && plain then
      if s.lineStart then
        if rest.head? = some '[' then { s with inTableArrayName := true }
        else { s with inTableName := true }
      else { s with openArrays := s.openArrays + 1 }
    else if c = ']' && !s.inString then
      if s.inTableName then { s with inTableName := false }
      else if s.inTableArrayName then
        if back.head? = some ']' then { s with inTableArrayName := false } else s
      else { s with openArrays := s.openArrays - 1 }
    else s
  if c = '\n' then s.lineEnd
  else if s.lineStart && c ≠ ' ' && c ≠ '\t' then
    let s := { s with lineStart := false }
    if s.inTableName || s.inTableArrayName then .ok (s.emit c)
    else if c = '=' then malformed .emptyKey
    else .ok { s.emit c with key := .within }
  else .ok (s.emit c)

/-- A character within or behind a key. A quote behind an odd number of backslashes closes none. -/
def atKey (s : Layout) (c : Char) (back rest : Text) : Except Trouble Layout :=
  if c = '\n' then malformed .keyWithoutValue
  else if s.inString then
    if some c = s.mark && runBefore '\\' s.done.length s.done % 2 = 0 then
      .ok { s.emit c with key := .behind, inString := false, mark := none }
    else .ok (s.emit c)
  else if s.key = .within && Text.isBlank c then .ok { s.emit c with key := .behind }
  else if s.key = .within && c = '.' then .ok { s.emit c with dotted := true }
  else if s.key = .within && (Text.isAlphanumeric c || c = '_' || c = '-') then .ok (s.emit c)
  else if s.key = .within && s.dotted && back.head? = some '.' && (c = '"' || c = '\'') then
    .ok { s.emit c with inString := true, mark := some c }
  else if s.key = .behind && Text.isBlank c then
    if s.dotted then s.resumeKey c rest else .ok (s.emit c)
  else if s.key = .behind && c = '.' then { s with dotted := true }.resumeKey c rest
  else if c = '=' then .ok { s.emit c with key := .outside, dotted := false }
  else malformed (.badKeyCharacter c)

def step (s : Layout) (wrapped : Text) (c : Char) (rest : Text) : Except Trouble Layout :=
  let back := s.done ++ wrapped
  if s.inComment && c ≠ '\n' then .ok (s.emit ' ')
  else
    let s := { s with inComment := false }
    if s.key ≠ .outside then s.atKey c back rest
    else if c = '#' && !s.inString && !s.inTableName && !s.inTableArrayName then
      .ok { s.emit ' ' with inComment := true }
    else s.outsideKey c back rest

def run (wrapped : Text) : (offset : Nat) → Layout → Text → Except Fault Layout
  | _, s, [] => .ok s
  | offset, s, c :: rest =>
    match s.step wrapped c rest with
    | .ok s => run wrapped (offset + 1) s rest
    | .error trouble => .error ⟨trouble, offset⟩

def lines (source : Text) : Except Fault (List Text) := do
  let s ← run source.reverse 0 {} source
  if s.key ≠ .outside then .error ⟨.malformed .keyWithoutValueAtEnd, source.length⟩
  else if s.inString then .error ⟨.malformed .unterminatedString, source.length⟩
  else .ok (Text.split '\n' s.done.reverse)

end Layout
end CodeGraph.StandIn.Toml
