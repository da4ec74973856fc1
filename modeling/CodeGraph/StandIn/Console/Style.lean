import CodeGraph.StandIn.Console.Color

/-! Styles of text: effects, colors and links, as tags name them. -/
namespace CodeGraph.StandIn

inductive Effect
  | bold
  | dim
  | italic
  | underline
  | blink
  | blink2
  | reverse
  | conceal
  | strike
  | underline2
  | frame
  | encircle
  | overline
deriving DecidableEq, Repr

namespace Effect

def all : List Effect :=
  [.bold, .dim, .italic, .underline, .blink, .blink2, .reverse, .conceal, .strike, .underline2,
   .frame, .encircle, .overline]

def name : Effect → Text
  | .bold => "bold"
  | .dim => "dim"
  | .italic => "italic"
  | .underline => "underline"
  | .blink => "blink"
  | .blink2 => "blink2"
  | .reverse => "reverse"
  | .conceal => "conceal"
  | .strike => "strike"
  | .underline2 => "underline2"
  | .frame => "frame"
  | .encircle => "encircle"
  | .overline => "overline"

/-- Some effects have a shorter name too. -/
def shortNames : List (Text × Effect) :=
  [("b", .bold), ("d", .dim), ("i", .italic), ("u", .underline), ("r", .reverse), ("c", .conceal),
   ("s", .strike), ("uu", .underline2), ("o", .overline)]

def ofName? (t : Text) : Option Effect :=
  match all.find? (·.name = t) with
  | some e => some e
  | none => shortNames.lookup t

end Effect

/-- An effect that is not listed stays as it is around the text. -/
structure Style where
  effects : List (Effect × Bool) := []
  color : Option Text := none
  background : Option Text := none
  link : Option Text := none
deriving DecidableEq, Repr

/-- Why words are no style: they name nothing, or a color with parts that are no numbers. -/
inductive StyleFault
  | unknown
  | brokenColor
deriving DecidableEq, Repr

namespace Style

def setEffect (s : Style) (e : Effect) (on : Bool) : Style :=
  { s with effects := (e, on) :: s.effects }

def color? (word : Text) : Except StyleFault Text :=
  match Color.ofWord word with
  | .known name => .ok name
  | .unknown => .error .unknown
  | .broken => .error .brokenColor

/-- Adds what the words say. Of words for one and the same thing the last counts. -/
def addWords (s : Style) : List Text → Except StyleFault Style
  | [] => .ok s
  | word :: rest =>
    let word := Text.lower word
    if word = "on".toList then
      match rest with
      | [] => .error .unknown
      | word :: rest => do addWords { s with background := some (← color? word) } rest
    else if word = "not".toList then
      match rest with
      | [] => .error .unknown
      | word :: rest =>
        match Effect.ofName? word with
        | some e => addWords (s.setEffect e false) rest
        | none => .error .unknown
    else if word = "link".toList then
      match rest with
      | [] => .error .unknown
      | word :: rest => addWords { s with link := some word } rest
    else
      match Effect.ofName? word with
      | some e => addWords (s.setEffect e true) rest
      | none => do addWords { s with color := some (← color? word) } rest

def parse (t : Text) : Except StyleFault Style :=
  if Text.strip t = "none".toList then .ok {} else addWords {} (Text.parts t)

def words (s : Style) : List Text :=
  (Effect.all.filterMap fun e => (s.effects.lookup e).map fun on =>
    if on then e.name else "not " ++ e.name) ++
    s.color.toList ++ (s.background.map fun (t : Text) => "on " ++ t).toList ++
    (s.link.map fun (t : Text) => "link " ++ t).toList

def text (s : Style) : Text :=
  if s.words.isEmpty then "none" else Text.join " " s.words

/-- The name under which a style is opened and closed. Styles with the same effect have the same
name, and what is no style stands for itself. -/
def nameOf (t : Text) : Except StyleFault Text :=
  match parse t with
  | .ok s => .ok s.text
  | .error .unknown => .ok (Text.lower (Text.strip t))
  | .error .brokenColor => .error .brokenColor

end Style
end CodeGraph.StandIn
