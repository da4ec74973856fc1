import CodeGraph.Text.Split

/-! Options and other arguments on a command line. -/
namespace CodeGraph.StandIn

/-- An option goes by a long name and often by a letter. It is a flag unless it takes a value. -/
structure OptionRule where
  name : Text
  letter : Option Char := none
  takesValue : Bool := false
deriving DecidableEq, Repr

/-- Options by their long names, in order, flags with an empty value; and what is left. -/
structure Given where
  options : List (Text × Text) := []
  arguments : List Text := []
deriving DecidableEq, Repr

namespace Given

def has (g : Given) (name : Text) : Bool :=
  g.options.any (·.1 = name)

/-- The value of an option that counts once. The last one wins. -/
def value? (g : Given) (name : Text) : Option Text :=
  g.options.reverse.lookup name

def values (g : Given) (name : Text) : List Text :=
  (g.options.filter (·.1 = name)).map (·.2)

end Given

namespace Arguments

/-- The options in one argument; the last one may still wait for its value. -/
abbrev Reading := List (Text × Text) × Option Text

/-- Letters behind a dash. What follows a letter with a value is the value. -/
def readLetters (rules : List OptionRule) : Text → Option Reading
  | [] => some ([], none)
  | c :: r =>
    match rules.find? (·.letter = some c) with
    | none => none
    | some rule =>
      if rule.takesValue then
        if r.isEmpty then some ([], some rule.name) else some ([(rule.name, r)], none)
      else (readLetters rules r).map fun (given, waiting) => ((rule.name, []) :: given, waiting)

def readName (rule : OptionRule) (value : Option Text) : Option Reading :=
  match rule.takesValue, value with
  | true, some v => some ([(rule.name, v)], none)
  | true, none => some ([], some rule.name)
  | false, some _ => none
  | false, none => some ([(rule.name, [])], none)

def readOption (rules : List OptionRule) (arg : Text) : Option Reading :=
  let (name, value) := match Text.cut? "=" arg with
    | some (name, value) => (name, some value)
    | none => (arg, none)
  match rules.find? (·.name = name) with
  | some rule => readName rule value
  | none => if Text.startsWith "--" arg then none else readLetters rules (arg.drop 1)

def isOption (arg : Text) : Bool :=
  Text.startsWith "-" arg && 1 < arg.length

/-- Reads options up to a double dash, and unless they are `mixed` with other arguments, up to the
first of these. -/
def readOn (rules : List OptionRule) (mixed : Bool) :
    (waiting : Option Text) → List Text → Given → Option Given
  | none, [], g => some g
  | some _, [], _ => none
  | some name, value :: rest, g =>
    readOn rules mixed none rest { g with options := g.options ++ [(name, value)] }
  | none, arg :: rest, g =>
    if arg = "--".toList then some { g with arguments := g.arguments ++ rest }
    else if isOption arg then
      match readOption rules arg with
      | some (given, waiting) =>
        readOn rules mixed waiting rest { g with options := g.options ++ given }
      | none => none
    else if mixed then readOn rules mixed none rest { g with arguments := g.arguments ++ [arg] }
    else some { g with arguments := g.arguments ++ arg :: rest }

def read (rules : List OptionRule) (mixed : Bool) (args : List Text) : Option Given :=
  readOn rules mixed none args {}

end Arguments
end CodeGraph.StandIn
