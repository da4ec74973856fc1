import CodeGraph.Console.Command
import CodeGraph.Decimal.Literal
import CodeGraph.StandIn.CommandLine.Arguments

/-! How the commands are written on a command line. -/
namespace CodeGraph.StandIn.CommandLine

def helpRule : OptionRule := { name := "--help" }

def outputRules : List OptionRule :=
  [helpRule, { name := "--output", letter := some 'o', takesValue := true },
   { name := "--format", letter := some 'f', takesValue := true }]

def scanRules : List OptionRule :=
  outputRules ++
    [{ name := "--workers", letter := some 'w', takesValue := true },
     { name := "--ext", letter := some 'e', takesValue := true }]

def topRules : List OptionRule :=
  [helpRule, { name := "--version", letter := some 'V' },
   { name := "--verbose", letter := some 'v' }]

/-- Zeros in front of another digit do not count, nor do underscores among them. -/
def dropZeros (t : Text) : Text :=
  if t.all fun c => c = '0' || c = '_' then t.drop (t.length - 1)
  else t.dropWhile fun c => c = '0' || c = '_'

/-- A point with nothing but zeros behind it does not count. -/
def dropPoint (t : Text) : Text :=
  match Text.cut? "." t with
  | some (whole, places) => if places.all (· = '0') then whole else t
  | none => t

/-- Single underscores between digits do not count. -/
def dropMarks (t : Text) : Text :=
  if Text.occursIn "__" t || Text.startsWith "_" t || Text.endsWith "_" t then t
  else Literal.dropUnderscores t

/-- A number of workers, from 1 to 64. -/
def workers? (t : Text) : Option Int := do
  let t := Text.trim t
  let t := (Text.dropPrefix? "+" t).getD t
  guard (t.head?.any Char.isDigit)
  let t := dropMarks (dropPoint (dropZeros t))
  guard (t.all Char.isDigit)
  let n ← Literal.digitsValue? 10 t
  if 1 ≤ n ∧ n ≤ 64 then some n else none

def format (g : Given) : Text :=
  (g.value? "--format").getD "json"

def withGiven (rules : List OptionRule) (args : List Text) (f : Given → Option Command) :
    Option Command := do
  let g ← Arguments.read rules true args
  if g.has "--help" then return .help
  f g

def ofScan (g : Given) : Option Command := do
  let [folder] := g.arguments | none
  match g.value? "--workers" with
  | some t => let _ ← workers? t
  | none => pure ()
  return .scan
    { folder, output := g.value? "--output", format := format g, extensions := g.values "--ext" }

def ofInspect (g : Given) : Option Command := do
  let [file] := g.arguments | none
  return .inspect file

def ofSample (g : Given) : Option Command := do
  let [] := g.arguments | none
  return .sample (g.value? "--output") (format g)

def ofSetWorkers (g : Given) : Option Command := do
  let [t] := g.arguments | none
  return .setWorkers (← workers? t)

def ofSetExtensions (g : Given) : Option Command :=
  if g.arguments.isEmpty then none else some (.setExtensions g.arguments)

def alone (command : Command) (g : Given) : Option Command :=
  if g.arguments.isEmpty then some command else none

def ofConfig (args : List Text) : Option Command := do
  let g ← Arguments.read [helpRule] false args
  if g.has "--help" then return .help
  let name :: args := g.arguments | none
  match String.ofList name with
  | "show" => withGiven [helpRule] args (alone .showSettings)
  | "set-workers" => withGiven [helpRule] args ofSetWorkers
  | "set-extensions" => withGiven [helpRule] args ofSetExtensions
  | "reset" => withGiven [helpRule] args (alone .resetSettings)
  | _ => none

/-- The first flag that asks for a text and no command. -/
def ofFlags (g : Given) : Option Command :=
  g.options.findSome? fun (name, _) =>
    if name = "--help".toList then some .help
    else if name = "--version".toList then some .version
    else none

/-- Reads a whole command line. A name that is none of a command is read as a flag once more. -/
def read (args : List Text) : Option Invocation := do
  let g ← Arguments.read topRules false args
  let verbose := g.has "--verbose"
  match ofFlags g with
  | some command => return ⟨verbose, command⟩
  | none =>
    let name :: rest := g.arguments | none
    let command ← match String.ofList name with
      | "scan" => withGiven scanRules rest ofScan
      | "inspect" => withGiven [helpRule] rest ofInspect
      | "sample" => withGiven outputRules rest ofSample
      | "config" => ofConfig rest
      | _ => do ofFlags (← Arguments.read topRules false (name :: rest))
    return ⟨verbose, command⟩

/-! Texts that are put out as they are, but for the sequences that style a terminal. -/

/-- What follows a sequence that styles a terminal, from behind its bracket. -/
def sequenceEnd? : Text → Option Text
  | [] => none
  | c :: r =>
    if c.isAlpha then some r
    else if c.isDigit || c = ';' || c = '?' then sequenceEnd? r
    else none

def sequence? : Text → Option Text
  | '\x1b' :: '[' :: r => sequenceEnd? r
  | _ => none

def unstyled : (fuel : Nat) → Text → Text
  | 0, t => t
  | _, [] => []
  | fuel + 1, c :: r =>
    match sequence? (c :: r) with
    | some rest => unstyled fuel rest
    | none => c :: unstyled fuel r

def echo (t : Text) : Text :=
  unstyled t.length t ++ ['\n']

end CodeGraph.StandIn.CommandLine
