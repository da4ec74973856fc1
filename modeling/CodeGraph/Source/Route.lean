import CodeGraph.Source.Pattern

/-! Routes that a source text registers, and its calls of a database. -/
namespace CodeGraph

inductive Verb
  | get
  | post
  | put
  | delete
  | patch
deriving DecidableEq, Repr

namespace Verb

def all : List Verb :=
  [.get, .post, .put, .delete, .patch]

def word : Verb → Text
  | .get => "get"
  | .post => "post"
  | .put => "put"
  | .delete => "delete"
  | .patch => "patch"

def method : Verb → Text
  | .get => "GET"
  | .post => "POST"
  | .put => "PUT"
  | .delete => "DELETE"
  | .patch => "PATCH"

end Verb

/-- The small letter that a character counts as when case is ignored. Four characters beyond ASCII
have a basic letter as a case form. -/
def foldLetter (c : Char) : Char :=
  if c = 'ſ' then 's'
  else if c = 'ı' || c = 'İ' then 'i'
  else if c = '\u212A' then 'k'
  else c.toLower

def dropIgnoringCase? : (word t : Text) → Option Text
  | [], t => some t
  | _ :: _, [] => none
  | a :: word, c :: t => if foldLetter c = a then dropIgnoringCase? word t else none

structure Route where
  verb : Verb
  path : Text
deriving DecidableEq, Repr

namespace Route

def verb? (t : Text) : Option (Verb × Text) :=
  Verb.all.findSome? fun v => (dropIgnoringCase? v.word t).map (v, ·)

/-- A verb called on the receiver, with a quoted path as its first argument. -/
def call (receiver : Text) : Pattern Route := fun _ here => do
  let (verb, r) ← verb? (← dropIgnoringCase? receiver here)
  let r ← char? '(' (Text.stripLeft r)
  let (path, r) ← quotedText? (Text.stripLeft r)
  return (⟨verb, path⟩, r)

def receivers : List Text :=
  ["app.", "router.", "@"]

/-- The routes of a text, one receiver after the other. -/
def ofContent (content : Text) : List Route :=
  receivers.flatMap fun receiver => (call receiver).findAll content

end Route

def databaseMethods : List Text :=
  ["find", "findone", "findmany", "create", "update", "delete", "query", "execute"]

def databaseCall : Pattern Unit := fun _ here => do
  let r ← char? '.' here
  let r ← databaseMethods.findSome? (dropIgnoringCase? · r)
  return ((), r)

def callsDatabase (content : Text) : Bool :=
  !(databaseCall.everywhere none content).isEmpty

end CodeGraph
