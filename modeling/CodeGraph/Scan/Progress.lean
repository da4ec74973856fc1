import CodeGraph.Scan.Resolution
import CodeGraph.Source.Route
import CodeGraph.Text.Quoted

/-! What a scan has found so far, and what the text of one file adds to it. -/
namespace CodeGraph

inductive Event
  | duplicatePath (path : Text)
  | unreadable (path reason : Text)
  | unresolved (raw source : Text)
  | newEndpoint (verb : Verb) (route source : Text)
  | finished (files nodes edges warnings : Nat)
deriving DecidableEq, Repr

structure Progress where
  registry : Registry := {}
  edges : List Edge := []
  events : List Event := []
deriving DecidableEq, Repr

namespace Progress

def report (p : Progress) (e : Event) : Progress :=
  { p with events := p.events ++ [e] }

def link (p : Progress) (source target : Text) (kind : EdgeKind) : Progress :=
  { p with edges := p.edges ++ [{ source, target, kind }] }

/-- Links a file to the node that a specifier refers to, unless that is the file itself. -/
def followImport (source : Node) (p : Progress) (s : Specifier) : Progress :=
  match p.registry.resolve source.path s with
  | some target => if target.id = source.id then p else p.link source.id target.id .imports
  | none => p.report (.unresolved s.raw source.path)

/-- The endpoint of a route, new if there is none of that name. -/
def endpoint (source : Node) (p : Progress) (route : Route) : Node × Progress :=
  match p.registry.findEndpoint route.path with
  | some node => (node, p)
  | none =>
    let (node, registry) :=
      p.registry.add { id := [], name := route.path, kind := .endpoint, path := route.path }
    (node, { p with registry }.report (.newEndpoint route.verb route.path source.path))

/-- Links a file to the endpoint of a route, once for each endpoint and never to itself. `linked`
holds the endpoints that are linked already. -/
def followRoute (source : Node) (state : Progress × List Text) (route : Route) :
    Progress × List Text :=
  let (p, linked) := state
  let (node, p) := endpoint source p route
  if linked.contains node.id || node.id = source.id then (p, linked)
  else (p.link source.id node.id .endpointHandler, node.id :: linked)

def detect (p : Progress) (content : Text) (source : Node) : Progress :=
  let (p, _) := (Route.ofContent content).foldl (followRoute source) (p, [])
  if callsDatabase content then { p with registry := p.registry.markDatabase source.id } else p

def analyze (p : Progress) (content : Text) (language : Option Language) (source : Node) :
    Progress :=
  ((Specifier.ofContent content language).foldl (followImport source) p).detect content source

end Progress
end CodeGraph
