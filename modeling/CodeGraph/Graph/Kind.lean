import CodeGraph.Json.Basic

/-! The kinds of nodes and edges, with their names, colors and labels. -/
namespace CodeGraph

inductive NodeKind
  | file
  | script
  | router
  | endpoint
  | service
  | collection
  | utility
  | task
  | cacheKey
  | webhook
  | event
  | externalApi
deriving DecidableEq, Repr

namespace NodeKind

/-- Every kind, in the order of summaries. -/
def all : List NodeKind :=
  [.file, .script, .router, .endpoint, .service, .collection, .utility, .task, .cacheKey,
   .webhook, .event, .externalApi]

def name : NodeKind → Text
  | .file => "file"
  | .script => "script"
  | .router => "router"
  | .endpoint => "endpoint"
  | .service => "service"
  | .collection => "collection"
  | .utility => "utility"
  | .task => "task"
  | .cacheKey => "cache_key"
  | .webhook => "webhook"
  | .event => "event"
  | .externalApi => "external_api"

def color : NodeKind → Text
  | .file => "#3b82f6"
  | .script => "#a855f7"
  | .router => "#22c55e"
  | .endpoint => "#ef4444"
  | .service => "#14b8a6"
  | .collection => "#f97316"
  | .utility => "#6366f1"
  | .task => "#eab308"
  | .cacheKey => "#ec4899"
  | .webhook => "#f43f5e"
  | .event => "#84cc16"
  | .externalApi => "#06b6d4"

def label : NodeKind → Text
  | .file => "File"
  | .script => "Script"
  | .router => "Router"
  | .endpoint => "Endpoint"
  | .service => "Service"
  | .collection => "Collection"
  | .utility => "Utility"
  | .task => "Task"
  | .cacheKey => "Cache Key"
  | .webhook => "Webhook"
  | .event => "Event"
  | .externalApi => "External API"

def ofName? (t : Text) : Option NodeKind :=
  all.find? (·.name = t)

/-- The kind that a value names; a value that names none counts as `file`. -/
def ofJson : Option Json → NodeKind
  | some (.str t) => (ofName? t).getD .file
  | _ => .file

end NodeKind

inductive EdgeKind
  | imports
  | endpointHandler
  | dbRead
  | dbWrite
  | apiCall
  | cacheRead
  | cacheWrite
  | webhookReceive
  | webhookSend
  | eventPublish
  | exports
deriving DecidableEq, Repr

namespace EdgeKind

/-- Every kind, in the order of summaries. -/
def all : List EdgeKind :=
  [.imports, .endpointHandler, .dbRead, .dbWrite, .apiCall, .cacheRead, .cacheWrite,
   .webhookReceive, .webhookSend, .eventPublish, .exports]

def name : EdgeKind → Text
  | .imports => "import"
  | .endpointHandler => "endpoint_handler"
  | .dbRead => "db_read"
  | .dbWrite => "db_write"
  | .apiCall => "api_call"
  | .cacheRead => "cache_read"
  | .cacheWrite => "cache_write"
  | .webhookReceive => "webhook_receive"
  | .webhookSend => "webhook_send"
  | .eventPublish => "event_publish"
  | .exports => "export"

def color : EdgeKind → Text
  | .imports => "#58a6ff"
  | .endpointHandler => "#3b82f6"
  | .dbRead => "#22c55e"
  | .dbWrite => "#f97316"
  | .apiCall => "#a855f7"
  | .cacheRead => "#14b8a6"
  | .cacheWrite => "#ec4899"
  | .webhookReceive => "#eab308"
  | .webhookSend => "#ef4444"
  | .eventPublish => "#84cc16"
  | .exports => "#a371f7"

def label : EdgeKind → Text
  | .imports => "Import"
  | .endpointHandler => "Endpoint Handler"
  | .dbRead => "DB Read"
  | .dbWrite => "DB Write"
  | .apiCall => "API Call"
  | .cacheRead => "Cache Read"
  | .cacheWrite => "Cache Write"
  | .webhookReceive => "Webhook Receive"
  | .webhookSend => "Webhook Send"
  | .eventPublish => "Event Publish"
  | .exports => "Export"

def ofName? (t : Text) : Option EdgeKind :=
  all.find? (·.name = t)

/-- The kind that a value names; a value that names none counts as `imports`. -/
def ofJson : Option Json → EdgeKind
  | some (.str t) => (ofName? t).getD .imports
  | _ => .imports

end EdgeKind

end CodeGraph
