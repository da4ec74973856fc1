import CodeGraph.Graph.Basic

/-! A demonstration graph of a small web backend, with most kinds of nodes and edges. -/
namespace CodeGraph.Sample

def node (id name : Text) (kind : NodeKind) (path : Text) : Node :=
  { id, name, kind, path }

def edge (source target : Text) (kind : EdgeKind) : Edge :=
  { source, target, kind }

def nodes : List Node :=
  [node "1" "app.js" .file "src/app.js",
   node "2" "server.js" .file "src/server.js",
   node "3" "index.js" .file "src/index.js",
   node "4" "userRouter.js" .router "src/routes/userRouter.js",
   node "5" "productRouter.js" .router "src/routes/productRouter.js",
   node "6" "orderRouter.js" .router "src/routes/orderRouter.js",
   node "7" "authRouter.js" .router "src/routes/authRouter.js",
   node "8" "/api/users" .endpoint "/api/users",
   node "9" "/api/products" .endpoint "/api/products",
   node "10" "/api/orders" .endpoint "/api/orders",
   node "11" "/api/auth/login" .endpoint "/api/auth/login",
   node "12" "/api/auth/register" .endpoint "/api/auth/register",
   node "13" "UserService" .service "src/services/UserService.js",
   node "14" "ProductService" .service "src/services/ProductService.js",
   node "15" "OrderService" .service "src/services/OrderService.js",
   node "16" "AuthService" .service "src/services/AuthService.js",
   node "17" "EmailService" .service "src/services/EmailService.js",
   node "18" "users" .collection "db/users",
   node "19" "products" .collection "db/products",
   node "20" "orders" .collection "db/orders",
   node "21" "sessions" .collection "db/sessions",
   node "22" "logger.js" .utility "src/utils/logger.js",
   node "23" "validator.js" .utility "src/utils/validator.js",
   node "24" "helpers.js" .utility "src/utils/helpers.js",
   node "25" "migrate.py" .script "scripts/migrate.py",
   node "26" "seed.py" .script "scripts/seed.py",
   node "27" "user_cache" .cacheKey "cache:users",
   node "28" "product_cache" .cacheKey "cache:products",
   node "29" "sendEmails" .task "tasks/sendEmails.js",
   node "30" "processOrders" .task "tasks/processOrders.js",
   node "31" "stripeWebhook" .webhook "webhooks/stripe.js",
   node "32" "githubWebhook" .webhook "webhooks/github.js",
   node "33" "userCreated" .event "events/userCreated",
   node "34" "orderPlaced" .event "events/orderPlaced",
   node "35" "StripeAPI" .externalApi "https://api.stripe.com",
   node "36" "SendGridAPI" .externalApi "https://api.sendgrid.com",
   node "37" "middleware.js" .file "src/middleware.js",
   node "38" "config.js" .file "src/config.js",
   node "39" "database.js" .file "src/database.js",
   node "40" "redis.js" .file "src/redis.js"]

def edges : List Edge :=
  [edge "3" "1" .imports,
   edge "1" "2" .imports,
   edge "1" "37" .imports,
   edge "1" "38" .imports,
   edge "1" "4" .imports,
   edge "1" "5" .imports,
   edge "1" "6" .imports,
   edge "1" "7" .imports,
   edge "4" "8" .endpointHandler,
   edge "5" "9" .endpointHandler,
   edge "6" "10" .endpointHandler,
   edge "7" "11" .endpointHandler,
   edge "7" "12" .endpointHandler,
   edge "4" "13" .imports,
   edge "5" "14" .imports,
   edge "6" "15" .imports,
   edge "7" "16" .imports,
   edge "13" "18" .dbRead,
   edge "13" "18" .dbWrite,
   edge "14" "19" .dbRead,
   edge "14" "19" .dbWrite,
   edge "15" "20" .dbRead,
   edge "15" "20" .dbWrite,
   edge "16" "21" .dbRead,
   edge "16" "21" .dbWrite,
   edge "13" "27" .cacheRead,
   edge "13" "27" .cacheWrite,
   edge "14" "28" .cacheRead,
   edge "14" "28" .cacheWrite,
   edge "13" "22" .imports,
   edge "13" "23" .imports,
   edge "14" "22" .imports,
   edge "15" "23" .imports,
   edge "16" "24" .imports,
   edge "17" "36" .apiCall,
   edge "29" "17" .imports,
   edge "30" "15" .imports,
   edge "30" "35" .apiCall,
   edge "31" "15" .webhookReceive,
   edge "31" "35" .apiCall,
   edge "32" "26" .webhookReceive,
   edge "13" "33" .eventPublish,
   edge "15" "34" .eventPublish,
   edge "33" "17" .imports,
   edge "34" "30" .imports,
   edge "25" "18" .dbWrite,
   edge "25" "19" .dbWrite,
   edge "26" "18" .dbWrite,
   edge "26" "19" .dbWrite,
   edge "26" "20" .dbWrite,
   edge "39" "18" .dbRead,
   edge "39" "19" .dbRead,
   edge "39" "20" .dbRead,
   edge "40" "27" .cacheRead,
   edge "40" "28" .cacheRead]

def graph : Graph :=
  { nodes, edges }

end CodeGraph.Sample
