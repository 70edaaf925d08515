import EndpointGuard.Demo.Service

/-!
# The startup text of the demo

The lines that tell a reader of the console how the demo is called.
-/

namespace EndpointGuard.Demo

/-- The lines about one endpoint: its name and policy, and the address of each method. -/
def endpointLines (settings : Settings) (endpoint : ResolvedEndpoint) : List String :=
  ("  " ++ endpoint.name ++ " (" ++ endpoint.typePolicy.display ++ ")") ::
    endpoint.methodNames.map fun method ↦
      "    POST " ++ settings.pathPrefix ++ "/" ++ endpoint.name ++ "/" ++ method

/-- The lines printed at startup. -/
def startupLines (settings : Settings) (registry : Registry) : List String :=
  ["=== Endpoint Access Demo ===",
    "",
    "Server: http://127.0.0.1:8080",
    "Dev mode: " ++ (if settings.devMode then "true" else "false"),
    "",
    "Tokens:",
    "  admin-token - Roles: [ADMIN, USER]",
    "  user-token  - Roles: [USER]",
    "",
    "Endpoints:"] ++
  (registry.endpointNames.filterMap registry.endpoint).flatMap (endpointLines settings) ++
  ["",
    "Examples:",
    "  curl -X POST http://127.0.0.1:8080/connect/orders/count",
    "  curl -X POST http://127.0.0.1:8080/connect/orders/list             # 401",
    "  curl -X POST -H 'Authorization: Bearer user-token' \\",
    "       -H 'Content-Type: application/json' -d '\x7b\"item\":\"book\"\x7d' \\",
    "       http://127.0.0.1:8080/connect/orders/place",
    "  curl -X POST -H 'Authorization: Bearer user-token' \\",
    "       -H 'Content-Type: application/json' -d '\x7b\"id\":1\x7d' \\",
    "       http://127.0.0.1:8080/connect/orders/cancel                   # 401",
    ""]

end EndpointGuard.Demo
