/-
**Sharing with other origins.**

* `Cors` — the policy: any origin, or the ones listed;
* `Cors.decorate` — a response as the policy lets the requester see it;
* `Cors.preflight` — the answer to a request of the method OPTIONS, given by the policy alone.
-/

import Syllabus.Http.Message

namespace Syllabus.Http

/-- Who may use the responses. -/
inductive Cors where
  | anyOrigin
  | origins (allowed : List String)

namespace Cors

/-- The policy for a list of origins: a star among them opens it to any, and what cannot stand in a
header is left out. -/
def ofOrigins (origins : List String) : Cors :=
  if origins.contains "*" then .anyOrigin else .origins (origins.filter isHeaderValue)

/-- The header that allows the origin of a request, if the policy does. -/
def allowOrigin (request : Request) : Cors → List (String × String)
  | .anyOrigin => [("access-control-allow-origin", "*")]
  | .origins allowed =>
    match header? "origin" request.headers with
    | some origin =>
      if allowed.contains origin then [("access-control-allow-origin", origin)] else []
    | none => []

/-- The header that opens all headers of a response, if the policy does. -/
def exposeHeaders : Cors → List (String × String)
  | .anyOrigin => [("access-control-expose-headers", "*")]
  | .origins _ => []

/-- The answer to a preflight request. -/
def preflight (request : Request) (cors : Cors) : Response :=
  (Response.empty 200).withHeaders (cors.allowOrigin request ++
    [("access-control-allow-methods", "*"), ("access-control-allow-headers", "*")])

/-- The request asks for the policy alone. -/
def isPreflight (request : Request) : Bool :=
  request.method == "OPTIONS"

/-- A response as the policy lets the requester see it. -/
def decorate (request : Request) (cors : Cors) (response : Response) : Response :=
  response.withHeaders (cors.allowOrigin request ++ cors.exposeHeaders)

end Cors

end Syllabus.Http
