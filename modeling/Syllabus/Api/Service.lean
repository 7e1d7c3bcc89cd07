/-
**The service.**

* `Service.route` — the response to a request: 404 for an unknown path, 405 for a verb that does not
  suit it, 400 for a parameter that is no text, else what the handler replies;
* `Service.serve` — the same behind a policy on other origins.
-/

import Syllabus.Api.Handler
import Syllabus.Http.Cors

namespace Syllabus.Service

/-- Programs that end with a response, whatever happens. -/
abbrev Responding := StoreProgram Empty Http.Response

/-- The response to what a handler came to. -/
def respond (outcome : Except ApiError Reply) : Http.Response :=
  match outcome with
  | .ok reply => reply.response
  | .error error => error.response

/-- The response to a parameter whose bytes are no text. -/
def badParameter (name : String) : Http.Response :=
  .plain 400 ("Invalid URL: Invalid UTF-8 in `" ++ name ++ "`")

/-- The response to a request with all of its body. -/
def routeWhole (backendName : String) (occasion : Occasion) (request : Http.Request) :
    Responding :=
  match Route.ofPath? (Route.path request.target) with
  | none => .done (.empty 404)
  | some route =>
    match Verb.ofMethod? request.method with
    | none => .done (.empty 405)
    | some verb =>
      if !route.verbs.contains verb then .done (.empty 405)
      else match route.decode with
        | .error name => .done (badParameter name)
        | .ok route =>
          match Handler.handle backendName occasion request verb route with
          | none => .done (.empty 405)
          | some program => do return respond (← program.outcome)

/-- The response to a request. -/
def route (backendName : String) (occasion : Occasion) (request : Http.Request) : Responding := do
  let response ← routeWhole backendName occasion request
  return if request.method = "HEAD" then response.bodiless else response

/-- The response to a request behind a policy on other origins, if there is one. -/
def serve (backendName : String) (cors : Option Http.Cors) (occasion : Occasion)
    (request : Http.Request) : Responding :=
  match cors with
  | none => route backendName occasion request
  | some cors =>
    if Http.Cors.isPreflight request then .done (cors.preflight request)
    else do return cors.decorate request (← route backendName occasion request)

end Syllabus.Service
