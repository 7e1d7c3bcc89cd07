/-
**Requests and responses of HTTP.**

* `Http.Request`, `Http.Response` — messages, with the method and target as they were sent;
* `Http.header?` — the first header of a name, in any case.
-/

namespace Syllabus.Http

/-- A request as it was sent. Its body is a text: requests whose bodies are not UTF-8 are left out. -/
structure Request where
  method : String
  target : String
  headers : List (String × String)
  body : String

/-- A response. -/
structure Response where
  status : Nat
  headers : List (String × String)
  body : String
  deriving DecidableEq

/-- The first header of a name, in any case. -/
def header? (name : String) (headers : List (String × String)) : Option String :=
  (headers.find? fun (given, _) => given.map Char.toLower = name.map Char.toLower).map (·.2)

/-- The header that names the kind of a body. -/
def contentType : String := "content-type"

/-- The value may stand in a header: it has no control characters but tabs. -/
def isHeaderValue (value : String) : Bool :=
  value.toList.all fun c => (0x20 ≤ c.toNat && c.toNat != 0x7F) || c == '\t'

/-- The value of a header can be read as text: printable ASCII and tabs. -/
def isHeaderText (value : String) : Bool :=
  value.toList.all fun c => (0x20 ≤ c.toNat && c.toNat < 0x7F) || c == '\t'

namespace Response

/-- A response without a body. -/
def empty (status : Nat) : Response :=
  ⟨status, [], ""⟩

/-- A response with a body of JSON. -/
def json (status : Nat) (body : String) : Response :=
  ⟨status, [(contentType, "application/json")], body⟩

/-- A response with a body of plain text. -/
def plain (status : Nat) (body : String) : Response :=
  ⟨status, [(contentType, "text/plain; charset=utf-8")], body⟩

/-- A response with more headers. -/
def withHeaders (response : Response) (headers : List (String × String)) : Response :=
  { response with headers := response.headers ++ headers }

/-- A response without its body, as a request that asks for the headers alone gets it. -/
def bodiless (response : Response) : Response :=
  { response with body := "" }

end Response

end Syllabus.Http
