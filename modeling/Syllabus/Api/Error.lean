/-
**Errors as clients see them.**

* `ApiError` — the kinds of errors and their messages; status, code and body of each;
* `ApiError.ofStore`, `ApiError.ofCurriculum` — what a client is told of an error. Failures of the
  connection and of stored data are told without their details.
-/

import Syllabus.Codec.Basic
import Syllabus.Curriculum
import Syllabus.Http.Message

namespace Syllabus

/-- An error as a client sees it. -/
inductive ApiError where
  | badRequest (message : String)
  | invalidJson (message : String)
  | notFound (message : String)
  | conflict (message : String)
  | internalServerError (message : String)
  | serviceUnavailable (message : String)
  deriving DecidableEq

namespace ApiError

/-- The status of the response. -/
def status : ApiError → Nat
  | .badRequest _ => 400
  | .invalidJson _ => 400
  | .notFound _ => 404
  | .conflict _ => 409
  | .internalServerError _ => 500
  | .serviceUnavailable _ => 503

/-- The message for the client. -/
def message : ApiError → String
  | .badRequest message => message
  | .invalidJson message => message
  | .notFound message => message
  | .conflict message => message
  | .internalServerError message => message
  | .serviceUnavailable message => message

/-- The code that a client can tell errors by. -/
def code : ApiError → String
  | .badRequest _ => "BAD_REQUEST"
  | .invalidJson _ => "INVALID_JSON"
  | .notFound _ => "NOT_FOUND"
  | .conflict _ => "CONFLICT"
  | .internalServerError _ => "INTERNAL_SERVER_ERROR"
  | .serviceUnavailable _ => "SERVICE_UNAVAILABLE"

/-- The body of the response. -/
def json (error : ApiError) : Json :=
  .object [("error", .bool true), ("message", .string error.message), ("code", .string error.code)]

/-- The response. -/
def response (error : ApiError) : Http.Response :=
  .json error.status (Codec.text error.json)

/-- What a client is told of an error of the store. -/
def ofStore (error : StoreError) : ApiError :=
  match error with
  | .notFound _ _ => .notFound error.message
  | .duplicateKey _ _ | .conflict _ _ | .versionConflict _ _ _ => .conflict error.message
  | .missingContext _ | .invalidNamespace _ => .badRequest error.message
  | .decode _ _ | .encode _ | .notAnArray _ _ _ =>
    .internalServerError "Stored data could not be processed"
  | .timeout _ _ => .serviceUnavailable "Database did not respond in time"
  | .backend _ => .serviceUnavailable "Database temporarily unavailable"
  | .configMissing _ => .internalServerError "Service is misconfigured"

/-- What a client is told of the failure of a workflow. -/
def ofCurriculum (error : CurriculumError) : ApiError :=
  match error with
  | .store error => ofStore error
  | .notEmpty _ _ _ _ => .conflict error.message
  | .partialSync _ _ _ _ => .internalServerError error.message

end ApiError

end Syllabus
