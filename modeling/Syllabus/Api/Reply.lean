/-
**Replies to successful requests.**

* `Reply` — a status and the data of the answer; `Reply.response` — its envelope.
-/

import Syllabus.Api.Error

namespace Syllabus

/-- The answer to a successful request. -/
structure Reply where
  status : Nat
  /-- The data, or none if it cannot be written as JSON. -/
  data : Option Json

namespace Reply

/-- An answer with data. -/
def withStatus {α : Type} [Codec α] (status : Nat) (data : α) : Reply :=
  ⟨status, some (Codec.json data)⟩

/-- The data asked for. -/
def success {α : Type} [Codec α] (data : α) : Reply :=
  withStatus 200 data

/-- The record that was created. -/
def created {α : Type} [Codec α] (data : α) : Reply :=
  withStatus 201 data

/-- Done, and nothing to tell. -/
def noContent : Reply :=
  ⟨204, some .null⟩

/-- The response: the data in an envelope that says so, or no body at all. -/
def response (reply : Reply) : Http.Response :=
  if reply.status = 204 then .empty 204
  else match reply.data with
    | some data =>
      .json reply.status (Codec.text (Json.object [("success", .bool true), ("data", data)]))
    | none => (ApiError.internalServerError "Failed to serialize response data").response

end Reply

end Syllabus
