import Connectivity.Http.Header
import Connectivity.Refusal
import Connectivity.Wire.Supplier
/-! What a caller sends over HTTP and what comes back: an envelope in JSON, a bare status, or a
stream of notifications. -/
namespace Connectivity

/-- The target is a path, with a query if there is one. -/
structure HttpRequest where
  method : String
  target : String
  headers : Headers := []
  body : String := ""

/-- Either the value or the error is given, but a value may itself be null. -/
structure Envelope where
  code : ResultCode
  value : Json := .null
  error : Option String := none

namespace Envelope

def ofValue (v : Json) : Envelope := { code := .ok, value := v }

def ofRefusal (r : Refusal) : Envelope := { code := r.code, error := some r.message }

def ofCallerFault (f : CallerFault) : Envelope :=
  { code := .invalidInterface, error := some f.message }

def toJson (e : Envelope) : Json := .record [
  ("code", e.code.toJson),
  ("value", e.value),
  ("error", .ofOption .string e.error)]

end Envelope

inductive HttpResponse where
  | bare (status : Nat)
  | envelope (e : Envelope)
  | stream (listener : ListenerId) (request : RequestId)

namespace HttpResponse

def ofRefusal (r : Refusal) : HttpResponse := .envelope (.ofRefusal r)

def ofReply {α : Type} (toJson : α → Json) : Except Refusal α → HttpResponse
  | .ok a => .envelope (.ofValue (toJson a))
  | .error r => .ofRefusal r

def status : HttpResponse → Nat
  | bare status => status
  | envelope e => e.code.httpStatus
  | stream .. => 200

def withoutBody : HttpResponse → HttpResponse
  | envelope e => .bare e.code.httpStatus
  | r => r

end HttpResponse

end Connectivity
