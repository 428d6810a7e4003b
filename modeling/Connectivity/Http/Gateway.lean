import Connectivity.Broker.Service
import Connectivity.Http.Message
import Connectivity.Http.Endpoint
import Connectivity.Http.Uri
import Connectivity.Wire.Status
/-! The broker's operations over HTTP. A request is checked in a fixed order: route, method, caller,
path, query, body. The first check that fails decides the response, and only a request that passes
them all reaches the broker. -/
namespace Connectivity

open Json

inductive HttpCall where
  | view (f : Service → Except Refusal Json)
  | command (c : Command)
  | stream (uid : Uid) (kind : RequestKind) (specifier : Specifier)

/-- Callers present the token. A stream of notifications holds as many as the queue depth says. -/
structure Gateway where
  token : String
  queueDepth : Nat
  deriving DecidableEq, Repr

structure SupplierForm where
  netType : NetType
  identity : String
  capabilities : Capabilities := .none

def SupplierForm.fields : List Field := [
  .of "net_type" NetType.decode,
  .of "identity" decodeString,
  .of "capabilities" Capabilities.decode]

def SupplierForm.decode : Decoder SupplierForm := fun v => do
  let met ← meet fields v
  let netType ← needed met "net_type" NetType.decode
  let identity ← needed met "identity" decodeString
  let capabilities ← optional met "capabilities" Capabilities.decode .none
  return { netType, identity, capabilities }

def decodeOnly {α : Type} (name : String) (d : Decoder α) : Decoder α := fun v => do
  let met ← meet [.of name d] v
  needed met name d

namespace HttpRequest

/-- The body, which has to be declared to be JSON. -/
def bodyAs {α : Type} (q : HttpRequest) (d : Decoder α) : Except HttpResponse α :=
  if !q.headers.hasJson then .error (.bare 415)
  else match decodeText d q.body with
    | .ok a => .ok a
    | .error .malformed => .error (.bare 400)
    | .error .mismatched => .error (.bare 422)

end HttpRequest

def textParameter (params : List (List Char)) : Except HttpResponse String :=
  match params.head?.bind Uri.text? with
  | some s => .ok s
  | none => .error (.bare 400)

def idParameter (params : List (List Char)) : Except HttpResponse UInt32 := do
  let s ← textParameter params
  match Decimal.count? 0xFFFFFFFF s with
  | some n => return UInt32.ofNat n
  | none => throw (.bare 400)

def flagParameter (query : List Char) (name : String) : Except HttpResponse Bool :=
  match Uri.flag? (Uri.pairs query) name with
  | some b => .ok b
  | none => .error (.bare 400)

def networksToJson (s : Service) : Except Refusal Json := do
  let available ← s.networks none
  let suppliers ← s.suppliers
  return .record [
    ("available", .array (available.map (fun id => .natural id.toNat))),
    ("suppliers", .array (suppliers.map SupplierEntry.toJson))]

def idsToJson (ids : List UInt32) : Json := .array (ids.map (fun id => .natural id.toNat))

namespace Operation

/-- A net type that is none is refused before the broker is asked. -/
def callOf (caller : Uid) (params : List (List Char)) (query : List Char) (q : HttpRequest) :
    Operation → Except HttpResponse HttpCall
  | status => .ok (.command .status)
  | registerSupplier => do
    let form ← q.bodyAs SupplierForm.decode
    return .command (.registerSupplier caller form.netType form.identity form.capabilities)
  | getSupplier => do
    let id ← idParameter params
    return .view (fun s => (s.supplier id).map SupplierEntry.toJson)
  | unregisterSupplier => do
    let id ← idParameter params
    return .command (.unregisterSupplier caller id)
  | updateInfo => do
    let id ← idParameter params
    let info ← q.bodyAs SupplierInfo.decode
    return .command (.updateInfo caller id info)
  | updateCapabilities => do
    let id ← idParameter params
    let capabilities ← q.bodyAs (decodeOnly "capabilities" Capabilities.decode)
    return .command (.updateCapabilities caller id capabilities)
  | updateLink => do
    let id ← idParameter params
    let link ← q.bodyAs LinkInfo.decode
    return .command (.updateLink caller id link)
  | networks => .ok (.view networksToJson)
  | networksOfType => do
    let given ← textParameter params
    match NetType.ofName? given with
    | some netType => return .view (fun s => (s.networks (some netType)).map idsToJson)
    | none => throw (.ofRefusal (.invalidSpecifier (.unknownNetType given)))
  | link => do
    let id ← idParameter params
    return .view (fun s => (s.link id).map (Json.ofOption LinkInfo.toJson))
  | capabilities => do
    let id ← idParameter params
    return .view (fun s => (s.capabilities id).map Capabilities.toJson)
  | default => .ok (.view (fun s => s.default.map (Json.ofOption (fun id => .natural id.toNat))))
  | hasDefault => .ok (.view (fun s => s.hasDefault.map Json.bool))
  | activate => do
    let specifier ← q.bodyAs Specifier.decode
    return .stream caller .request specifier
  | listen => do
    let specifier ← q.bodyAs Specifier.decode
    return .stream caller .listen specifier
  | trackDefault => .ok (.stream caller .trackDefault {})
  | deactivate => do
    let id ← idParameter params
    return .command (.deactivate caller id)
  | getUidPolicy => do
    let uid ← idParameter params
    return .view (fun s => (s.uidPolicy uid).map (fun p => .natural p.toNat))
  | setUidPolicy => do
    let uid ← idParameter params
    let policy ← q.bodyAs (decodeOnly "policy" decodeWord32)
    return .command (.setUidPolicy caller uid policy)
  | uidAllowed => do
    let uid ← idParameter params
    let metered ← flagParameter query "metered"
    let background ← flagParameter query "background"
    return .view (fun s => (s.allowed uid metered background).map Json.bool)
  | setUidState => do
    let uid ← idParameter params
    let background ← q.bodyAs (decodeOnly "background" decodeBool)
    return .command (.setUidBackground caller uid background)
  | uidsWithPolicy => do
    let mask ← idParameter params
    return .view (fun s => (s.uidsWith mask).map idsToJson)
  | getBackground => .ok (.view (fun s => s.restricted.map Json.bool))
  | setBackground => do
    let restricted ← q.bodyAs (decodeOnly "restricted" decodeBool)
    return .command (.setBackgroundPolicy caller restricted)
  | backgroundOfUid => do
    let uid ← idParameter params
    return .view (fun s => (s.backgroundPolicy uid).map BackgroundPolicy.toJson)

end Operation

structure Exchange where
  response : HttpResponse
  service : Service
  deeds : Deeds := {}

namespace Gateway

def basePath : List Char := "/api".toList

def callOf (g : Gateway) (q : HttpRequest) : Except HttpResponse HttpCall :=
  let (path, query) := Uri.ofTarget q.target
  match (Uri.segmentsBelow basePath path).bind Endpoint.find? with
  | none => .error (.bare 404)
  | some (endpoint, params) =>
    match endpoint.operation? q.method with
    | none => .error (.bare 405)
    | some operation =>
      match q.headers.caller g.token with
      | .error fault => .error (.envelope (.ofCallerFault fault))
      | .ok caller => operation.callOf caller params query q

/-- A stream is a listener with one request. If the request is refused, the listener goes again. -/
def openStream (g : Gateway) (s : Service) (uid : Uid) (kind : RequestKind)
    (specifier : Specifier) : Exchange :=
  let opened := s.call (.registerListener uid (.newChannel g.queueDepth))
  match opened.id with
  | .error r => ⟨.ofRefusal r, opened.service, opened.deeds⟩
  | .ok listener =>
    let active := opened.service.call (.activate kind specifier listener)
    match active.id with
    | .ok request => ⟨.stream listener request, active.service, active.deeds⟩
    | .error r => ⟨.ofRefusal r, (active.service.call (.unregisterListener listener)).service, {}⟩

def carryOut (g : Gateway) (s : Service) : HttpCall → Exchange
  | .view f => ⟨.ofReply id (f s), s, {}⟩
  | .command c =>
    let o := s.call c
    ⟨.ofReply Answer.toJson o.reply, o.service, o.deeds⟩
  | .stream uid kind specifier => g.openStream s uid kind specifier

/-- Nobody reads the stream that a request for headers alone opens. -/
def forHeadersAlone (x : Exchange) : Exchange :=
  { x with
    response := x.response.withoutBody
    service := match x.response with
      | .stream listener _ => x.service.disconnect listener
      | _ => x.service }

/-- OPTIONS is answered whatever the target. -/
def answer (g : Gateway) (s : Service) (q : HttpRequest) : Exchange :=
  if q.method = "OPTIONS" then ⟨.bare 200, s, {}⟩
  else
    let x := match g.callOf q with
      | .error response => ⟨response, s, {}⟩
      | .ok call => g.carryOut s call
    if q.method = "HEAD" then forHeadersAlone x else x

end Gateway

end Connectivity
