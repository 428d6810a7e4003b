import Connectivity.Http.Gateway
/-! The handlers, one for each operation. A handler asks for the parts of a request that it needs one
after the other, and the first that is not there decides the response. That the caller comes first is
no rule of the router: every handler sees to it by itself. -/
namespace Connectivity

open Json

structure RoutedRequest where
  token : String
  params : List (List Char)
  query : List Char
  request : HttpRequest

namespace RoutedRequest

def caller (r : RoutedRequest) : Except HttpResponse Uid :=
  match r.request.headers.caller r.token with
  | .ok caller => .ok caller
  | .error fault => .error (.envelope (.ofCallerFault fault))

def text (r : RoutedRequest) : Except HttpResponse String := textParameter r.params

def id (r : RoutedRequest) : Except HttpResponse UInt32 := idParameter r.params

def flag (r : RoutedRequest) (name : String) : Except HttpResponse Bool :=
  flagParameter r.query name

def body {α : Type} (r : RoutedRequest) (d : Decoder α) : Except HttpResponse α :=
  r.request.bodyAs d

end RoutedRequest

/-- What the handler of an operation makes of a request. -/
def Operation.handle (r : RoutedRequest) : Operation → Except HttpResponse HttpCall
  | status => do
    let _ ← r.caller
    return .command .status
  | registerSupplier => do
    let caller ← r.caller
    let form ← r.body SupplierForm.decode
    return .command (.registerSupplier caller form.netType form.identity form.capabilities)
  | getSupplier => do
    let _ ← r.caller
    let id ← r.id
    return .view (fun s => (s.supplier id).map SupplierEntry.toJson)
  | unregisterSupplier => do
    let caller ← r.caller
    let id ← r.id
    return .command (.unregisterSupplier caller id)
  | updateInfo => do
    let caller ← r.caller
    let id ← r.id
    let info ← r.body SupplierInfo.decode
    return .command (.updateInfo caller id info)
  | updateCapabilities => do
    let caller ← r.caller
    let id ← r.id
    let capabilities ← r.body (decodeOnly "capabilities" Capabilities.decode)
    return .command (.updateCapabilities caller id capabilities)
  | updateLink => do
    let caller ← r.caller
    let id ← r.id
    let link ← r.body LinkInfo.decode
    return .command (.updateLink caller id link)
  | networks => do
    let _ ← r.caller
    return .view networksToJson
  | networksOfType => do
    let _ ← r.caller
    let given ← r.text
    match NetType.ofName? given with
    | some netType => return .view (fun s => (s.networks (some netType)).map idsToJson)
    | none => throw (.ofRefusal (.invalidSpecifier (.unknownNetType given)))
  | link => do
    let _ ← r.caller
    let id ← r.id
    return .view (fun s => (s.link id).map (Json.ofOption LinkInfo.toJson))
  | capabilities => do
    let _ ← r.caller
    let id ← r.id
    return .view (fun s => (s.capabilities id).map Capabilities.toJson)
  | default => do
    let _ ← r.caller
    return .view (fun s => s.default.map (Json.ofOption (fun id => .natural id.toNat)))
  | hasDefault => do
    let _ ← r.caller
    return .view (fun s => s.hasDefault.map Json.bool)
  | activate => do
    let caller ← r.caller
    let specifier ← r.body Specifier.decode
    return .stream caller .request specifier
  | listen => do
    let caller ← r.caller
    let specifier ← r.body Specifier.decode
    return .stream caller .listen specifier
  | trackDefault => do
    let caller ← r.caller
    return .stream caller .trackDefault {}
  | deactivate => do
    let caller ← r.caller
    let id ← r.id
    return .command (.deactivate caller id)
  | getUidPolicy => do
    let _ ← r.caller
    let uid ← r.id
    return .view (fun s => (s.uidPolicy uid).map (fun p => .natural p.toNat))
  | setUidPolicy => do
    let caller ← r.caller
    let uid ← r.id
    let policy ← r.body (decodeOnly "policy" decodeWord32)
    return .command (.setUidPolicy caller uid policy)
  | uidAllowed => do
    let _ ← r.caller
    let uid ← r.id
    let metered ← r.flag "metered"
    let background ← r.flag "background"
    return .view (fun s => (s.allowed uid metered background).map Json.bool)
  | setUidState => do
    let caller ← r.caller
    let uid ← r.id
    let background ← r.body (decodeOnly "background" decodeBool)
    return .command (.setUidBackground caller uid background)
  | uidsWithPolicy => do
    let _ ← r.caller
    let mask ← r.id
    return .view (fun s => (s.uidsWith mask).map idsToJson)
  | getBackground => do
    let _ ← r.caller
    return .view (fun s => s.restricted.map Json.bool)
  | setBackground => do
    let caller ← r.caller
    let restricted ← r.body (decodeOnly "restricted" decodeBool)
    return .command (.setBackgroundPolicy caller restricted)
  | backgroundOfUid => do
    let _ ← r.caller
    let uid ← r.id
    return .view (fun s => (s.backgroundPolicy uid).map BackgroundPolicy.toJson)

def HttpRequest.endpoint? (q : HttpRequest) : Option (Endpoint × List (List Char)) :=
  (Uri.segmentsBelow Gateway.basePath (Uri.ofTarget q.target).1).bind Endpoint.find?

/-- Hands a request to the handler that its path and its method stand for. -/
def Gateway.dispatch (g : Gateway) (q : HttpRequest) : Except HttpResponse HttpCall :=
  match q.endpoint? with
  | none => .error (.bare 404)
  | some (endpoint, params) =>
    match endpoint.operation? q.method with
    | none => .error (.bare 405)
    | some operation => operation.handle ⟨g.token, params, (Uri.ofTarget q.target).2, q⟩

end Connectivity
