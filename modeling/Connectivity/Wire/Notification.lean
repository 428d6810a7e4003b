import Connectivity.Matcher
import Connectivity.Notification
import Connectivity.Wire.Supplier
/-! Requests and notifications in JSON. An event is an object of a type and its data, in either
order; data that comes before its type is kept until the type is known, which only data of
bounded depth can be, with strings and numbers that have a value. It may also be an array, which
begins with the bare name of the type. -/
namespace Connectivity

open Json

namespace RequestKind

def name : RequestKind → String
  | request => "request"
  | listen => "listen"
  | trackDefault => "track_default"

def names : List (String × RequestKind) :=
  [request, listen, trackDefault].map (fun k => (k.name, k))

def toJson (k : RequestKind) : Json := .string k.name
def decode : Decoder RequestKind := decodeName names

end RequestKind

def ActiveRequest.toJson (r : ActiveRequest) : Json := .record [
  ("request_id", .natural r.id.toNat),
  ("kind", r.kind.toJson),
  ("specifier", r.specifier.toJson),
  ("listener", .natural r.listener.toNat),
  ("bound", .ofOption (fun id => .natural id.toNat) r.bound),
  ("announced", .ofOption (fun id => .natural id.toNat) r.announced)]

namespace Json

mutual

/-- A value that can be kept for later, with room for `depth` levels of arrays and objects. -/
def canKeep (depth : Nat) : Json → Bool
  | .broken => false
  | .halfPair => false
  | .number literal => !Number.overflows literal
  | .array items => 0 < depth && allCanKeep (depth - 1) items
  | .object members => 0 < depth && membersCanKeep (depth - 1) members
  | _ => true

def allCanKeep (depth : Nat) : List Json → Bool
  | [] => true
  | v :: rest => canKeep depth v && allCanKeep depth rest

def membersCanKeep (depth : Nat) : List (Option String × Json) → Bool
  | [] => true
  | (key, v) :: rest => key.isSome && canKeep depth v && membersCanKeep depth rest

end

mutual

/-- A value as it is kept: an empty object is not told from null any more. -/
def kept : Json → Json
  | .array items => .array (keptItems items)
  | .object members => if members.isEmpty then .null else .object (keptMembers members)
  | v => v

def keptItems : List Json → List Json
  | [] => []
  | v :: rest => v.kept :: keptItems rest

def keptMembers : List (Option String × Json) → List (Option String × Json)
  | [] => []
  | (key, v) :: rest => (key, v.kept) :: keptMembers rest

end

/-- Arrays and objects nest no deeper than this where their content matters. -/
def depthLimit : Nat := 127

end Json

inductive EventType where
  | available
  | lost
  | capabilitiesChanged
  | linkChanged
  deriving DecidableEq

namespace EventType

def names : List (String × EventType) := [
  ("available", available),
  ("lost", lost),
  ("capabilities_changed", capabilitiesChanged),
  ("link_properties_changed", linkChanged)]

def decode : Decoder EventType := decodeName names

def decodeBare : Decoder EventType := fun v => do
  let name ← decodeString v
  match names.lookup name with
  | some t => return t
  | none => throw .mismatched

/-- The data of an event of this type. -/
def decodeData (t : EventType) : Decoder NetworkEvent := fun v =>
  match t with
  | available => (decodeWord32 v).map .available
  | lost => (decodeWord32 v).map .lost
  | capabilitiesChanged => (Capabilities.decode v).map .capabilitiesChanged
  | linkChanged => (LinkInfo.decode v).map .linkChanged

end EventType

namespace NetworkEvent

def toJson : NetworkEvent → Json
  | available id => .record [("type", .string "available"), ("data", .natural id.toNat)]
  | lost id => .record [("type", .string "lost"), ("data", .natural id.toNat)]
  | capabilitiesChanged c => .record [("type", .string "capabilities_changed"), ("data", c.toJson)]
  | linkChanged l => .record [("type", .string "link_properties_changed"), ("data", l.toJson)]

/-- What is known of an event part way through its members. -/
inductive Progress where
  | nothing
  | type (t : EventType)
  | kept (data : Json)
  | whole (e : NetworkEvent)

def decodeMembers (depth : Nat) (p : Progress) :
    List (Option String × Json) → Except Fault NetworkEvent
  | [] => match p with
    | .whole e => .ok e
    | _ => .error .mismatched
  | (none, _) :: _ => .error .malformed
  | (some key, v) :: rest =>
    if key = "type" then
      match p with
      | .nothing => do
        let t ← EventType.decode v
        decodeMembers depth (.type t) rest
      | .kept data => do
        let t ← EventType.decode v
        let e ← t.decodeData data
        decodeMembers depth (.whole e) rest
      | _ => .error .mismatched
    else if key = "data" then
      match p with
      | .nothing =>
        if v.canKeep depth then decodeMembers depth (.kept v.kept) rest else .error .malformed
      | .type t => do
        let e ← t.decodeData v
        decodeMembers depth (.whole e) rest
      | _ => .error .mismatched
    else if v.isWhole then decodeMembers depth p rest
    else .error .malformed

/-- `depth` is the room for arrays and objects around the data. -/
def decodeWithin (depth : Nat) : Decoder NetworkEvent
  | .object members => decodeMembers (depth - 1) .nothing members
  | .array (t :: data :: rest) => do
    let t ← EventType.decodeBare t
    let e ← t.decodeData data
    if rest.isEmpty then return e else throw .malformed
  | .array [t] => do
    let _ ← EventType.decodeBare t
    throw .mismatched
  | v => .error v.faultOf

def decode : Decoder NetworkEvent := decodeWithin depthLimit

end NetworkEvent

namespace Notification

def toJson (n : Notification) : Json := .record [
  ("request_id", .natural n.request.toNat),
  ("event", n.event.toJson)]

def decodeEvent : Decoder NetworkEvent := NetworkEvent.decodeWithin (depthLimit - 1)

def fields : List Field := [
  .of "request_id" decodeWord32,
  .of "event" decodeEvent]

def decode : Decoder Notification := fun v => do
  let met ← meet fields v
  let request ← needed met "request_id" decodeWord32
  let event ← needed met "event" decodeEvent
  return { request, event }

end Notification

end Connectivity
