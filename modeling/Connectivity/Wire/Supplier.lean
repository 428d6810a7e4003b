import Connectivity.Json.Decoder
import Connectivity.Registry
import Connectivity.Wire.Link
/-! Suppliers, specifiers and result codes in JSON. -/
namespace Connectivity

open Json

namespace NetType

def names : List (String × NetType) := all.map (fun t => (t.name, t))

def toJson (t : NetType) : Json := .string t.name
def decode : Decoder NetType := decodeName names

end NetType

namespace Capabilities

def toJson (c : Capabilities) : Json := .natural c.bits.toNat
def decode : Decoder Capabilities := fun v => (decodeWord64 v).map Capabilities.mk

end Capabilities

namespace SupplierDescriptor

def toJson (d : SupplierDescriptor) : Json := .record [
  ("supplier_id", .natural d.id.toNat),
  ("net_type", d.netType.toJson),
  ("identity", .string d.identity),
  ("capabilities", d.capabilities.toJson)]

def fields : List Field := [
  .of "supplier_id" decodeWord32,
  .of "net_type" NetType.decode,
  .of "identity" decodeString,
  .of "capabilities" Capabilities.decode]

def decode : Decoder SupplierDescriptor := fun v => do
  let met ← meet fields v
  let id ← needed met "supplier_id" decodeWord32
  let netType ← needed met "net_type" NetType.decode
  let identity ← needed met "identity" decodeString
  let capabilities ← needed met "capabilities" Capabilities.decode
  return { id, netType, identity, capabilities }

end SupplierDescriptor

namespace SupplierInfo

def toJson (i : SupplierInfo) : Json := .record [
  ("is_available", .bool i.isAvailable),
  ("is_roaming", .bool i.isRoaming),
  ("signal_strength", .natural i.signalStrength.toNat),
  ("frequency", .natural i.frequency.toNat)]

def fields : List Field := [
  .of "is_available" decodeBool,
  .of "is_roaming" decodeBool,
  .of "signal_strength" decodeWord8,
  .of "frequency" decodeWord32]

def decode : Decoder SupplierInfo := fun v => do
  let met ← meet fields v
  let isAvailable ← needed met "is_available" decodeBool
  let isRoaming ← needed met "is_roaming" decodeBool
  let signalStrength ← needed met "signal_strength" decodeWord8
  let frequency ← needed met "frequency" decodeWord32
  return { isAvailable, isRoaming, signalStrength, frequency }

end SupplierInfo

def SupplierEntry.toJson (e : SupplierEntry) : Json := .record [
  ("descriptor", e.descriptor.toJson),
  ("info", e.info.toJson),
  ("link_info", .ofOption LinkInfo.toJson e.link),
  ("available_seq", .natural e.availableSeq.toNat)]

namespace Specifier

def toJson (s : Specifier) : Json := .record [
  ("required_capabilities", s.required.toJson),
  ("net_type", .ofOption NetType.toJson s.netType)]

def fields : List Field := [
  .of "required_capabilities" Capabilities.decode,
  .of "net_type" (decodeOption NetType.decode)]

def decode : Decoder Specifier := fun v => do
  let met ← meet fields v
  let required ← optional met "required_capabilities" Capabilities.decode .none
  let netType ← optional met "net_type" (decodeOption NetType.decode) none
  return { required, netType }

end Specifier

namespace DuplicatePolicy

def name : DuplicatePolicy → String
  | reject => "reject"
  | returnExisting => "return_existing"

def names : List (String × DuplicatePolicy) := [reject, returnExisting].map (fun p => (p.name, p))

def ofName? (s : String) : Option DuplicatePolicy := names.lookup s

def toJson (p : DuplicatePolicy) : Json := .string p.name
def decode : Decoder DuplicatePolicy := decodeName names

end DuplicatePolicy

namespace ResultCode

def toJson (c : ResultCode) : Json := .natural c.number

def decode : Decoder ResultCode := fun v => do
  let n ← decodeWord8 v
  match ofNumber? n.toNat with
  | some c => return c
  | none => throw .mismatched

end ResultCode

end Connectivity
