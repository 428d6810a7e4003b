import Connectivity.Refusal
import Connectivity.Selection
/-! The registered suppliers. A supplier is known by an id; net type and identity together name at
most one live supplier. -/
namespace Connectivity

/-- What a second registration under the same net type and identity comes to. -/
inductive DuplicatePolicy where
  | reject
  | returnExisting
  deriving DecidableEq, Repr, Inhabited

/-- `availableCount` counts the moments at which a supplier became available. -/
structure Registry where
  suppliers : Table SupplierEntry := .empty
  ids : IdSource := {}
  availableCount : UInt64 := 0
  duplicates : DuplicatePolicy := .reject
  deriving DecidableEq

structure Registration where
  supplier : SupplierId
  created : Bool
  deriving DecidableEq, Repr

structure InfoChange where
  wasAvailable : Bool
  isAvailable : Bool
  deriving DecidableEq, Repr

namespace Registry

def find? (r : Registry) (id : SupplierId) : Option SupplierEntry := r.suppliers.find? id

def named? (r : Registry) (netType : NetType) (identity : String) : Option SupplierId :=
  (r.suppliers.entries.find? (fun e =>
    e.2.descriptor.netType == netType && e.2.descriptor.identity == identity)).map (·.1)

def entry (r : Registry) (id : SupplierId) : Except Refusal SupplierEntry :=
  match r.find? id with
  | some e => .ok e
  | none => .error (.unknownSupplier id)

/-- A new supplier is not available yet. -/
def register (r : Registry) (netType : NetType) (identity : String) (capabilities : Capabilities) :
    Except Refusal (Registration × Registry) :=
  match r.named? netType identity with
  | some existing =>
    match r.duplicates with
    | .reject => .error (.duplicateSupplier netType identity existing)
    | .returnExisting => .ok (⟨existing, false⟩, r)
  | none =>
    let (id, ids) := r.ids.take r.suppliers
    let e : SupplierEntry := { descriptor := { id, netType, identity, capabilities } }
    .ok (⟨id, true⟩, { r with suppliers := r.suppliers.insert id e, ids })

def unregister (r : Registry) (id : SupplierId) : Except Refusal (SupplierEntry × Registry) := do
  let e ← r.entry id
  return (e, { r with suppliers := r.suppliers.erase id })

/-- Becoming available is what the sequence number records; staying available is not. -/
def updateInfo (r : Registry) (id : SupplierId) (info : SupplierInfo) :
    Except Refusal (InfoChange × Registry) := do
  let e ← r.entry id
  let change : InfoChange := ⟨e.info.isAvailable, info.isAvailable⟩
  if info.isAvailable && !e.info.isAvailable then
    let count := r.availableCount + 1
    return (change, { r with
      suppliers := r.suppliers.insert id { e with info, availableSeq := count }
      availableCount := count })
  else
    return (change, { r with suppliers := r.suppliers.insert id { e with info } })

/-- Gives back the capabilities replaced. -/
def updateCapabilities (r : Registry) (id : SupplierId) (capabilities : Capabilities) :
    Except Refusal (Capabilities × Registry) := do
  let e ← r.entry id
  let replaced := { e with descriptor := { e.descriptor with capabilities } }
  return (e.capabilities, { r with suppliers := r.suppliers.insert id replaced })

def updateLink (r : Registry) (id : SupplierId) (link : LinkInfo) : Except Refusal Registry := do
  let e ← r.entry id
  return { r with suppliers := r.suppliers.insert id { e with link := some link } }

def contains (r : Registry) (id : SupplierId) : Bool := r.suppliers.contains id
def netType? (r : Registry) (id : SupplierId) : Option NetType := (r.find? id).map (·.netType)

def capabilities? (r : Registry) (id : SupplierId) : Option Capabilities :=
  (r.find? id).map (·.capabilities)

def list (r : Registry) : List SupplierEntry := r.suppliers.values

def availableIds (r : Registry) (netType : Option NetType) : List SupplierId :=
  (r.suppliers.filter (fun _ e => e.isAvailable && netType.all (· == e.netType))).keys

def candidates (r : Registry) : List Candidate :=
  (r.suppliers.filter (fun _ e => e.isAvailable)).values.map (fun e =>
    { supplier := e.descriptor.id
      netType := e.netType
      capabilities := e.capabilities
      signalStrength := e.info.signalStrength
      availableSeq := e.availableSeq })

end Registry

end Connectivity
