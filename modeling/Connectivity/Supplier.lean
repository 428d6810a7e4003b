import Connectivity.Capabilities
import Connectivity.IdSource
import Connectivity.Link
/-! Suppliers of networks: what they said when they registered and what they report since. -/
namespace Connectivity

structure SupplierDescriptor where
  id : SupplierId
  netType : NetType
  identity : String
  capabilities : Capabilities
  deriving DecidableEq, Repr, Inhabited

structure SupplierInfo where
  isAvailable : Bool := false
  isRoaming : Bool := false
  signalStrength : UInt8 := 0
  frequency : UInt32 := 0
  deriving DecidableEq, Repr, Inhabited

/-- `availableSeq` numbers the moment the supplier last became available; a later moment has a
larger number. -/
structure SupplierEntry where
  descriptor : SupplierDescriptor
  info : SupplierInfo := {}
  link : Option LinkInfo := none
  availableSeq : UInt64 := 0
  deriving DecidableEq, Repr, Inhabited

namespace SupplierEntry

def isAvailable (e : SupplierEntry) : Bool := e.info.isAvailable
def netType (e : SupplierEntry) : NetType := e.descriptor.netType
def capabilities (e : SupplierEntry) : Capabilities := e.descriptor.capabilities

end SupplierEntry

end Connectivity
