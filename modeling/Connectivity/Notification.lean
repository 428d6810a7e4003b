import Connectivity.Supplier
/-! What listeners are told. -/
namespace Connectivity

inductive NetworkEvent where
  | available (supplier : SupplierId)
  | lost (supplier : SupplierId)
  | capabilitiesChanged (capabilities : Capabilities)
  | linkChanged (link : LinkInfo)
  deriving DecidableEq, Repr

structure Notification where
  request : RequestId
  event : NetworkEvent
  deriving DecidableEq, Repr

end Connectivity
