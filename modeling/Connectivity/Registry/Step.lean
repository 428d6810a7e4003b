import Connectivity.Registry
/-! A registry, one call at a time. -/
namespace Connectivity

inductive RegistryStep where
  | register (netType : NetType) (identity : String) (capabilities : Capabilities)
  | unregister (id : SupplierId)
  | updateInfo (id : SupplierId) (info : SupplierInfo)
  | updateCapabilities (id : SupplierId) (capabilities : Capabilities)
  | updateLink (id : SupplierId) (link : LinkInfo)
  deriving DecidableEq

namespace Registry

/-- A call that is refused leaves the registry as it is. -/
def act (r : Registry) : RegistryStep → Registry
  | .register netType identity capabilities =>
    match r.register netType identity capabilities with
    | .ok (_, s) => s
    | .error _ => r
  | .unregister id =>
    match r.unregister id with
    | .ok (_, s) => s
    | .error _ => r
  | .updateInfo id info =>
    match r.updateInfo id info with
    | .ok (_, s) => s
    | .error _ => r
  | .updateCapabilities id capabilities =>
    match r.updateCapabilities id capabilities with
    | .ok (_, s) => s
    | .error _ => r
  | .updateLink id link =>
    match r.updateLink id link with
    | .ok s => s
    | .error _ => r

def run (r : Registry) (steps : List RegistryStep) : Registry := steps.foldl act r

def issued? (r : Registry) : RegistryStep → Option SupplierId
  | .register netType identity capabilities =>
    match r.register netType identity capabilities with
    | .ok (⟨id, true⟩, _) => some id
    | _ => none
  | _ => none

end Registry

end Connectivity
