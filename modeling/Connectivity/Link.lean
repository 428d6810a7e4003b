/-! How a network is configured on the device: addresses, routes, name servers. -/
namespace Connectivity

inductive AddressFamily where
  | ipv4
  | ipv6
  deriving DecidableEq, Repr, Inhabited

inductive AddressKind where
  | unicast
  | gateway
  | dns
  deriving DecidableEq, Repr, Inhabited

structure NetAddress where
  kind : AddressKind
  family : AddressFamily
  prefixLength : UInt8
  address : String
  netmask : String := ""
  hostname : String := ""
  deriving DecidableEq, Repr, Inhabited

namespace NetAddress

def unicast (family : AddressFamily) (address : String) (prefixLength : UInt8) : NetAddress :=
  { kind := .unicast, family, prefixLength, address }

def nameServer (family : AddressFamily) (address : String) : NetAddress :=
  { kind := .dns, family, prefixLength := 0, address }

end NetAddress

structure Route where
  iface : String
  destination : NetAddress
  gateway : NetAddress
  hasGateway : Bool := false
  isDefaultRoute : Bool := false
  deriving DecidableEq, Repr, Inhabited

/-- Name servers keep their order and their repetitions. -/
structure LinkInfo where
  ifaceName : String
  addresses : List NetAddress := []
  routes : List Route := []
  nameServers : List NetAddress := []
  domain : String := ""
  mtu : UInt16 := 0
  deriving DecidableEq, Repr, Inhabited

end Connectivity
