import Connectivity.Capabilities
/-! What a client asks of a network, and which demands no supplier could ever meet. -/
namespace Connectivity

structure Specifier where
  required : Capabilities := .none
  netType : Option NetType := none
  deriving DecidableEq, Repr, Inhabited

inductive SpecifierFlaw where
  | unknownCapabilities (bits : UInt64)
  | vpnWithoutVpn
  | unknownNetType (given : String)
  | stated (reason : String)
  deriving DecidableEq, Repr

namespace Specifier

/-- A supplier with these properties would do. Whether it is available is not asked here. -/
def isSatisfiedBy (s : Specifier) (netType : NetType) (capabilities : Capabilities) : Bool :=
  s.netType.all (· == netType) && capabilities.contains s.required

def concerns (s : Specifier) (netType : NetType) : Bool := s.netType.all (· == netType)

def flaw? (s : Specifier) : Option SpecifierFlaw :=
  if s.required.unknownBits ≠ 0 then some (.unknownCapabilities s.required.unknownBits)
  else if s.netType = some .vpn ∧ s.required.contains .notVpn then some .vpnWithoutVpn
  else none

end Specifier

end Connectivity
