/-! What kind of network a supplier offers and what that network can do. A capability set is a word
of bits; only some positions have a meaning. -/
namespace Connectivity

inductive NetType where
  | cellular
  | wifi
  | bluetooth
  | ethernet
  | vpn
  | wifiAware
  deriving DecidableEq, Repr, Inhabited

namespace NetType

def name : NetType → String
  | cellular => "cellular"
  | wifi => "wifi"
  | bluetooth => "bluetooth"
  | ethernet => "ethernet"
  | vpn => "vpn"
  | wifiAware => "wifiaware"

def all : List NetType := [cellular, wifi, bluetooth, ethernet, vpn, wifiAware]

def ofName? (s : String) : Option NetType := all.find? (fun t => t.name == s)

theorem ofName?_name (t : NetType) : ofName? t.name = some t := by cases t <;> decide

end NetType

structure Capabilities where
  bits : UInt64
  deriving DecidableEq, Repr, Inhabited

namespace Capabilities

def none : Capabilities := ⟨0⟩
def single (position : UInt64) : Capabilities := ⟨1 <<< position⟩
def union (a b : Capabilities) : Capabilities := ⟨a.bits ||| b.bits⟩

def mms := single 0
def supl := single 1
def dun := single 2
def ia := single 3
def xcap := single 4
def notMetered := single 11
def internet := single 12
def notVpn := single 15
def validated := single 16
def portal := single 17
def internalDefault := single 18
def checkingConnectivity := single 31

/-- Every bit that has a meaning. -/
def known : Capabilities :=
  [mms, supl, dun, ia, xcap, notMetered, internet, notVpn, validated, portal, internalDefault,
    checkingConnectivity].foldl union none

/-- Every bit of `b` is set in `a`. -/
def contains (a b : Capabilities) : Bool := a.bits &&& b.bits == b.bits

def isEmpty (a : Capabilities) : Bool := a.bits == 0

/-- The bits that have no meaning. -/
def unknownBits (a : Capabilities) : UInt64 := a.bits &&& ~~~known.bits

/-- A network is metered unless it is said not to be. -/
def isMetered (a : Capabilities) : Bool := !a.contains notMetered

end Capabilities

end Connectivity
