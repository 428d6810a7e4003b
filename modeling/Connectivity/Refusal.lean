import Connectivity.Specifier
import Connectivity.Supplier
import Connectivity.Text.Decimal
import Connectivity.Text.Quoted
/-! Why a call fails, and the codes a caller is given. -/
namespace Connectivity

inductive Refusal where
  | unknownSupplier (id : SupplierId)
  | unknownRequest (id : RequestId)
  | duplicateSupplier (netType : NetType) (identity : String) (existing : SupplierId)
  | invalidSpecifier (flaw : SpecifierFlaw)
  | notPermitted (caller : Uid)
  | listenerUnreachable
  | notReady
  deriving DecidableEq, Repr

/-- Every call ends in one of these. -/
inductive ResultCode where
  | ok
  | unknownSupplier
  | unknownRequest
  | duplicateSupplier
  | invalidSpecifier
  | permissionDenied
  | transportFailure
  | uninitialized
  | invalidInterface
  deriving DecidableEq, Repr, Inhabited

namespace ResultCode

/-- In the order of their numbers. -/
def all : List ResultCode :=
  [ok, unknownSupplier, unknownRequest, duplicateSupplier, invalidSpecifier, permissionDenied,
    transportFailure, uninitialized, invalidInterface]

def number : ResultCode → Nat
  | ok => 0
  | unknownSupplier => 1
  | unknownRequest => 2
  | duplicateSupplier => 3
  | invalidSpecifier => 4
  | permissionDenied => 5
  | transportFailure => 6
  | uninitialized => 7
  | invalidInterface => 8

def ofNumber? (n : Nat) : Option ResultCode := all[n]?

theorem ofNumber?_number (c : ResultCode) : ofNumber? c.number = some c := by cases c <;> rfl

def httpStatus : ResultCode → Nat
  | ok => 200
  | unknownSupplier => 404
  | unknownRequest => 404
  | duplicateSupplier => 409
  | invalidSpecifier => 400
  | permissionDenied => 403
  | transportFailure => 502
  | uninitialized => 503
  | invalidInterface => 401

end ResultCode

def SpecifierFlaw.message : SpecifierFlaw → String
  | unknownCapabilities bits =>
    "unknown capability bits 0x" ++ String.ofList (Quoted.hexDigits bits.toNat)
  | vpnWithoutVpn => "NOT_VPN cannot be required of a vpn supplier"
  | unknownNetType given => "unknown net type " ++ Quoted.ofString given
  | stated reason => reason

namespace Refusal

def code : Refusal → ResultCode
  | unknownSupplier _ => .unknownSupplier
  | unknownRequest _ => .unknownRequest
  | duplicateSupplier .. => .duplicateSupplier
  | invalidSpecifier _ => .invalidSpecifier
  | notPermitted _ => .permissionDenied
  | listenerUnreachable => .transportFailure
  | notReady => .uninitialized

def message : Refusal → String
  | unknownSupplier id => "unknown supplier " ++ Decimal.text id.toNat
  | unknownRequest id => "unknown request " ++ Decimal.text id.toNat
  | duplicateSupplier netType identity existing =>
    "supplier " ++ netType.name ++ "/" ++ identity ++ " already registered as "
      ++ Decimal.text existing.toNat
  | invalidSpecifier flaw => "invalid specifier: " ++ flaw.message
  | notPermitted caller =>
    "uid " ++ Decimal.text caller.toNat ++ " is not permitted to perform this operation"
  | listenerUnreachable => "listener unreachable"
  | notReady => "broker not initialized"

end Refusal

def Specifier.validate (s : Specifier) : Except Refusal Unit :=
  match s.flaw? with
  | some flaw => .error (.invalidSpecifier flaw)
  | none => .ok ()

end Connectivity
