/-! Whether a uid may use a network. The rules are tried in order and the first that applies
decides; a metered network used from the background with no rule for it is refused. -/
namespace Connectivity

abbrev PolicyBits := UInt32

namespace PolicyBits

def allowMeteredBackground : PolicyBits := 1
def temporaryAllowMetered : PolicyBits := 2
def rejectMeteredBackground : PolicyBits := 4
def allowMetered : PolicyBits := 8
def rejectMetered : PolicyBits := 16
def allowAll : PolicyBits := 32
def rejectAll : PolicyBits := 64

/-- Some bit of `mask` is set. -/
def hasAny (p mask : PolicyBits) : Bool := p &&& mask != 0

/-- Every bit of `mask` is set. -/
def hasAll (p mask : PolicyBits) : Bool := p &&& mask == mask

end PolicyBits

/-- How background use stands for a uid: `enabled` says that the restriction is. -/
inductive BackgroundPolicy where
  | enabled
  | disable
  | allowlisted
  deriving DecidableEq, Repr, Inhabited

/-- All that an access decision depends on. -/
structure Access where
  system : Bool
  policy : PolicyBits
  metered : Bool
  background : Bool
  restricted : Bool
  deriving DecidableEq, Repr

namespace Access

open PolicyBits

def rules : List ((Access → Bool) × Bool) := [
  (fun a => a.system, true),
  (fun a => hasAny a.policy rejectAll, false),
  (fun a => hasAny a.policy allowAll, true),
  (fun a => !a.metered, true),
  (fun a => hasAny a.policy rejectMetered, false),
  (fun a => hasAny a.policy (allowMetered ||| temporaryAllowMetered), true),
  (fun a => !a.background, true),
  (fun a => hasAny a.policy rejectMeteredBackground, false),
  (fun a => !a.restricted, true),
  (fun a => hasAny a.policy allowMeteredBackground, true)]

def allowed (a : Access) : Bool := ((rules.find? (fun r => r.1 a)).map (·.2)).getD false

end Access

/-- Derived from a policy by the rules for the background alone. -/
def BackgroundPolicy.ofPolicy (policy : PolicyBits) (restricted : Bool) : BackgroundPolicy :=
  if policy.hasAny .rejectMeteredBackground then enabled
  else if !restricted then disable
  else if policy.hasAny .allowMeteredBackground then allowlisted
  else enabled

end Connectivity
