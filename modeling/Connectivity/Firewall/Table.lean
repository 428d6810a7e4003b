import Connectivity.Firewall.Access
import Connectivity.IdSource
/-! The policies of the uids and what is known of their background state. A uid without a policy has
the policy zero, and zero is never stored. -/
namespace Connectivity

structure Firewall where
  policies : Table PolicyBits := .empty
  restricted : Bool := true
  background : IdSet := .empty
  system : IdSet := .ofList [0]
  deriving DecidableEq

namespace Firewall

def isSystem (f : Firewall) (uid : Uid) : Bool := f.system.contains uid
def policy (f : Firewall) (uid : Uid) : PolicyBits := (f.policies.find? uid).getD 0

/-- Says also whether the policy changed. -/
def setPolicy (f : Firewall) (uid : Uid) (policy : PolicyBits) : Bool × Firewall :=
  (f.policy uid != policy,
    { f with
      policies := if policy = 0 then f.policies.erase uid else f.policies.insert uid policy })

/-- The uids whose policy has every bit of `mask`, ascending; under the mask zero all that have
one. -/
def uidsWith (f : Firewall) (mask : PolicyBits) : List Uid :=
  (f.policies.filter (fun _ p => p.hasAll mask)).keys

def setRestricted (f : Firewall) (restricted : Bool) : Bool × Firewall :=
  (f.restricted != restricted, { f with restricted })

def isBackground (f : Firewall) (uid : Uid) : Bool := f.background.contains uid

def setBackground (f : Firewall) (uid : Uid) (background : Bool) : Bool × Firewall :=
  (f.isBackground uid != background,
    { f with background := if background then f.background.insert uid else f.background.erase uid })

def allowed (f : Firewall) (uid : Uid) (metered background : Bool) : Bool :=
  Access.allowed
    { system := f.isSystem uid
      policy := f.policy uid
      metered, background
      restricted := f.restricted }

def backgroundPolicy (f : Firewall) (uid : Uid) : BackgroundPolicy :=
  .ofPolicy (f.policy uid) f.restricted

end Firewall

end Connectivity
