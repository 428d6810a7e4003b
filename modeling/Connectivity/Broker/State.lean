import Connectivity.Firewall.PolicyFile
import Connectivity.Hub.Listeners
import Connectivity.Matcher
/-! The broker's state, the commands it takes, and what it does besides answering them. -/
namespace Connectivity

structure BrokerSettings where
  restricted : Bool := true
  systemUids : List Uid := [0]
  duplicates : DuplicatePolicy := .reject
  queueDepth : Nat := 64
  deriving DecidableEq

/-- `published` is the default network that everyone may read. -/
structure Broker where
  registry : Registry
  store : PolicyStore
  matcher : Matcher := {}
  hub : Hub
  published : Option SupplierId := none
  deriving DecidableEq

inductive Command where
  | registerSupplier (caller : Uid) (netType : NetType) (identity : String)
      (capabilities : Capabilities)
  | unregisterSupplier (caller : Uid) (id : SupplierId)
  | updateInfo (caller : Uid) (id : SupplierId) (info : SupplierInfo)
  | updateCapabilities (caller : Uid) (id : SupplierId) (capabilities : Capabilities)
  | updateLink (caller : Uid) (id : SupplierId) (link : LinkInfo)
  | registerListener (uid : Uid) (sink : Sink)
  | unregisterListener (listener : ListenerId)
  | activate (kind : RequestKind) (specifier : Specifier) (listener : ListenerId)
  | deactivate (caller : Uid) (id : RequestId)
  | request (id : RequestId)
  | setUidPolicy (caller : Uid) (uid : Uid) (policy : PolicyBits)
  | setBackgroundPolicy (caller : Uid) (restricted : Bool)
  | setUidBackground (caller : Uid) (uid : Uid) (background : Bool)
  | status
  deriving DecidableEq

structure BrokerStatus where
  suppliers : Nat
  available : Nat
  requests : Nat
  bound : Nat
  listeners : Nat
  default : Option SupplierId
  restricted : Bool
  deriving DecidableEq, Repr

inductive Answer where
  | done
  | id (id : UInt32)
  | request (r : ActiveRequest)
  | status (s : BrokerStatus)
  deriving DecidableEq, Repr

/-- What the device is asked to do about a supplier's link. It may fail at it; the broker goes
on. -/
inductive DeviceCall where
  | apply (id : SupplierId) (link : LinkInfo)
  | clear (id : SupplierId)
  deriving DecidableEq, Repr

/-- What a command does besides changing the state: notifications sent, the device called, default
networks published, each in order. -/
structure Deeds where
  sent : List (ListenerId × Notification) := []
  calls : List DeviceCall := []
  published : List (Option SupplierId) := []
  deriving DecidableEq, Repr

def Deeds.append (a b : Deeds) : Deeds :=
  ⟨a.sent ++ b.sent, a.calls ++ b.calls, a.published ++ b.published⟩

namespace Broker

def new (s : BrokerSettings) (keeps : Bool) (file : PolicyFile) : Broker :=
  { registry := { duplicates := s.duplicates }
    store :=
      { firewall := { restricted := s.restricted, system := .ofList s.systemUids }
        keeps, file }
    hub := .new s.queueDepth }

def start (b : Broker) : Broker := { b with store := b.store.load.2 }

def firewall (b : Broker) : Firewall := b.store.firewall

def status (b : Broker) : BrokerStatus :=
  { suppliers := b.registry.suppliers.size
    available := (b.registry.availableIds none).length
    requests := b.matcher.requests.size
    bound := b.matcher.boundCount
    listeners := b.hub.listeners.size
    default := b.matcher.default
    restricted := b.firewall.restricted }

def canSee (b : Broker) (l : ListenerId) (id : SupplierId) : Bool :=
  match b.registry.capabilities? id with
  | some c => b.hub.accessAllowed b.firewall l c.isMetered
  | none => false

/-- The supplier that `r`'s listener should have been told of. -/
def visible (b : Broker) (r : ActiveRequest) : Option SupplierId :=
  r.bound.filter (b.canSee r.listener)

end Broker

end Connectivity
