import Connectivity.Broker.Step
/-! A broker as its callers meet it. Calls are refused before the broker has started and after it
has gone; what can be read without it stays readable when it is gone without having ended. -/
namespace Connectivity

inductive ServiceStage where
  | waiting
  | serving
  | gone
  deriving DecidableEq, Repr

/-- `ready` says that the broker was started and has not ended. -/
structure Service where
  broker : Broker
  stage : ServiceStage := .waiting
  ready : Bool := false

namespace Service

structure Outcome where
  reply : Except Refusal Answer
  service : Service
  deeds : Deeds := {}

/-- The id a command gives; zero, which is none, if it gives no id. -/
def Outcome.id (o : Outcome) : Except Refusal UInt32 :=
  o.reply.map (fun a => match a with
    | .id n => n
    | _ => 0)

def start (s : Service) : Service :=
  match s.stage with
  | .waiting => { broker := s.broker.start, stage := .serving, ready := true }
  | _ => s

/-- The broker ends because nobody can call it any more. -/
def finish (s : Service) : Service :=
  { broker := { s.broker with hub := s.broker.hub.shutdown }, stage := .gone, ready := false }

/-- The broker is cut off. Nobody is told, so what is readable stays so. -/
def abort (s : Service) : Service :=
  { s with broker := { s.broker with hub := s.broker.hub.shutdown }, stage := .gone }

def call (s : Service) (c : Command) : Outcome :=
  if s.ready && s.stage == .serving then
    let o := s.broker.step c
    ⟨o.reply, { s with broker := o.broker }, o.deeds⟩
  else ⟨.error .notReady, s, {}⟩

/-- Delivers until nothing can move. -/
def settle (s : Service) : Service := { s with broker := s.broker.idle }

/-- The remote end of a listener goes away. -/
def disconnect (s : Service) (l : ListenerId) : Service :=
  { s with broker := { s.broker with hub := s.broker.hub.disconnect l } }

def read {α : Type} (s : Service) (view : Broker → α) : Except Refusal α :=
  if s.ready then .ok (view s.broker) else .error .notReady

def suppliers (s : Service) : Except Refusal (List SupplierEntry) := s.read (·.registry.list)

def supplier (s : Service) (id : SupplierId) : Except Refusal SupplierEntry := do
  let r ← s.read (·.registry)
  r.entry id

def networks (s : Service) (netType : Option NetType) : Except Refusal (List SupplierId) :=
  s.read (·.registry.availableIds netType)

def link (s : Service) (id : SupplierId) : Except Refusal (Option LinkInfo) :=
  (s.supplier id).map (·.link)

def capabilities (s : Service) (id : SupplierId) : Except Refusal Capabilities :=
  (s.supplier id).map (·.capabilities)

def default (s : Service) : Except Refusal (Option SupplierId) := s.read (·.published)

def hasDefault (s : Service) : Except Refusal Bool := s.default.map (·.isSome)

def uidPolicy (s : Service) (uid : Uid) : Except Refusal PolicyBits :=
  s.read (·.firewall.policy uid)

def uidsWith (s : Service) (mask : PolicyBits) : Except Refusal (List Uid) :=
  s.read (·.firewall.uidsWith mask)

def allowed (s : Service) (uid : Uid) (metered background : Bool) : Except Refusal Bool :=
  s.read (·.firewall.allowed uid metered background)

def restricted (s : Service) : Except Refusal Bool := s.read (·.firewall.restricted)

def backgroundPolicy (s : Service) (uid : Uid) : Except Refusal BackgroundPolicy :=
  s.read (·.firewall.backgroundPolicy uid)

end Service

end Connectivity
