import Connectivity.Broker.State
/-! Commands are carried out one at a time. A command that is refused changes nothing and does
nothing. -/
namespace Connectivity

/-- How a listener learns that `target` takes the place of `source`. A request that follows the
default network is not told of a loss when there is a new default. -/
def announcement (kind : RequestKind) (source target : Option SupplierId) : List NetworkEvent :=
  if source = target then []
  else
    let silent := kind == .trackDefault && target.isSome
    (if silent then [] else source.toList.map .lost) ++ target.toList.map .available

structure Turn where
  broker : Broker
  deeds : Deeds := {}

namespace Turn

def send (t : Turn) (sent : List (ListenerId × Notification)) : Turn :=
  { broker := { t.broker with hub := t.broker.hub.sendAll sent }
    deeds := { t.deeds with sent := t.deeds.sent ++ sent } }

def callDevice (t : Turn) (c : DeviceCall) : Turn :=
  { t with deeds := { t.deeds with calls := t.deeds.calls ++ [c] } }

def publish (t : Turn) : Option DefaultChange → Turn
  | none => t
  | some change =>
    { broker := { t.broker with published := change.target }
      deeds := { t.deeds with published := t.deeds.published ++ [change.target] } }

/-- Brings what listeners were told in line with what they may see, for the requests in `who`. -/
def announce (t : Turn) (who : ActiveRequest → Bool) : Turn :=
  let b := t.broker
  let now (r : ActiveRequest) : Option SupplierId := if who r then b.visible r else r.announced
  let sent := b.matcher.requests.values.flatMap (fun r =>
    (announcement r.kind r.announced (now r)).map (fun e => (r.listener, ⟨r.id, e⟩)))
  let requests := b.matcher.requests.mapValues (fun _ r => { r with announced := now r })
  { t with broker := { b with matcher := { b.matcher with requests } } }.send sent

/-- Tells the listeners of the requests in `who` of an event at `supplier`, if that is the supplier
they were told of and may see. -/
def tell (t : Turn) (supplier : SupplierId) (event : NetworkEvent)
    (who : ActiveRequest → Bool) : Turn :=
  let b := t.broker
  let hears (r : ActiveRequest) : Bool :=
    who r && r.announced == some supplier && b.canSee r.listener supplier
  t.send ((b.matcher.requests.values.filter hears).map (fun r => (r.listener, ⟨r.id, event⟩)))

def reevaluate (t : Turn) (scope : Scope) : Turn :=
  let result := t.broker.matcher.reevaluate t.broker.registry scope
  ({ t with broker := { t.broker with matcher := result.matcher } }.publish
    result.defaultChange).announce
    (fun r => result.transitions.any (·.request == r.id))

def reelect (t : Turn) : Turn :=
  let (change, matcher) := t.broker.matcher.elect t.broker.registry
  { t with broker := { t.broker with matcher } }.publish change

def refresh (t : Turn) (uid : Uid) : Turn :=
  let listeners := t.broker.hub.listenersOf uid
  (t.announce (fun r => listeners.contains r.listener)).reelect

end Turn

namespace Broker

def begin (b : Broker) : Turn := { broker := b }

def authorize (b : Broker) (caller : Uid) : Except Refusal Unit :=
  if b.firewall.isSystem caller then .ok () else .error (.notPermitted caller)

def registerSupplier (b : Broker) (netType : NetType) (identity : String)
    (capabilities : Capabilities) : Except Refusal (Answer × Turn) := do
  let (registration, registry) ← b.registry.register netType identity capabilities
  let t := { b with registry }.begin
  return (.id registration.supplier,
    if registration.created then t.reevaluate (.supplier registration.supplier netType) else t)

/-- A link that was applied is cleared. -/
def unregisterSupplier (b : Broker) (id : SupplierId) : Except Refusal (Answer × Turn) := do
  let (e, registry) ← b.registry.unregister id
  let t := { b with registry }.begin
  let t := if e.link.isSome then t.callDevice (.clear id) else t
  return (.done, t.reevaluate (.supplier id e.netType))

def updateInfo (b : Broker) (id : SupplierId) (info : SupplierInfo) :
    Except Refusal (Answer × Turn) := do
  let e ← b.registry.entry id
  let (_, registry) ← b.registry.updateInfo id info
  return (.done, { b with registry }.begin.reevaluate (.supplier id e.netType))

/-- Whether a network is metered decides who may see it, even where no binding moves. A change is
told to those who knew of the supplier before it. -/
def updateCapabilities (b : Broker) (id : SupplierId) (capabilities : Capabilities) :
    Except Refusal (Answer × Turn) := do
  let e ← b.registry.entry id
  let watching := b.matcher.announcedOn id
  let (previous, registry) ← b.registry.updateCapabilities id capabilities
  let t := { b with registry }.begin.reevaluate (.supplier id e.netType)
  let t :=
    if previous.isMetered == capabilities.isMetered then t
    else t.announce (fun r => r.bound == some id)
  let t :=
    if previous = capabilities then t
    else t.tell id (.capabilitiesChanged capabilities) (fun r => watching.contains r.id)
  return (.done, t)

def updateLink (b : Broker) (id : SupplierId) (link : LinkInfo) :
    Except Refusal (Answer × Turn) := do
  let e ← b.registry.entry id
  let registry ← b.registry.updateLink id link
  let t := { b with registry }.begin.callDevice (.apply id link)
  let t := t.reevaluate (.supplier id e.netType)
  return (.done, t.tell id (.linkChanged link) (fun _ => true))

def registerListener (b : Broker) (uid : Uid) (sink : Sink) : Except Refusal (Answer × Turn) := do
  let (id, hub) ← b.hub.register uid sink
  return (.id id, { b with hub }.begin)

def dropListener (b : Broker) (l : ListenerId) : Broker :=
  let (owned, hub) := b.hub.remove l
  { b with hub, matcher := b.matcher.discard owned }

def unregisterListener (b : Broker) (l : ListenerId) : Except Refusal (Answer × Turn) :=
  if b.hub.contains l then .ok (.done, (b.dropListener l).begin)
  else .error .listenerUnreachable

def activate (b : Broker) (kind : RequestKind) (specifier : Specifier) (l : ListenerId) :
    Except Refusal (Answer × Turn) := do
  specifier.validate
  let (id, matcher) := b.matcher.activate kind specifier l
  let hub ← b.hub.attach l id
  return (.id id, { b with matcher, hub }.begin.reevaluate (.request id))

/-- Only the uid that owns a request, or a system uid, may end it. -/
def deactivate (b : Broker) (caller : Uid) (id : RequestId) : Except Refusal (Answer × Turn) := do
  let (r, matcher) ← b.matcher.deactivate id
  if b.firewall.isSystem caller || b.hub.uid? r.listener == some caller then
    return (.done, { b with matcher, hub := b.hub.detach r.listener id }.begin)
  else throw (.notPermitted caller)

def setUidPolicy (b : Broker) (uid : Uid) (policy : PolicyBits) : Answer × Turn :=
  let (changed, store) := b.store.setPolicy uid policy
  let t := { b with store }.begin
  (.done, if changed then t.refresh uid else t)

def setBackgroundPolicy (b : Broker) (restricted : Bool) : Answer × Turn :=
  let (changed, firewall) := b.firewall.setRestricted restricted
  let t := { b with store := { b.store with firewall } }.begin
  (.done, if changed then (t.announce (fun _ => true)).reelect else t)

def setUidBackground (b : Broker) (uid : Uid) (background : Bool) : Answer × Turn :=
  let (changed, firewall) := b.firewall.setBackground uid background
  let t := { b with store := { b.store with firewall } }.begin
  (.done, if changed then t.refresh uid else t)

/-- Suppliers and policies are the business of system uids. -/
def perform (b : Broker) : Command → Except Refusal (Answer × Turn)
  | .registerSupplier caller netType identity capabilities => do
    b.authorize caller
    b.registerSupplier netType identity capabilities
  | .unregisterSupplier caller id => do
    b.authorize caller
    b.unregisterSupplier id
  | .updateInfo caller id info => do
    b.authorize caller
    b.updateInfo id info
  | .updateCapabilities caller id capabilities => do
    b.authorize caller
    b.updateCapabilities id capabilities
  | .updateLink caller id link => do
    b.authorize caller
    b.updateLink id link
  | .registerListener uid sink => b.registerListener uid sink
  | .unregisterListener l => b.unregisterListener l
  | .activate kind specifier l => b.activate kind specifier l
  | .deactivate caller id => b.deactivate caller id
  | .request id => do
    let r ← b.matcher.entry id
    return (.request r, b.begin)
  | .setUidPolicy caller uid policy => do
    b.authorize caller
    return b.setUidPolicy uid policy
  | .setBackgroundPolicy caller restricted => do
    b.authorize caller
    return b.setBackgroundPolicy restricted
  | .setUidBackground caller uid background => do
    b.authorize caller
    return b.setUidBackground uid background
  | .status => return (.status b.status, b.begin)

structure Outcome where
  reply : Except Refusal Answer
  broker : Broker
  deeds : Deeds := {}

def step (b : Broker) (c : Command) : Outcome :=
  match b.perform c with
  | .ok (a, t) => ⟨.ok a, t.broker, t.deeds⟩
  | .error e => ⟨.error e, b, {}⟩

/-- A death that is reported late, or after the listener was removed, changes nothing. -/
def bury (b : Broker) (l : ListenerId) : Broker := if b.hub.contains l then b.dropListener l else b

def idle (b : Broker) : Broker :=
  let (dead, hub) := b.hub.settle.reportDeaths
  let b := dead.foldl bury { b with hub }
  { b with hub := b.hub.settle }

end Broker

end Connectivity
