import Connectivity.Broker.Step
/-! Commands carried out on the broker in place. Nothing is taken back: what was written before a
call is refused stays written, and what was sent stays sent. -/
namespace Connectivity

/-- A call on a state, which keeps its state when it is refused. -/
abbrev Attempt (σ : Type) := EStateM Refusal σ

/-- A call on a part of the state. -/
def Attempt.on {σ τ α : Type} (part : τ → σ) (put : τ → σ → τ) (x : Attempt σ α) : Attempt τ α :=
  fun t => match x (part t) with
    | .ok a s => .ok a (put t s)
    | .error e s => .error e (put t s)

/-- What a refusal says is passed over. -/
def Attempt.ignore {σ α : Type} (x : Attempt σ α) : Attempt σ Unit :=
  fun s => match x s with
    | .ok _ t => .ok () t
    | .error _ t => .ok () t

namespace Registry

def allocate : Attempt Registry SupplierId :=
  modifyGet (fun r => let (id, ids) := r.ids.take r.suppliers; (id, { r with ids }))

def put (id : SupplierId) (e : SupplierEntry) : Attempt Registry Unit :=
  modify (fun r => { r with suppliers := r.suppliers.insert id e })

def require (id : SupplierId) : Attempt Registry SupplierEntry := do
  match (← get).find? id with
  | some e => return e
  | none => throw (.unknownSupplier id)

def registerInPlace (netType : NetType) (identity : String) (capabilities : Capabilities) :
    Attempt Registry Registration := do
  let r ← get
  match r.named? netType identity with
  | some existing =>
    match r.duplicates with
    | .reject => throw (.duplicateSupplier netType identity existing)
    | .returnExisting => return ⟨existing, false⟩
  | none =>
    let id ← allocate
    put id { descriptor := { id, netType, identity, capabilities } }
    return ⟨id, true⟩

def unregisterInPlace (id : SupplierId) : Attempt Registry SupplierEntry := do
  let e ← require id
  modify (fun r => { r with suppliers := r.suppliers.erase id })
  return e

/-- The count has moved before the entry is written. -/
def updateInfoInPlace (id : SupplierId) (info : SupplierInfo) : Attempt Registry InfoChange := do
  let e ← require id
  if info.isAvailable && !e.info.isAvailable then
    modify (fun r => { r with availableCount := r.availableCount + 1 })
    put id { e with info, availableSeq := (← get).availableCount }
  else
    put id { e with info }
  return ⟨e.info.isAvailable, info.isAvailable⟩

def updateCapabilitiesInPlace (id : SupplierId) (capabilities : Capabilities) :
    Attempt Registry Capabilities := do
  let e ← require id
  put id { e with descriptor := { e.descriptor with capabilities } }
  return e.capabilities

def updateLinkInPlace (id : SupplierId) (link : LinkInfo) : Attempt Registry Unit := do
  let e ← require id
  put id { e with link := some link }

end Registry

namespace Matcher

def allocate : Attempt Matcher RequestId :=
  modifyGet (fun m => let (id, ids) := m.ids.take m.requests; (id, { m with ids }))

def activateInPlace (kind : RequestKind) (specifier : Specifier) (listener : ListenerId) :
    Attempt Matcher RequestId := do
  let id ← allocate
  modify (fun m => { m with requests := m.requests.insert id { id, kind, specifier, listener } })
  return id

def require (id : RequestId) : Attempt Matcher ActiveRequest := do
  match (← get).find? id with
  | some r => return r
  | none => throw (.unknownRequest id)

def deactivateInPlace (id : RequestId) : Attempt Matcher ActiveRequest := do
  let r ← require id
  modify (fun m => { m with requests := m.requests.erase id })
  return r

end Matcher

namespace Hub

def allocate : Attempt Hub ListenerId :=
  modifyGet (fun h => let (id, ids) := h.ids.take h.listeners; (id, { h with ids }))

/-- No id is used up for a sink whose remote end is gone. -/
def registerInPlace (uid : Uid) (sink : Sink) : Attempt Hub ListenerId := do
  if !sink.isConnected then throw .listenerUnreachable
  let id ← allocate
  modify (fun h => { h with
    outlets := h.outlets.insert id { capacity := h.queueDepth, sink }
    listeners := h.listeners.insert id { uid } })
  return id

def attachInPlace (l : ListenerId) (request : RequestId) : Attempt Hub Unit := do
  if !(← get).contains l then throw .listenerUnreachable
  modify (fun h => { h with
    listeners := h.listeners.modify l (fun x => { x with requests := x.requests.insert request }) })
  modify (fun h => { h with outlets := h.outlets.modify l (·.attach request) })

end Hub

namespace Turn

def onRegistry {α : Type} : Attempt Registry α → Attempt Turn α :=
  .on (·.broker.registry) (fun t registry => { t with broker := { t.broker with registry } })

def onMatcher {α : Type} : Attempt Matcher α → Attempt Turn α :=
  .on (·.broker.matcher) (fun t matcher => { t with broker := { t.broker with matcher } })

def onHub {α : Type} : Attempt Hub α → Attempt Turn α :=
  .on (·.broker.hub) (fun t hub => { t with broker := { t.broker with hub } })

def authorize (caller : Uid) : Attempt Turn Unit := do
  if !(← get).broker.firewall.isSystem caller then throw (.notPermitted caller)

def registerSupplier (caller : Uid) (netType : NetType) (identity : String)
    (capabilities : Capabilities) : Attempt Turn Answer := do
  authorize caller
  let registration ← onRegistry (Registry.registerInPlace netType identity capabilities)
  if registration.created then
    modify (·.reevaluate (.supplier registration.supplier netType))
  return .id registration.supplier

def unregisterSupplier (caller : Uid) (id : SupplierId) : Attempt Turn Answer := do
  authorize caller
  let e ← onRegistry (Registry.unregisterInPlace id)
  if e.link.isSome then
    modify (·.callDevice (.clear id))
  modify (·.reevaluate (.supplier id e.netType))
  return .done

def netTypeOf (id : SupplierId) : Attempt Turn NetType := do
  match (← get).broker.registry.netType? id with
  | some netType => return netType
  | none => throw (.unknownSupplier id)

def updateInfo (caller : Uid) (id : SupplierId) (info : SupplierInfo) : Attempt Turn Answer := do
  authorize caller
  let netType ← netTypeOf id
  let _ ← onRegistry (Registry.updateInfoInPlace id info)
  modify (·.reevaluate (.supplier id netType))
  return .done

def updateCapabilities (caller : Uid) (id : SupplierId) (capabilities : Capabilities) :
    Attempt Turn Answer := do
  authorize caller
  let netType ← netTypeOf id
  let watching := (← get).broker.matcher.announcedOn id
  let previous ← onRegistry (Registry.updateCapabilitiesInPlace id capabilities)
  modify (·.reevaluate (.supplier id netType))
  if previous.isMetered != capabilities.isMetered then
    modify (·.announce (fun r => r.bound == some id))
  if previous ≠ capabilities then
    modify (·.tell id (.capabilitiesChanged capabilities) (fun r => watching.contains r.id))
  return .done

def updateLink (caller : Uid) (id : SupplierId) (link : LinkInfo) : Attempt Turn Answer := do
  authorize caller
  let netType ← netTypeOf id
  onRegistry (Registry.updateLinkInPlace id link)
  modify (·.callDevice (.apply id link))
  modify (·.reevaluate (.supplier id netType))
  modify (·.tell id (.linkChanged link) (fun _ => true))
  return .done

/-- The requests of the listener go one by one. -/
def dropListener (l : ListenerId) : Attempt Turn Unit := do
  let owned ← onHub (modifyGet (·.remove l))
  forM owned.keys (fun id => (onMatcher (Matcher.deactivateInPlace id)).ignore)

def unregisterListener (l : ListenerId) : Attempt Turn Answer := do
  if (← get).broker.hub.contains l then
    dropListener l
    return .done
  else throw .listenerUnreachable

/-- The request is entered before its listener is asked to attach it. -/
def activate (kind : RequestKind) (specifier : Specifier) (l : ListenerId) :
    Attempt Turn Answer := do
  if let some flaw := specifier.flaw? then throw (.invalidSpecifier flaw)
  if !(← get).broker.hub.contains l then throw .listenerUnreachable
  let id ← onMatcher (Matcher.activateInPlace kind specifier l)
  onHub (Hub.attachInPlace l id)
  modify (·.reevaluate (.request id))
  return .id id

def deactivate (caller : Uid) (id : RequestId) : Attempt Turn Answer := do
  let r ← onMatcher (Matcher.require id)
  let b := (← get).broker
  if !b.firewall.isSystem caller && b.hub.uid? r.listener != some caller then
    throw (.notPermitted caller)
  let r ← onMatcher (Matcher.deactivateInPlace id)
  onHub (modify (·.detach r.listener id))
  return .done

def setUidPolicy (caller : Uid) (uid : Uid) (policy : PolicyBits) : Attempt Turn Answer := do
  authorize caller
  let t ← get
  let (changed, store) := t.broker.store.setPolicy uid policy
  set { t with broker := { t.broker with store } }
  if changed then
    modify (·.refresh uid)
  return .done

def setFirewall (change : Firewall → Bool × Firewall) : Attempt Turn Bool := do
  let t ← get
  let (changed, firewall) := change t.broker.firewall
  set { t with broker := { t.broker with store := { t.broker.store with firewall } } }
  return changed

def setBackgroundPolicy (caller : Uid) (restricted : Bool) : Attempt Turn Answer := do
  authorize caller
  if ← setFirewall (·.setRestricted restricted) then
    modify (fun t => (t.announce (fun _ => true)).reelect)
  return .done

def setUidBackground (caller : Uid) (uid : Uid) (background : Bool) : Attempt Turn Answer := do
  authorize caller
  if ← setFirewall (·.setBackground uid background) then
    modify (·.refresh uid)
  return .done

def handle : Command → Attempt Turn Answer
  | .registerSupplier caller netType identity capabilities =>
    registerSupplier caller netType identity capabilities
  | .unregisterSupplier caller id => unregisterSupplier caller id
  | .updateInfo caller id info => updateInfo caller id info
  | .updateCapabilities caller id capabilities => updateCapabilities caller id capabilities
  | .updateLink caller id link => updateLink caller id link
  | .registerListener uid sink => Answer.id <$> onHub (Hub.registerInPlace uid sink)
  | .unregisterListener l => unregisterListener l
  | .activate kind specifier l => activate kind specifier l
  | .deactivate caller id => deactivate caller id
  | .request id => Answer.request <$> onMatcher (Matcher.require id)
  | .setUidPolicy caller uid policy => setUidPolicy caller uid policy
  | .setBackgroundPolicy caller restricted => setBackgroundPolicy caller restricted
  | .setUidBackground caller uid background => setUidBackground caller uid background
  | .status => do return .status (← get).broker.status

end Turn

/-- One command in place: the reply, and the broker and its deeds as they are then. -/
def Broker.execute (b : Broker) (c : Command) : Outcome :=
  match Turn.handle c b.begin with
  | .ok a t => ⟨.ok a, t.broker, t.deeds⟩
  | .error e t => ⟨.error e, t.broker, t.deeds⟩

end Connectivity
