import Connectivity.Firewall.Table
import Connectivity.Hub.Outlet
import Connectivity.Refusal
/-! The registered listeners, the requests they own, and their outlets. An outlet outlives its
listener while something can be read from it. -/
namespace Connectivity

structure Listener where
  uid : Uid
  requests : IdSet := .empty
  deriving DecidableEq

/-- `queueDepth` bounds what waits for each listener. -/
structure Hub where
  queueDepth : Nat
  listeners : Table Listener := .empty
  outlets : Table Outlet := .empty
  ids : IdSource := {}
  deriving DecidableEq

namespace Hub

def new (queueDepth : Nat) : Hub := { queueDepth := max queueDepth 1 }

def contains (h : Hub) (l : ListenerId) : Bool := h.listeners.contains l
def uid? (h : Hub) (l : ListenerId) : Option Uid := (h.listeners.find? l).map (·.uid)

def listenersOf (h : Hub) (uid : Uid) : List ListenerId :=
  (h.listeners.filter (fun _ l => l.uid == uid)).keys

/-- A sink whose remote end is gone already is refused. -/
def register (h : Hub) (uid : Uid) (sink : Sink) : Except Refusal (ListenerId × Hub) :=
  if !sink.isConnected then .error .listenerUnreachable
  else
    let (id, ids) := h.ids.take h.listeners
    .ok (id, { h with
      listeners := h.listeners.insert id { uid }
      outlets := h.outlets.insert id { capacity := h.queueDepth, sink }
      ids })

/-- The requests the listener owned, ascending; none if it is not registered. -/
def remove (h : Hub) (l : ListenerId) : IdSet × Hub :=
  match h.listeners.find? l with
  | none => (.empty, h)
  | some listener =>
    (listener.requests, { h with
      listeners := h.listeners.erase l
      outlets := h.outlets.modify l Outlet.drain })

def attach (h : Hub) (l : ListenerId) (request : RequestId) : Except Refusal Hub :=
  if h.contains l then
    .ok { h with
      listeners := h.listeners.modify l (fun x => { x with requests := x.requests.insert request })
      outlets := h.outlets.modify l (·.attach request) }
  else .error .listenerUnreachable

def detach (h : Hub) (l : ListenerId) (request : RequestId) : Hub :=
  if h.contains l then
    { h with
      listeners := h.listeners.modify l (fun x => { x with requests := x.requests.erase request })
      outlets := h.outlets.modify l (·.detach request) }
  else h

/-- A notification to nobody registered is dropped. -/
def send (h : Hub) (l : ListenerId) (n : Notification) : Hub :=
  if h.contains l then { h with outlets := h.outlets.modify l (·.enqueue n) } else h

def sendAll (h : Hub) (sent : List (ListenerId × Notification)) : Hub :=
  sent.foldl (fun h s => h.send s.1 s.2) h

/-- A listener may observe what its uid may use, in the state its uid is in. -/
def accessAllowed (h : Hub) (f : Firewall) (l : ListenerId) (metered : Bool) : Bool :=
  match h.uid? l with
  | some uid => f.allowed uid metered (f.isBackground uid)
  | none => false

def shutdown (h : Hub) : Hub :=
  { h with
    listeners := .empty
    outlets := h.outlets.mapValues (fun l o => if h.contains l then o.stop else o) }

def settle (h : Hub) : Hub := { h with outlets := h.outlets.mapValues (fun _ o => o.settle) }

def reportDeaths (h : Hub) : List ListenerId × Hub :=
  ((h.outlets.filter (fun _ o => o.watch.1)).keys,
    { h with outlets := h.outlets.mapValues (fun _ o => o.watch.2) })

def disconnect (h : Hub) (l : ListenerId) : Hub :=
  { h with outlets := h.outlets.modify l (fun o => { o with sink := o.sink.disconnect }) }

def receive (h : Hub) (l : ListenerId) (limit : Option Nat) : List Notification × Hub :=
  match h.outlets.find? l with
  | none => ([], h)
  | some o =>
    let (found, o) := match limit with
      | some n => o.receive n
      | none => o.receiveAll
    (found, { h with outlets := h.outlets.insert l o })

end Hub

end Connectivity
