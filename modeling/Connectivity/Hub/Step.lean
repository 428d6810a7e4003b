import Connectivity.Hub.Listeners
/-! A hub, one thing at a time: calls, single moves of a delivery, and what happens at the remote
ends, in any order. -/
namespace Connectivity

inductive HubStep where
  | register (uid : Uid) (sink : Sink)
  | remove (l : ListenerId)
  | attach (l : ListenerId) (request : RequestId)
  | detach (l : ListenerId) (request : RequestId)
  | send (l : ListenerId) (n : Notification)
  | turn (l : ListenerId)
  | read (l : ListenerId)
  | disconnect (l : ListenerId)
  | report (l : ListenerId)
  | shutdown

def HubStep.listener? : HubStep → Option ListenerId
  | register .. | shutdown => none
  | remove l | attach l _ | detach l _ | send l _ | turn l | read l | disconnect l | report l =>
    some l

/-- The broker makes this step, and not an outlet or a remote end of its own. -/
def HubStep.isCall : HubStep → Bool
  | register .. | remove _ | attach .. | detach .. | send .. => true
  | turn _ | read _ | disconnect _ | report _ | shutdown => false

def Outlet.read (o : Outlet) : Outlet :=
  match o.sink.read? with
  | some (_, sink) => { o with sink }
  | none => o

namespace Hub

/-- A call that is refused leaves the hub as it is. -/
def act (h : Hub) : HubStep → Hub
  | .register uid sink =>
    match h.register uid sink with
    | .ok (_, g) => g
    | .error _ => h
  | .remove l => (h.remove l).2
  | .attach l request =>
    match h.attach l request with
    | .ok g => g
    | .error _ => h
  | .detach l request => h.detach l request
  | .send l n => h.send l n
  | .turn l => { h with outlets := h.outlets.modify l (fun o => o.turn?.getD o) }
  | .read l => { h with outlets := h.outlets.modify l Outlet.read }
  | .disconnect l => h.disconnect l
  | .report l => { h with outlets := h.outlets.modify l (fun o => o.watch.2) }
  | .shutdown => h.shutdown

def acts (h : Hub) (steps : List HubStep) : Hub := steps.foldl act h

end Hub

end Connectivity
