import Connectivity.Broker.Step
import Connectivity.Hub.Step
/-! A broker and all that goes on around it, one thing at a time: its commands, the deliveries, what
happens at the remote ends, and the deaths that are reported and wait their turn. -/
namespace Connectivity

structure Desk where
  broker : Broker
  -- reported and not dealt with, oldest first
  deaths : List ListenerId := []
  deriving DecidableEq

inductive DeskStep where
  | command (c : Command)
  | death
  | turn (l : ListenerId)
  | read (l : ListenerId)
  | disconnect (l : ListenerId)
  | report (l : ListenerId)
  deriving DecidableEq

/-- What can be seen of a step: the answer to a command and its deeds, a notification that arrives at
a sink, and one that is read. -/
structure Happening where
  reply : Option (Except Refusal Answer) := none
  deeds : Deeds := {}
  arrived : Option (ListenerId × Notification) := none
  read : Option (ListenerId × Notification) := none

/-- What the next move of the delivery puts into the sink. -/
def Outlet.arriving? (o : Outlet) : Option Notification :=
  if o.phase = .ended then none
  else o.hand.filter (fun n => match o.sink.offer n with
    | .taken _ => true
    | _ => false)

namespace Desk

def outlet? (d : Desk) (l : ListenerId) : Option Outlet := d.broker.hub.outlets.find? l

def atHub (d : Desk) (s : HubStep) : Desk :=
  { d with broker := { d.broker with hub := d.broker.hub.act s } }

def act (d : Desk) : DeskStep → Happening × Desk
  | .command c =>
    let o := d.broker.step c
    ({ reply := some o.reply, deeds := o.deeds }, { d with broker := o.broker })
  | .death =>
    match d.deaths with
    | [] => ({}, d)
    | l :: rest => ({}, { broker := d.broker.bury l, deaths := rest })
  | .turn l => ({ arrived := ((d.outlet? l).bind (·.arriving?)).map (l, ·) }, d.atHub (.turn l))
  | .read l =>
    ({ read := ((d.outlet? l).bind (·.sink.read?)).map (fun r => (l, r.1)) }, d.atHub (.read l))
  | .disconnect l => ({}, d.atHub (.disconnect l))
  | .report l =>
    ({}, { d.atHub (.report l) with
      deaths := if (d.outlet? l).any (·.watch.1) then d.deaths ++ [l] else d.deaths })

def run (d : Desk) (steps : List DeskStep) : Desk := steps.foldl (fun d s => (d.act s).2) d

end Desk

end Connectivity
