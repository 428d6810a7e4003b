import Connectivity.Hub.Listeners
/-! The remote ends of listeners. An automatic one reads whatever has arrived; any other reads only
when it is told to. -/
namespace Connectivity

/-- `told` says that the end of the delivery was reported. -/
structure Remote where
  automatic : Bool
  told : Bool := false
  deriving DecidableEq, Repr

abbrev Remotes := Table Remote

def Sink.isChannel : Sink → Bool
  | channel .. => true
  | recorder .. => false

namespace Hub

def isOver (h : Hub) (l : ListenerId) : Bool :=
  (h.outlets.find? l).any (fun o => o.isOver && o.sink.isConnected && o.sink.isChannel)

def isConnected (h : Hub) (l : ListenerId) : Bool := (h.outlets.find? l).any (·.sink.isConnected)

def isRecorder (h : Hub) (l : ListenerId) : Bool :=
  (h.outlets.find? l).any (fun o => !o.sink.isChannel)

end Hub

structure Readout where
  events : List (ListenerId × Notification) := []
  closed : List ListenerId := []

namespace Remotes

/-- A recorder has no end of its own to read at, so it is read at once. -/
def add (rs : Remotes) (h : Hub) (l : ListenerId) (automatic : Bool) : Remotes :=
  rs.insert l { automatic := automatic || h.isRecorder l }

def drainEach : List (ListenerId × Remote) → Hub → List (ListenerId × Notification) × Hub
  | [], h => ([], h)
  | (l, r) :: rest, h =>
    if r.automatic then
      let (found, h) := h.receive l none
      let (others, h) := drainEach rest h
      (found.map (fun n => (l, n)) ++ others, h)
    else drainEach rest h

/-- An end is reported once. -/
def readout (rs : Remotes) (h : Hub) : Readout × Remotes × Hub :=
  let (events, h) := drainEach rs.entries h
  let ends (l : ListenerId) (r : Remote) : Bool := r.automatic && !r.told && h.isOver l
  ({ events, closed := (rs.filter ends).keys },
    rs.mapValues (fun l r => { r with told := r.told || ends l r }), h)

/-- What a remote reads when told to, up to `limit` notifications, and whether it came upon the end.
One that reads by itself has nothing left. -/
def receive (rs : Remotes) (h : Hub) (l : ListenerId) (limit : Option Nat) :
    (List Notification × Bool) × Hub :=
  match rs.find? l with
  | some { automatic := false, .. } =>
    let (found, h) := h.receive l limit
    ((found, limit.all (found.length < ·) && h.isOver l), h)
  | _ => (([], false), h)

end Remotes

end Connectivity
