import Connectivity.Notification
/-! The way of a notification to its listener: a bounded queue, one notification in hand, and the
sink. A full sink stalls only its own outlet. -/
namespace Connectivity

/-- The near end of a listener. A channel holds a bounded number of notifications until they are
read, and refuses them once the reader is gone. A recorder takes all it is offered, or fails after
a number of them. -/
inductive Sink where
  | channel (depth : Nat) (buffer : List Notification) (connected : Bool)
  | recorder (left : Option Nat) (buffer : List Notification) (connected : Bool)
  deriving DecidableEq

namespace Sink

def newChannel (depth : Nat) : Sink := .channel (max depth 1) [] true
def newRecorder (failAfter : Option Nat) : Sink := .recorder failAfter [] true

def isConnected : Sink → Bool
  | channel _ _ connected => connected
  | recorder _ _ connected => connected

def buffer : Sink → List Notification
  | channel _ buffer _ => buffer
  | recorder _ buffer _ => buffer

/-- The remote end goes away; a channel loses what was not read. -/
def disconnect : Sink → Sink
  | channel depth _ _ => channel depth [] false
  | recorder left buffer _ => recorder left buffer false

inductive Offer where
  | taken (s : Sink)
  | full
  | refused

def offer (n : Notification) : Sink → Offer
  | channel depth buffer connected =>
    if !connected then .refused
    else if buffer.length < depth then .taken (channel depth (buffer ++ [n]) connected)
    else .full
  | recorder none buffer connected => .taken (recorder none (buffer ++ [n]) connected)
  | recorder (some 0) _ _ => .refused
  | recorder (some (left + 1)) buffer connected =>
    .taken (recorder (some left) (buffer ++ [n]) connected)

def read? : Sink → Option (Notification × Sink)
  | channel depth (n :: buffer) connected => some (n, channel depth buffer connected)
  | recorder left (n :: buffer) connected => some (n, recorder left buffer connected)
  | _ => none

end Sink

/-- A removed listener's outlet delivers what it has in hand and then ends. -/
inductive OutletPhase where
  | running
  | draining
  | ended
  deriving DecidableEq, Repr

/-- `live` holds the requests whose notifications may still be taken off the queue, and `watched`
says that the listener's death has still to be reported. -/
structure Outlet where
  capacity : Nat
  sink : Sink
  queue : List Notification := []
  hand : Option Notification := none
  live : IdSet := .empty
  phase : OutletPhase := .running
  watched : Bool := true
  deriving DecidableEq

namespace Outlet

/-- A full queue, or one that is closed, drops the notification. -/
def enqueue (o : Outlet) (n : Notification) : Outlet :=
  if o.phase = .running ∧ o.queue.length < o.capacity then { o with queue := o.queue ++ [n] } else o

def attach (o : Outlet) (request : RequestId) : Outlet := { o with live := o.live.insert request }
def detach (o : Outlet) (request : RequestId) : Outlet := { o with live := o.live.erase request }

def drain (o : Outlet) : Outlet :=
  { o with
    live := .empty
    watched := false
    phase := if o.phase = .running then .draining else o.phase }

/-- Delivery stops at once. What is in hand is lost, what is in the sink is not. -/
def stop (o : Outlet) : Outlet :=
  { o with queue := [], hand := none, phase := .ended, watched := false }

/-- One move of the delivery, if one is possible: what is in hand goes to the sink, else the next
notification is taken off the queue, and dropped if its request is no longer live. -/
def turn? (o : Outlet) : Option Outlet :=
  if o.phase = .ended then none
  else match o.hand, o.queue with
    | some n, _ =>
      match o.sink.offer n with
      | .taken sink => some { o with sink, hand := none }
      | .full => none
      | .refused => some { o with queue := [], hand := none, phase := .ended }
    | none, n :: queue =>
      some { o with queue, hand := if o.live.contains n.request then some n else none }
    | none, [] => if o.phase = .draining then some { o with phase := .ended } else none

/-- Every move makes this smaller. -/
def pending (o : Outlet) : Nat :=
  2 * o.queue.length + o.hand.toList.length + (if o.phase = .ended then 0 else 1)

theorem pending_lt_of_turn? {o p : Outlet} (h : o.turn? = some p) : p.pending < o.pending := by
  unfold turn? at h
  split at h
  · cases h
  · rename_i active
    split at h
    · rename_i n _ hand
      split at h
      · cases h; simp [pending, hand]
      · cases h
      · cases h; simp [pending, hand, active]
    · rename_i n queue hand more
      cases h
      simp only [pending, hand, more, List.length_cons]
      split
      · simp only [Option.toList_some, List.length_singleton]
        omega
      · simp
    · rename_i hand empty
      split at h
      · cases h; simp [pending, hand, empty, active]
      · cases h

def run : Nat → Outlet → Outlet
  | 0, o => o
  | moves + 1, o =>
    match o.turn? with
    | some p => run moves p
    | none => o

def settle (o : Outlet) : Outlet := run o.pending o

theorem turn?_run {moves : Nat} {o : Outlet} (enough : o.pending ≤ moves) :
    (run moves o).turn? = none := by
  induction moves generalizing o with
  | zero =>
    cases h : o.turn? with
    | none => simpa [run] using h
    | some p => exact absurd (pending_lt_of_turn? h) (by omega)
  | succ moves ih =>
    unfold run
    split
    · rename_i p h
      exact ih (by have := pending_lt_of_turn? h; omega)
    · assumption

theorem turn?_settle (o : Outlet) : o.settle.turn? = none := turn?_run (Nat.le_refl _)

/-- Reads up to `limit` notifications; delivery goes on after each. -/
def receive : Nat → Outlet → List Notification × Outlet
  | 0, o => ([], o)
  | limit + 1, o =>
    match o.sink.read? with
    | none => ([], o)
    | some (n, sink) =>
      let (rest, o) := receive limit { o with sink }.settle
      (n :: rest, o)

def backlog (o : Outlet) : Nat := o.queue.length + o.hand.toList.length + o.sink.buffer.length

def receiveAll (o : Outlet) : List Notification × Outlet := o.receive o.backlog

def isOver (o : Outlet) : Bool := o.phase = .ended

def watch (o : Outlet) : Bool × Outlet :=
  if o.watched && !o.sink.isConnected then (true, { o with watched := false }) else (false, o)

end Outlet

end Connectivity
