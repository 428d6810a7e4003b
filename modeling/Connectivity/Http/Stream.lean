import Connectivity.Hub.Remote
import Connectivity.Wire.Notification
/-! Streams of notifications, as a client reads them: first the ids of the listener and the request,
then each notification. -/
namespace Connectivity

open Json

inductive StreamEvent where
  | registered (listener : ListenerId) (request : RequestId)
  | notification (n : Notification)
  deriving DecidableEq, Repr

namespace StreamEvent

def name : StreamEvent → String
  | registered .. => "registered"
  | notification _ => "notification"

def data : StreamEvent → Json
  | registered listener request => .record [
    ("listener", .natural listener.toNat),
    ("request", .natural request.toNat)]
  | notification n => n.toJson

end StreamEvent

/-- A stream ends by itself, or is closed by its client. -/
inductive StreamStage where
  | flowing
  | ended
  | closed
  deriving DecidableEq, Repr

/-- `held` streams are read only when asked to. `greeted` says that the first event was read. -/
structure Stream where
  listener : ListenerId
  request : RequestId
  held : Bool
  greeted : Bool := false
  stage : StreamStage := .flowing
  deriving DecidableEq, Repr

namespace Stream

def greeting (s : Stream) : List StreamEvent :=
  if s.greeted then [] else [.registered s.listener s.request]

/-- All that has arrived. The stream ends when nothing more can arrive. -/
def read (s : Stream) (h : Hub) : List StreamEvent × Stream × Hub :=
  match s.stage with
  | .flowing =>
    let (found, h) := h.receive s.listener none
    let nothingMore := h.isOver s.listener || !h.isConnected s.listener
    (s.greeting ++ found.map .notification,
      { s with greeted := true, stage := if nothingMore then .ended else .flowing }, h)
  | _ => ([], s, h)

def endsIn (s t : Stream) : Bool := s.stage == .flowing && t.stage == .ended

end Stream

end Connectivity
