import Connectivity.Http.Gateway
import Connectivity.Http.Stream
/-! A broker in use: the service, its gateway, the remote ends of its listeners and the streams that
are open. Every action is followed by delivery until nothing can move. -/
namespace Connectivity

structure DeploymentSettings where
  broker : BrokerSettings := {}
  token : String := "netbroker.broker.v1"
  keeps : Bool := false

structure Deployment where
  settings : DeploymentSettings
  service : Service
  remotes : Remotes := .empty
  streams : List Stream := []

/-- What can be seen of a deployment from outside since the last look. -/
structure Observation where
  events : List (ListenerId × Notification) := []
  closed : List ListenerId := []
  streamed : List (Nat × StreamEvent) := []
  ended : List Nat := []

namespace Deployment

def new (settings : DeploymentSettings) (file : PolicyFile) : Deployment :=
  { settings, service := { broker := .new settings.broker settings.keeps file } }

def gateway (d : Deployment) : Gateway := ⟨d.settings.token, d.settings.broker.queueDepth⟩

/-- The service goes on as `s`, and delivery follows. -/
def withService (d : Deployment) (s : Service) : Deployment := { d with service := s.settle }

def withHub (d : Deployment) (h : Hub) : Deployment :=
  d.withService { d.service with broker := { d.service.broker with hub := h } }

def hub (d : Deployment) : Hub := d.service.broker.hub

def start (d : Deployment) : Deployment := d.withService d.service.start
def abort (d : Deployment) : Deployment := d.withService d.service.abort

def call (d : Deployment) (c : Command) : (Except Refusal Answer × Deeds) × Deployment :=
  let o := d.service.call c
  ((o.reply, o.deeds), d.withService o.service)

def register (d : Deployment) (uid : Uid) (sink : Sink) (automatic : Bool) :
    Except Refusal ListenerId × Deployment :=
  let o := d.service.call (.registerListener uid sink)
  match o.id with
  | .error r => (.error r, d.withService o.service)
  | .ok l =>
    (.ok l, { d.withService o.service with
      remotes := d.remotes.add o.service.broker.hub l automatic })

/-- What comes of a request: a stream that is opened has the number of those before it. -/
def request (d : Deployment) (q : HttpRequest) (held : Bool) :
    (HttpResponse × Deeds) × Deployment :=
  let x := d.gateway.answer d.service q
  let opened := match x.response with
    | .stream listener request => [{ listener, request, held, greeted := q.method = "HEAD" }]
    | _ => []
  ((x.response, x.deeds), { d.withService x.service with streams := d.streams ++ opened })

def receive (d : Deployment) (l : ListenerId) (limit : Option Nat) :
    (List Notification × Bool) × Deployment :=
  let (found, h) := d.remotes.receive d.hub l limit
  (found, d.withHub h)

def disconnect (d : Deployment) (l : ListenerId) : Deployment :=
  if d.remotes.contains l then d.withService (d.service.disconnect l) else d

/-- The events that arrived on a stream, and whether it has ended by now. An end is met once. -/
def readStream (d : Deployment) (number : Nat) : (List StreamEvent × Bool) × Deployment :=
  match d.streams[number]? with
  | none => (([], false), d)
  | some s =>
    let (events, t, h) := s.read d.hub
    ((events, s.endsIn t), { d.withHub h with streams := d.streams.set number t })

def closeStream (d : Deployment) (number : Nat) : Deployment :=
  match d.streams[number]? with
  | some s =>
    if s.stage = .flowing then
      { d.withService (d.service.disconnect s.listener) with
        streams := d.streams.set number { s with stage := .closed } }
    else d
  | none => d

/-- All that has arrived on the streams that are not held, each one's in order. -/
def readStreams : Nat → List Stream → Hub →
    (List (Nat × StreamEvent) × List Nat) × List Stream × Hub
  | _, [], h => (([], []), [], h)
  | number, s :: rest, h =>
    let (events, t, h) := if s.held then ([], s, h) else s.read h
    let ((others, ends), rest, h) := readStreams (number + 1) rest h
    ((events.map (fun e => (number, e)) ++ others,
      if s.endsIn t then number :: ends else ends), t :: rest, h)

def observe (d : Deployment) : Observation × Deployment :=
  let (readout, remotes, h) := d.remotes.readout d.hub
  let ((streamed, ended), streams, h) := readStreams 0 d.streams h
  ({ events := readout.events, closed := readout.closed, streamed, ended },
    { d.withHub h with remotes, streams })

/-- Nobody can call the service any more, so it ends. Says whether it had been started. -/
def shutdown (d : Deployment) : Bool × Deployment :=
  (d.service.ready, d.withService d.service.finish)

def renew (d : Deployment) : Deployment := (new d.settings d.service.broker.store.file).start

end Deployment

end Connectivity
