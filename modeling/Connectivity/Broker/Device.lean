import Connectivity.Broker.Desk
import Connectivity.Broker.InPlace
/-! The device that links are applied to, which may fail at every call. A failure is put down in the
log, and the command goes on as if there had been none. -/
namespace Connectivity

/-- What the device answers to a call, or why it has failed at it. It may go by all calls before this
one, oldest first. -/
abbrev Device := List DeviceCall → DeviceCall → Except String Unit

/-- Only writes down what it would do. -/
def Device.logging : Device := fun _ _ => .ok ()

namespace DeviceCall

def supplier : DeviceCall → SupplierId
  | apply id _ | clear id => id

def failure : DeviceCall → String
  | apply .. => "failed to apply link info"
  | clear _ => "failed to clear link info"

end DeviceCall

structure Warning where
  message : String
  supplier : SupplierId
  error : String
  deriving DecidableEq, Repr

/-- A command under way, all that the device was ever called for, and what the log says of it. -/
structure Session where
  turn : Turn
  asked : List DeviceCall
  warnings : List Warning

namespace Session

def onTurn {α : Type} : Attempt Turn α → Attempt Session α :=
  .on (·.turn) (fun s turn => { s with turn })

def ask (device : Device) (c : DeviceCall) : Attempt Session (Except String Unit) :=
  modifyGet (fun s =>
    (device s.asked c, { s with turn := s.turn.callDevice c, asked := s.asked ++ [c] }))

def callDevice (device : Device) (c : DeviceCall) : Attempt Session Unit := do
  match ← ask device c with
  | .ok () => return ()
  | .error error =>
    modify (fun s => { s with warnings := s.warnings ++ [⟨c.failure, c.supplier, error⟩] })

def unregisterSupplier (device : Device) (caller : Uid) (id : SupplierId) :
    Attempt Session Answer := do
  onTurn (Turn.authorize caller)
  let e ← onTurn (Turn.onRegistry (Registry.unregisterInPlace id))
  if e.link.isSome then
    callDevice device (.clear id)
  onTurn (modify (·.reevaluate (.supplier id e.netType)))
  return .done

def updateLink (device : Device) (caller : Uid) (id : SupplierId) (link : LinkInfo) :
    Attempt Session Answer := do
  onTurn (Turn.authorize caller)
  let netType ← onTurn (Turn.netTypeOf id)
  onTurn (Turn.onRegistry (Registry.updateLinkInPlace id link))
  callDevice device (.apply id link)
  onTurn (modify (·.reevaluate (.supplier id netType)))
  onTurn (modify (·.tell id (.linkChanged link) (fun _ => true)))
  return .done

/-- No other command has to do with the device. -/
def handle (device : Device) : Command → Attempt Session Answer
  | .unregisterSupplier caller id => unregisterSupplier device caller id
  | .updateLink caller id link => updateLink device caller id link
  | c => onTurn (Turn.handle c)

end Session

/-- A desk and the device it works with: all that the device was called for, and what the log says of
it, oldest first. -/
structure Host where
  desk : Desk
  asked : List DeviceCall := []
  warnings : List Warning := []
  deriving DecidableEq

namespace Host

def start (settings : BrokerSettings) (keeps : Bool) (file : PolicyFile) : Host :=
  { desk := { broker := (Broker.new settings keeps file).start } }

def begin (h : Host) : Session := ⟨h.desk.broker.begin, h.asked, h.warnings⟩

def finish (h : Host) (reply : Except Refusal Answer) (s : Session) : Happening × Host :=
  ({ reply := some reply, deeds := s.turn.deeds },
    { desk := { h.desk with broker := s.turn.broker }, asked := s.asked, warnings := s.warnings })

def act (device : Device) (h : Host) : DeskStep → Happening × Host
  | .command c =>
    match Session.handle device c h.begin with
    | .ok a s => h.finish (.ok a) s
    | .error e s => h.finish (.error e) s
  | s =>
    let (happening, desk) := h.desk.act s
    (happening, { h with desk })

/-- What can be seen of a run, step by step, and where it ends. -/
def run (device : Device) (h : Host) : List DeskStep → List Happening × Host
  | [] => ([], h)
  | s :: rest =>
    let (now, next) := h.act device s
    let (later, last) := next.run device rest
    (now :: later, last)

end Host

end Connectivity
