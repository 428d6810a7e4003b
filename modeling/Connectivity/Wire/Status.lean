import Connectivity.Broker.State
import Connectivity.Wire.Notification
/-! Answers of the broker in JSON. -/
namespace Connectivity

open Json

namespace BackgroundPolicy

def name : BackgroundPolicy → String
  | enabled => "enabled"
  | disable => "disable"
  | allowlisted => "allowlisted"

def names : List (String × BackgroundPolicy) :=
  [enabled, disable, allowlisted].map (fun p => (p.name, p))

def toJson (p : BackgroundPolicy) : Json := .string p.name
def decode : Decoder BackgroundPolicy := decodeName names

end BackgroundPolicy

def BrokerStatus.toJson (s : BrokerStatus) : Json := .record [
  ("suppliers", .natural s.suppliers),
  ("available", .natural s.available),
  ("requests", .natural s.requests),
  ("bound", .natural s.bound),
  ("listeners", .natural s.listeners),
  ("default_network", .ofOption (fun id => .natural id.toNat) s.default),
  ("background_restricted", .bool s.restricted)]

/-- A command that only has an effect answers null. -/
def Answer.toJson : Answer → Json
  | done => .null
  | id n => .natural n.toNat
  | request r => r.toJson
  | status s => s.toJson

end Connectivity
