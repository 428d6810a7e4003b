import Connectivity.Config.Disk
import Connectivity.Firewall.Table
import Connectivity.Text.Decimal
import Connectivity.Wire.Supplier
/-! Settings, where they are kept, and which variables of the environment override them. -/
namespace Connectivity

abbrev Environment := List (String × String)

structure ApiSettings where
  port : UInt16 := 9101
  token : String := "netbroker.broker.v1"
  deriving DecidableEq, Repr

structure PolicySettings where
  persist : Bool := true
  path : String
  restricted : Bool := true
  systemUids : List Uid := [0]
  deriving DecidableEq, Repr

structure Settings where
  api : ApiSettings := {}
  policy : PolicySettings
  duplicates : DuplicatePolicy := .reject
  queueDepth : Nat := 64
  deriving DecidableEq, Repr

namespace Environment

def get? (e : Environment) (name : String) : Option String := e.lookup name

/-- Whoever has no home has a temporary one. -/
def home (e : Environment) : String := (e.get? "HOME").getD "/tmp"

/-- A variable that is set counts, even if it is empty. -/
def configDirectory (e : Environment) : String :=
  Path.join ((e.get? "XDG_CONFIG_HOME").getD (Path.join e.home ".config")) "netbroker"

def dataDirectory (e : Environment) : String :=
  let shared := Path.join (Path.join e.home ".local") "share"
  Path.join ((e.get? "XDG_DATA_HOME").getD shared) "netbroker"

def settingsFile (e : Environment) : String :=
  (e.get? "NETBROKER_CONFIG").getD (Path.join e.configDirectory "config.toml")

end Environment

namespace Settings

def default (e : Environment) : Settings :=
  { policy := { path := Path.join e.dataDirectory "uid_policy.json" } }

def isOn (s : String) : Bool := s == "true" || s == "1"

/-- A value that is no port or no duplicate policy overrides nothing; any value overrides a flag. -/
def override (s : Settings) (e : Environment) : Settings :=
  let port := (e.get? "NETBROKER_API__PORT").bind (Decimal.count? 0xFFFF)
  let restricted := (e.get? "NETBROKER_POLICY__BACKGROUND_RESTRICTED").map isOn
  let persist := (e.get? "NETBROKER_POLICY__PERSIST").map isOn
  let duplicates := (e.get? "NETBROKER_REGISTRY__DUPLICATE_SUPPLIERS").bind DuplicatePolicy.ofName?
  { s with
    api := { s.api with port := (port.map UInt16.ofNat).getD s.api.port }
    policy := { s.policy with
      persist := persist.getD s.policy.persist
      restricted := restricted.getD s.policy.restricted }
    duplicates := duplicates.getD s.duplicates }

end Settings

end Connectivity
