import Connectivity.Config.Text
/-! The settings file: read where there is one, written where there is none. -/
namespace Connectivity

inductive SettingsFault where
  | unreadable
  | malformed
  | unwritable
  deriving DecidableEq, Repr

namespace Settings

/-- The environment decides before the file, the file before the defaults. -/
def load (e : Environment) (d : Disk) : Except SettingsFault Settings :=
  let path := e.settingsFile
  if d.holds path then
    match d.text? path with
    | none => .error .unreadable
    | some text =>
      match ofText? (default e) text with
      | some s => .ok (s.override e)
      | none => .error .malformed
  else .ok ((default e).override e)

def writeDefault (e : Environment) (d : Disk) : Except SettingsFault (String × Disk) :=
  let path := e.settingsFile
  if d.holds path then .ok (path, d)
  else
    match (d.makeParent? path).bind (·.write? path (some (default e).text)) with
    | some d => .ok (path, d)
    | none => .error .unwritable

end Settings

end Connectivity
