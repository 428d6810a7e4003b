import Connectivity.Config.Settings
import Connectivity.Toml.Document
import Connectivity.Toml.Printer
/-! Settings as a TOML document. Sections and their keys may be missing and then keep their
defaults; keys without a meaning are ignored. -/
namespace Connectivity

namespace Toml

/-- The members of a record: a table has them by name, an array in order. A point in time stands for
a record without members. -/
def members? (names : List String) : Toml → Option TomlEntries
  | .table _ es => some es
  | .array items => some (names.zip items)
  | .tables before last => some (names.zip ((before ++ [last]).map (.table .header)))
  | .moment => some []
  | _ => none

def string? : Toml → Option String
  | .string s => some s
  | _ => none

def flag? : Toml → Option Bool
  | .bool b => some b
  | _ => none

/-- An integer from zero up to `limit`. -/
def natural? (limit : Nat) : Toml → Option Nat
  | .integer n => if 0 ≤ n ∧ n.toNat ≤ limit then some n.toNat else none
  | _ => none

def uid? (v : Toml) : Option Uid := (v.natural? 0xFFFFFFFF).map UInt32.ofNat

def uids? : Toml → Option (List Uid)
  | .array items => items.mapM uid?
  | _ => none

def isHollow : Toml → Bool
  | .array [] => true
  | .table _ [] => true
  | _ => false

/-- A name, or a table with that name as its only key, over nothing. -/
def duplicates? : Toml → Option DuplicatePolicy
  | .string s => DuplicatePolicy.ofName? s
  | .table _ [(key, v)] => if v.isHollow then DuplicatePolicy.ofName? key else none
  | _ => none

/-- What stands under a key, or else the default. -/
def member {α : Type} (es : TomlEntries) (key : String) (decode : Toml → Option α) (default : α) :
    Option α :=
  match es.lookup key with
  | some v => decode v
  | none => some default

end Toml

namespace ApiSettings

def keys : List String := ["port", "interface_token"]

def ofToml? (default : ApiSettings) (v : Toml) : Option ApiSettings := do
  let es ← v.members? keys
  let port ← Toml.member es "port" (fun v => (v.natural? 0xFFFF).map UInt16.ofNat) default.port
  let token ← Toml.member es "interface_token" Toml.string? default.token
  return { port, token }

end ApiSettings

namespace PolicySettings

def keys : List String := ["persist", "persist_path", "background_restricted", "system_uids"]

def ofToml? (default : PolicySettings) (v : Toml) : Option PolicySettings := do
  let es ← v.members? keys
  let persist ← Toml.member es "persist" Toml.flag? default.persist
  let path ← Toml.member es "persist_path" Toml.string? default.path
  let restricted ← Toml.member es "background_restricted" Toml.flag? default.restricted
  let systemUids ← Toml.member es "system_uids" Toml.uids? default.systemUids
  return { persist, path, restricted, systemUids }

end PolicySettings

namespace Settings

def duplicatesOfToml? (default : DuplicatePolicy) (v : Toml) : Option DuplicatePolicy := do
  let es ← v.members? ["duplicate_suppliers"]
  Toml.member es "duplicate_suppliers" Toml.duplicates? default

def queueDepthOfToml? (default : Nat) (v : Toml) : Option Nat := do
  let es ← v.members? ["listener_queue_depth"]
  Toml.member es "listener_queue_depth" (Toml.natural? 0xFFFFFFFFFFFFFFFF) default

def ofToml? (default : Settings) (es : TomlEntries) : Option Settings := do
  let api ← Toml.member es "api" (ApiSettings.ofToml? default.api) default.api
  let policy ← Toml.member es "policy" (PolicySettings.ofToml? default.policy) default.policy
  let duplicates ←
    Toml.member es "registry" (duplicatesOfToml? default.duplicates) default.duplicates
  let queueDepth ←
    Toml.member es "dispatch" (queueDepthOfToml? default.queueDepth) default.queueDepth
  return { api, policy, duplicates, queueDepth }

/-- The settings in a text. What it does not set is as in `default`. -/
def ofText? (default : Settings) (text : String) : Option Settings :=
  (Toml.document? text).bind (ofToml? default)

open Toml in
/-- Sections and keys in a fixed order, with an empty line between two sections. -/
def text (s : Settings) : String := String.ofList (printSections [
  ("api", [
    ("port", printNatural s.api.port.toNat),
    ("interface_token", printString s.api.token)]),
  ("policy", [
    ("persist", printFlag s.policy.persist),
    ("persist_path", printString s.policy.path),
    ("background_restricted", printFlag s.policy.restricted),
    ("system_uids", printArray (s.policy.systemUids.map (fun uid => printNatural uid.toNat)))]),
  ("registry", [("duplicate_suppliers", printString s.duplicates.name)]),
  ("dispatch", [("listener_queue_depth", printNatural s.queueDepth)])])

end Settings

end Connectivity
