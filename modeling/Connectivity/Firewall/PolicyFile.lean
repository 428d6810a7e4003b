import Connectivity.Firewall.Table
import Connectivity.Json.Decoder
import Connectivity.Json.Printer
/-! The file that outlives the policies: a JSON object from uids, written as decimal numerals, to
policies, in the order of the numerals as text. Reading is more tolerant than writing. -/
namespace Connectivity

open Json

/-- Where the policies are kept. Nothing can be read from or written to an unusable place. -/
inductive PolicyFile where
  | absent
  | holds (text : String)
  | unusable
  deriving DecidableEq, Repr

namespace PolicyText

def inOrder (entries : List (String × PolicyBits)) : List (String × PolicyBits) :=
  entries.mergeSort (fun a b => a.1 ≤ b.1)

def ofPolicies (policies : Table PolicyBits) : String :=
  let entries := policies.entries.map (fun e => (Decimal.text e.1.toNat, e.2))
  String.ofList (printLines ((inOrder entries).map (fun e => (e.1, Json.natural e.2.toNat))))

/-- Of entries with one key the last stays. -/
def lastOfEach : List (String × PolicyBits) → List (String × PolicyBits)
  | [] => []
  | e :: rest => if rest.any (·.1 == e.1) then lastOfEach rest else e :: lastOfEach rest

def decodeMembers : List (Option String × Json) → Except Fault (List (String × PolicyBits))
  | [] => .ok []
  | (none, _) :: _ => .error .malformed
  | (some key, v) :: rest => do
    let policy ← decodeWord32 v
    let entries ← decodeMembers rest
    return (key, policy) :: entries

def decode : Decoder (List (String × PolicyBits))
  | .object members => decodeMembers members
  | v => .error v.faultOf

def entries? (text : String) : Option (List (String × PolicyBits)) :=
  (decodeText decode text).toOption.map (fun entries => inOrder (lastOfEach entries))

def meaning? (e : String × PolicyBits) : Option (Uid × PolicyBits) :=
  if e.2 = 0 then none
  else (Decimal.count? 0xFFFFFFFF e.1).map (fun n => (UInt32.ofNat n, e.2))

end PolicyText

/-- Enters what the text holds, later entries over earlier ones, and counts the entries. -/
def Firewall.load (f : Firewall) (text : String) : Nat × Firewall :=
  let entries := ((PolicyText.entries? text).getD []).filterMap PolicyText.meaning?
  (entries.length,
    { f with policies := entries.foldl (fun t e => t.insert e.1 e.2) f.policies })

structure PolicyStore where
  firewall : Firewall := {}
  keeps : Bool := false
  file : PolicyFile := .absent
  deriving DecidableEq

namespace PolicyStore

def save (s : PolicyStore) : PolicyStore :=
  match s.keeps, s.file with
  | false, _ => s
  | true, .unusable => s
  | true, _ => { s with file := .holds (PolicyText.ofPolicies s.firewall.policies) }

def load (s : PolicyStore) : Nat × PolicyStore :=
  match s.keeps, s.file with
  | true, .holds text =>
    let (count, firewall) := s.firewall.load text
    (count, { s with firewall })
  | _, _ => (0, s)

/-- The file is written exactly when the policy changed. -/
def setPolicy (s : PolicyStore) (uid : Uid) (policy : PolicyBits) : Bool × PolicyStore :=
  let (changed, firewall) := s.firewall.setPolicy uid policy
  let s := { s with firewall }
  (changed, if changed then s.save else s)

theorem setPolicy_firewall (s : PolicyStore) (uid : Uid) (policy : PolicyBits) :
    (s.setPolicy uid policy).2.firewall = (s.firewall.setPolicy uid policy).2 := by
  unfold setPolicy
  dsimp only
  split
  · unfold save
    split <;> rfl
  · rfl

/-- A new firewall with the same settings, which reads the same file. -/
def reopen (s : PolicyStore) (restricted : Bool) : Nat × PolicyStore :=
  { s with firewall := { restricted, system := s.firewall.system } }.load

def text? (s : PolicyStore) : Option String :=
  match s.file with
  | .holds text => some text
  | _ => none

def overwrite (s : PolicyStore) (text : String) : PolicyStore := { s with file := .holds text }

end PolicyStore

end Connectivity
