/-! The endpoints of the interface: which operation a path and a method stand for. -/
namespace Connectivity

inductive Operation where
  | status
  | registerSupplier
  | getSupplier
  | unregisterSupplier
  | updateInfo
  | updateCapabilities
  | updateLink
  | networks
  | networksOfType
  | link
  | capabilities
  | default
  | hasDefault
  | activate
  | listen
  | trackDefault
  | deactivate
  | getUidPolicy
  | setUidPolicy
  | uidAllowed
  | setUidState
  | uidsWithPolicy
  | getBackground
  | setBackground
  | backgroundOfUid
  deriving DecidableEq, Repr

inductive Segment where
  | word (s : String)
  | param
  deriving DecidableEq

structure Endpoint where
  pattern : List Segment
  methods : List (String × Operation)

namespace Endpoint

/-- The parameters of a path that fits the pattern. Only a parameter before another segment may be
empty. -/
def params? : List Segment → List (List Char) → Option (List (List Char))
  | [], [] => some []
  | .word s :: pattern, part :: parts => if part = s.toList then params? pattern parts else none
  | .param :: pattern, part :: parts =>
    if part.isEmpty && parts.isEmpty then none else (params? pattern parts).map (part :: ·)
  | _, _ => none

def word (s : String) : Segment := .word s

/-- Words come before a parameter in their place. -/
def all : List Endpoint := [
  ⟨[word "status"], [("GET", .status)]⟩,
  ⟨[word "suppliers"], [("POST", .registerSupplier)]⟩,
  ⟨[word "suppliers", .param], [("GET", .getSupplier), ("DELETE", .unregisterSupplier)]⟩,
  ⟨[word "suppliers", .param, word "info"], [("PUT", .updateInfo)]⟩,
  ⟨[word "suppliers", .param, word "capabilities"], [("PUT", .updateCapabilities)]⟩,
  ⟨[word "suppliers", .param, word "link"], [("PUT", .updateLink)]⟩,
  ⟨[word "networks"], [("GET", .networks)]⟩,
  ⟨[word "networks", word "type", .param], [("GET", .networksOfType)]⟩,
  ⟨[word "networks", .param, word "link"], [("GET", .link)]⟩,
  ⟨[word "networks", .param, word "capabilities"], [("GET", .capabilities)]⟩,
  ⟨[word "default"], [("GET", .default)]⟩,
  ⟨[word "default", word "exists"], [("GET", .hasDefault)]⟩,
  ⟨[word "requests"], [("POST", .activate)]⟩,
  ⟨[word "requests", .param], [("DELETE", .deactivate)]⟩,
  ⟨[word "callbacks"], [("POST", .listen)]⟩,
  ⟨[word "callbacks", word "default"], [("GET", .trackDefault)]⟩,
  ⟨[word "callbacks", .param], [("DELETE", .deactivate)]⟩,
  ⟨[word "policy", word "uid", .param], [("GET", .getUidPolicy), ("PUT", .setUidPolicy)]⟩,
  ⟨[word "policy", word "uid", .param, word "allowed"], [("GET", .uidAllowed)]⟩,
  ⟨[word "policy", word "uid", .param, word "state"], [("PUT", .setUidState)]⟩,
  ⟨[word "policy", word "uids", .param], [("GET", .uidsWithPolicy)]⟩,
  ⟨[word "policy", word "background"], [("GET", .getBackground), ("PUT", .setBackground)]⟩,
  ⟨[word "policy", word "background", .param], [("GET", .backgroundOfUid)]⟩]

def find? (parts : List (List Char)) : Option (Endpoint × List (List Char)) :=
  all.findSome? (fun r => (params? r.pattern parts).map (fun ps => (r, ps)))

/-- What is asked with HEAD is what is asked with GET. -/
def operation? (e : Endpoint) (method : String) : Option Operation :=
  e.methods.lookup (if method = "HEAD" then "GET" else method)

end Endpoint

end Connectivity
