import Connectivity.Registry
/-! Which supplier serves which request. A binding is kept as long as its supplier is available and
satisfies the specifier; only requests that follow the default network move to a better one. -/
namespace Connectivity

/-- How a request follows the suppliers: `request` and `listen` hold on to a supplier of their own,
`trackDefault` follows the default network. -/
inductive RequestKind where
  | request
  | listen
  | trackDefault
  deriving DecidableEq, Repr, Inhabited

/-- `announced` is the supplier the listener was last told is available. -/
structure ActiveRequest where
  id : RequestId
  kind : RequestKind
  specifier : Specifier
  listener : ListenerId
  bound : Option SupplierId := none
  announced : Option SupplierId := none
  deriving DecidableEq, Repr

inductive Scope where
  | all
  /-- A supplier of this type changed: the requests it could serve, and those it serves. -/
  | supplier (id : SupplierId) (netType : NetType)
  | request (id : RequestId)
  deriving DecidableEq, Repr

structure Transition where
  request : RequestId
  source : Option SupplierId
  target : Option SupplierId
  deriving DecidableEq, Repr

structure DefaultChange where
  source : Option SupplierId
  target : Option SupplierId
  deriving DecidableEq, Repr

structure Matcher where
  requests : Table ActiveRequest := .empty
  ids : IdSource := {}
  default : Option SupplierId := none
  deriving DecidableEq

def Scope.covers (s : Scope) (r : ActiveRequest) : Bool :=
  match s with
  | .all => true
  | .request id => r.id == id
  | .supplier id netType => r.bound == some id || r.specifier.concerns netType

def stillServes (candidates : List Candidate) (id : SupplierId) (s : Specifier) : Bool :=
  ((candidates.find? (·.supplier == id)).map (·.satisfies s)).getD false

namespace ActiveRequest

def nextBinding (r : ActiveRequest) (candidates : List Candidate) (default : Option SupplierId)
    (scope : Scope) : Option SupplierId :=
  match r.kind with
  | .trackDefault => default
  | _ =>
    if !scope.covers r then r.bound
    else match r.bound with
      | some current =>
        if stillServes candidates current r.specifier then some current
        else selectBest candidates r.specifier
      | none => selectBest candidates r.specifier

end ActiveRequest

namespace Matcher

/-- The new request is not bound yet. -/
def activate (m : Matcher) (kind : RequestKind) (specifier : Specifier) (listener : ListenerId) :
    RequestId × Matcher :=
  let (id, ids) := m.ids.take m.requests
  (id, { m with requests := m.requests.insert id { id, kind, specifier, listener }, ids })

def find? (m : Matcher) (id : RequestId) : Option ActiveRequest := m.requests.find? id

def entry (m : Matcher) (id : RequestId) : Except Refusal ActiveRequest :=
  match m.find? id with
  | some r => .ok r
  | none => .error (.unknownRequest id)

def deactivate (m : Matcher) (id : RequestId) : Except Refusal (ActiveRequest × Matcher) := do
  let r ← m.entry id
  return (r, { m with requests := m.requests.erase id })

def discard (m : Matcher) (ids : IdSet) : Matcher :=
  { m with requests := m.requests.filter (fun id _ => !ids.contains id) }

def setAnnounced (m : Matcher) (id : RequestId) (supplier : Option SupplierId) : Matcher :=
  { m with requests := m.requests.modify id (fun r => { r with announced := supplier }) }

def idsWhere (m : Matcher) (p : ActiveRequest → Bool) : List RequestId :=
  (m.requests.filter (fun _ r => p r)).keys

def announcedOn (m : Matcher) (id : SupplierId) : List RequestId :=
  m.idsWhere (·.announced == some id)

def boundTo (m : Matcher) (id : SupplierId) : List RequestId := m.idsWhere (·.bound == some id)

def ownedBy (m : Matcher) (listeners : List ListenerId) : List RequestId :=
  m.idsWhere (fun r => listeners.contains r.listener)

def boundCount (m : Matcher) : Nat := (m.idsWhere (·.bound.isSome)).length

def elect (m : Matcher) (registry : Registry) : Option DefaultChange × Matcher :=
  let elected := selectBest registry.candidates {}
  if elected = m.default then (none, m)
  else (some ⟨m.default, elected⟩, { m with default := elected })

structure Reevaluation where
  matcher : Matcher
  transitions : List Transition
  defaultChange : Option DefaultChange

/-- Elects the default network, then binds anew the requests in scope and those that follow the
default. The transitions are the bindings that changed, ascending by request. -/
def reevaluate (m : Matcher) (registry : Registry) (scope : Scope) : Reevaluation :=
  let (defaultChange, m) := m.elect registry
  let next (r : ActiveRequest) := r.nextBinding registry.candidates m.default scope
  { matcher := { m with requests := m.requests.mapValues (fun _ r => { r with bound := next r }) }
    transitions := m.requests.values.filterMap (fun r =>
      if next r = r.bound then none else some ⟨r.id, r.bound, next r⟩)
    defaultChange }

end Matcher

end Connectivity
