import Connectivity.Broker.InPlace
import Connectivity.Proofs.Run
/-! A refusal means that nothing was changed, although commands work on the broker in place. Each
call on one component checks before it writes, and what a command does after its first write cannot
be refused. -/
namespace Connectivity

namespace Attempt
variable {σ τ α β : Type}

@[simp] theorem bind_apply (x : Attempt σ α) (f : α → Attempt σ β) (s : σ) :
    (x >>= f) s = match x s with
      | .ok a t => f a t
      | .error e t => .error e t := by
  cases done : x s <;> simp [bind, EStateM.bind, done]

@[simp] theorem map_apply (f : α → β) (x : Attempt σ α) (s : σ) :
    (f <$> x) s = match x s with
      | .ok a t => .ok (f a) t
      | .error e t => .error e t := by
  cases done : x s <;> simp [Functor.map, EStateM.map, done]

@[simp] theorem pure_apply (a : α) (s : σ) : (pure a : Attempt σ α) s = .ok a s := rfl

@[simp] theorem throw_apply (e : Refusal) (s : σ) : (throw e : Attempt σ α) s = .error e s := rfl

@[simp] theorem get_apply (s : σ) : (get : Attempt σ σ) s = .ok s s := rfl

@[simp] theorem set_apply (s t : σ) : (set t : Attempt σ PUnit) s = .ok () t := rfl

@[simp] theorem modify_apply (f : σ → σ) (s : σ) : (modify f : Attempt σ Unit) s = .ok () (f s) :=
  rfl

@[simp] theorem modifyGet_apply (f : σ → α × σ) (s : σ) :
    (modifyGet f : Attempt σ α) s = .ok (f s).1 (f s).2 := rfl

/-- The call that comes to what `f` says; refused, it leaves everything as it was. -/
def atomic (f : σ → Except Refusal (α × σ)) : Attempt σ α :=
  fun s => match f s with
    | .ok (a, t) => .ok a t
    | .error e => .error e s

theorem on_atomic {part : τ → σ} {put : τ → σ → τ} (same : ∀ t, put t (part t) = t)
    (f : σ → Except Refusal (α × σ)) (t : τ) :
    on part put (atomic f) t = match f (part t) with
      | .ok (a, s) => .ok a (put t s)
      | .error e => .error e t := by
  cases done : f (part t) <;> simp [on, atomic, done, same]

@[simp] theorem on_modifyGet {part : τ → σ} {put : τ → σ → τ} (f : σ → α × σ) (t : τ) :
    on part put (modifyGet f : Attempt σ α) t = .ok (f (part t)).1 (put t (f (part t)).2) := rfl

@[simp] theorem on_modify {part : τ → σ} {put : τ → σ → τ} (f : σ → σ) (t : τ) :
    on part put (modify f) t = .ok () (put t (f (part t))) := rfl

end Attempt

namespace Registry
variable (id : SupplierId)

theorem require_eq : require id = .atomic (fun r => do let e ← r.entry id; return (e, r)) := by
  funext r
  cases found : r.find? id <;> simp [require, Attempt.atomic, entry, found]

theorem registerInPlace_eq (netType : NetType) (identity : String) (capabilities : Capabilities) :
    registerInPlace netType identity capabilities =
      .atomic (·.register netType identity capabilities) := by
  funext r
  cases named : r.named? netType identity with
  | none => simp [registerInPlace, Attempt.atomic, register, named, allocate, put]
  | some existing =>
    cases duplicates : r.duplicates <;>
      simp [registerInPlace, Attempt.atomic, register, named, duplicates]

theorem unregisterInPlace_eq : unregisterInPlace id = .atomic (·.unregister id) := by
  funext r
  cases found : r.entry id <;>
    simp [unregisterInPlace, require_eq, Attempt.atomic, unregister, found]

theorem updateInfoInPlace_eq (info : SupplierInfo) :
    updateInfoInPlace id info = .atomic (·.updateInfo id info) := by
  funext r
  cases found : r.entry id with
  | error e => simp [updateInfoInPlace, require_eq, Attempt.atomic, updateInfo, found]
  | ok e =>
    by_cases fresh : info.isAvailable = true ∧ e.info.isAvailable = false <;>
      simp [updateInfoInPlace, require_eq, Attempt.atomic, updateInfo, found, fresh, put]

theorem updateCapabilitiesInPlace_eq (capabilities : Capabilities) :
    updateCapabilitiesInPlace id capabilities =
      .atomic (·.updateCapabilities id capabilities) := by
  funext r
  cases found : r.entry id <;>
    simp [updateCapabilitiesInPlace, require_eq, Attempt.atomic, updateCapabilities, found, put]

theorem updateLinkInPlace_eq (link : LinkInfo) :
    updateLinkInPlace id link = .atomic (fun r => do return ((), ← r.updateLink id link)) := by
  funext r
  cases found : r.entry id <;>
    simp [updateLinkInPlace, require_eq, Attempt.atomic, updateLink, found, put]

end Registry

namespace Matcher

theorem require_eq (id : RequestId) :
    require id = .atomic (fun m => do let r ← m.entry id; return (r, m)) := by
  funext m
  cases found : m.find? id <;> simp [require, Attempt.atomic, entry, found]

theorem deactivateInPlace_eq (id : RequestId) :
    deactivateInPlace id = .atomic (·.deactivate id) := by
  funext m
  cases found : m.entry id <;>
    simp [deactivateInPlace, require_eq, Attempt.atomic, deactivate, found]

theorem activateInPlace_eq (kind : RequestKind) (specifier : Specifier) (l : ListenerId) :
    activateInPlace kind specifier l = .atomic (fun m => .ok (m.activate kind specifier l)) := by
  funext m
  simp [activateInPlace, Attempt.atomic, activate, allocate]

end Matcher

namespace Hub

theorem registerInPlace_eq (uid : Uid) (sink : Sink) :
    registerInPlace uid sink = .atomic (·.register uid sink) := by
  funext h
  cases connected : sink.isConnected <;>
    simp [registerInPlace, Attempt.atomic, register, connected, allocate]

theorem attachInPlace_eq (l : ListenerId) (request : RequestId) :
    attachInPlace l request = .atomic (fun h => do return ((), ← h.attach l request)) := by
  funext h
  cases there : h.contains l <;> simp [attachInPlace, Attempt.atomic, attach, there]

end Hub

namespace Turn
variable {b : Broker} {t : Turn} {α : Type}

/-- A command that comes to `r`, with nothing changed and nothing done by a refusal. -/
def whole (b : Broker) : Except Refusal (Answer × Turn) → EStateM.Result Refusal Turn Answer
  | .ok (a, t) => .ok a t
  | .error e => .error e b.begin

@[simp] theorem begin_broker (b : Broker) : b.begin.broker = b := rfl

/-- Nothing of the rest is done for a caller who may not ask for it. -/
theorem authorize_bind {caller : Uid} {rest : Attempt Turn Answer}
    {done : Except Refusal (Answer × Turn)} (goesOn : rest b.begin = whole b done) :
    (authorize caller >>= fun _ => rest) b.begin = whole b (b.authorize caller >>= fun _ => done) := by
  cases system : b.firewall.isSystem caller <;>
    simp [authorize, Broker.authorize, system, goesOn, whole]

theorem netTypeOf_bind {id : SupplierId} {rest : NetType → Attempt Turn Answer}
    {done : SupplierEntry → Except Refusal (Answer × Turn)}
    (goesOn : ∀ e, b.registry.entry id = .ok e → rest e.netType b.begin = whole b (done e)) :
    (netTypeOf id >>= rest) b.begin = whole b (b.registry.entry id >>= done) := by
  cases found : b.registry.find? id with
  | none => simp [netTypeOf, Registry.netType?, Registry.entry, found, whole]
  | some e =>
    have entry : b.registry.entry id = .ok e := by rw [Registry.entry, found]
    simp [netTypeOf, Registry.netType?, found, entry, goesOn e entry]

theorem registerSupplier_begin (caller : Uid) (netType : NetType) (identity : String)
    (capabilities : Capabilities) :
    registerSupplier caller netType identity capabilities b.begin =
      whole b (b.perform (.registerSupplier caller netType identity capabilities)) := by
  refine authorize_bind ?_
  rw [Registry.registerInPlace_eq]
  cases done : b.registry.register netType identity capabilities with
  | error e => simp [onRegistry, Attempt.on_atomic, Broker.registerSupplier, done, whole]
  | ok g =>
    cases made : g.1.created <;>
      simp [onRegistry, Attempt.on_atomic, Broker.registerSupplier, done, made, whole, Broker.begin]

theorem unregisterSupplier_begin (caller : Uid) (id : SupplierId) :
    unregisterSupplier caller id b.begin =
      whole b (b.perform (.unregisterSupplier caller id)) := by
  refine authorize_bind ?_
  rw [Registry.unregisterInPlace_eq]
  cases gone : b.registry.unregister id with
  | error e => simp [onRegistry, Attempt.on_atomic, Broker.unregisterSupplier, gone, whole]
  | ok e =>
    cases linked : e.1.link.isSome <;>
      simp [onRegistry, Attempt.on_atomic, Broker.unregisterSupplier, gone, linked, whole,
        Broker.begin]

theorem updateInfo_begin (caller : Uid) (id : SupplierId) (info : SupplierInfo) :
    updateInfo caller id info b.begin = whole b (b.perform (.updateInfo caller id info)) := by
  refine authorize_bind (netTypeOf_bind (fun e found => ?_))
  rw [Registry.updateInfoInPlace_eq]
  cases done : b.registry.updateInfo id info <;>
    simp [onRegistry, Attempt.on_atomic, done, whole, Broker.begin]

theorem updateCapabilities_begin (caller : Uid) (id : SupplierId) (capabilities : Capabilities) :
    updateCapabilities caller id capabilities b.begin =
      whole b (b.perform (.updateCapabilities caller id capabilities)) := by
  refine authorize_bind (netTypeOf_bind (fun e found => ?_))
  rw [Registry.updateCapabilitiesInPlace_eq]
  cases done : b.registry.updateCapabilities id capabilities with
  | error e => simp [onRegistry, Attempt.on_atomic, done, whole]
  | ok g =>
    by_cases metering : g.1.isMetered = capabilities.isMetered <;>
      by_cases same : g.1 = capabilities <;>
        simp [onRegistry, Attempt.on_atomic, done, metering, same, whole, Broker.begin]

theorem updateLink_begin (caller : Uid) (id : SupplierId) (link : LinkInfo) :
    updateLink caller id link b.begin = whole b (b.perform (.updateLink caller id link)) := by
  refine authorize_bind (netTypeOf_bind (fun e found => ?_))
  rw [Registry.updateLinkInPlace_eq]
  cases done : b.registry.updateLink id link <;>
    simp [onRegistry, Attempt.on_atomic, done, whole, Broker.begin]

theorem activate_begin (kind : RequestKind) (specifier : Specifier) (l : ListenerId) :
    activate kind specifier l b.begin = whole b (b.perform (.activate kind specifier l)) := by
  rw [activate, Matcher.activateInPlace_eq]
  simp only [Hub.attachInPlace_eq, Broker.perform, Broker.activate, Specifier.validate]
  cases flaw : specifier.flaw? with
  | some flaw => simp [whole]
  | none =>
    cases there : b.hub.contains l with
    | false => simp [there, Hub.attach, whole]
    | true =>
      -- The request is entered, and attaching it could still be refused; but entering it has not
      -- touched the hub, where the listener is there as before.
      simp [onMatcher, onHub, Attempt.on_atomic, there, Hub.attach, whole, Broker.begin]

theorem deactivate_begin (caller : Uid) (id : RequestId) :
    deactivate caller id b.begin = whole b (b.perform (.deactivate caller id)) := by
  rw [deactivate, Matcher.deactivateInPlace_eq, Matcher.require_eq]
  simp only [Broker.perform, Broker.deactivate, Matcher.deactivate]
  cases found : b.matcher.entry id with
  | error e => simp [onMatcher, Attempt.on_atomic, found, whole]
  | ok r =>
    cases system : b.firewall.isSystem caller <;>
      by_cases own : b.hub.uid? r.listener = some caller <;>
        simp [onMatcher, onHub, Attempt.on_atomic, found, system, own, whole, Broker.begin]

theorem setFirewall_apply (change : Firewall → Bool × Firewall) (t : Turn) :
    setFirewall change t = .ok (change t.broker.firewall).1 { t with broker := { t.broker with
      store := { t.broker.store with firewall := (change t.broker.firewall).2 } } } := by
  simp [setFirewall]

theorem setUidPolicy_begin (caller uid : Uid) (policy : PolicyBits) :
    setUidPolicy caller uid policy b.begin =
      whole b (b.perform (.setUidPolicy caller uid policy)) := by
  refine authorize_bind ?_
  cases changed : (b.store.setPolicy uid policy).1 <;>
    simp [Broker.setUidPolicy, changed, whole, Broker.begin]

theorem setBackgroundPolicy_begin (caller : Uid) (restricted : Bool) :
    setBackgroundPolicy caller restricted b.begin =
      whole b (b.perform (.setBackgroundPolicy caller restricted)) := by
  refine authorize_bind ?_
  cases changed : (b.firewall.setRestricted restricted).1 <;>
    simp [setFirewall_apply, Broker.setBackgroundPolicy, changed, whole, Broker.begin]

theorem setUidBackground_begin (caller uid : Uid) (background : Bool) :
    setUidBackground caller uid background b.begin =
      whole b (b.perform (.setUidBackground caller uid background)) := by
  refine authorize_bind ?_
  cases changed : (b.firewall.setBackground uid background).1 <;>
    simp [setFirewall_apply, Broker.setUidBackground, changed, whole, Broker.begin]

theorem dropEach_apply (ids : List RequestId) (t : Turn) :
    (forM ids (fun id => (onMatcher (Matcher.deactivateInPlace id)).ignore) : Attempt Turn PUnit) t =
      .ok () { t with broker := { t.broker with matcher := { t.broker.matcher with
        requests := ids.foldl Table.erase t.broker.matcher.requests } } } := by
  induction ids generalizing t with
  | nil => rfl
  | cons id ids ih =>
    -- A request that is not there any more is passed over, which erasing it comes to as well.
    have first : (onMatcher (Matcher.deactivateInPlace id)).ignore t =
        .ok () { t with broker := { t.broker with matcher := { t.broker.matcher with
          requests := t.broker.matcher.requests.erase id } } } := by
      rw [Matcher.deactivateInPlace_eq]
      cases found : t.broker.matcher.find? id with
      | some r =>
        simp [Attempt.ignore, onMatcher, Attempt.on_atomic, Matcher.deactivate, Matcher.entry, found]
      | none =>
        rw [Table.erase_of_absent found]
        simp [Attempt.ignore, onMatcher, Attempt.on_atomic, Matcher.deactivate, Matcher.entry, found]
    simp only [List.forM_cons, Attempt.bind_apply, first]
    exact ih _

theorem dropListener_begin (l : ListenerId) :
    dropListener l b.begin = .ok () (b.dropListener l).begin := by
  have each (owned : IdSet) (m : Matcher) :
      { m with requests := owned.keys.foldl Table.erase m.requests } = m.discard owned := by
    rw [Matcher.discard, Table.foldl_erase]
    congr
    funext k _
    rw [Bool.eq_iff_iff]
    simp [Table.mem_keys_iff]
  simp only [dropListener, onHub, Attempt.bind_apply, Attempt.on_modifyGet, dropEach_apply, each]
  rfl

theorem unregisterListener_begin (l : ListenerId) :
    unregisterListener l b.begin = whole b (b.perform (.unregisterListener l)) := by
  cases there : b.hub.contains l <;>
    simp [unregisterListener, dropListener_begin, Broker.perform, Broker.unregisterListener, there,
      whole]

/-- Every command is carried out whole or refused whole. -/
theorem handle_begin (b : Broker) (c : Command) : handle c b.begin = whole b (b.perform c) := by
  cases c with
  | registerSupplier caller netType identity capabilities =>
    exact registerSupplier_begin caller netType identity capabilities
  | unregisterSupplier caller id => exact unregisterSupplier_begin caller id
  | updateInfo caller id info => exact updateInfo_begin caller id info
  | updateCapabilities caller id capabilities =>
    exact updateCapabilities_begin caller id capabilities
  | updateLink caller id link => exact updateLink_begin caller id link
  | registerListener uid sink =>
    rw [handle, Hub.registerInPlace_eq]
    cases done : b.hub.register uid sink <;>
      simp [onHub, Attempt.on_atomic, Broker.perform, Broker.registerListener, done, whole,
        Broker.begin]
  | unregisterListener l => exact unregisterListener_begin l
  | activate kind specifier l => exact activate_begin kind specifier l
  | deactivate caller id => exact deactivate_begin caller id
  | request id =>
    rw [handle, Matcher.require_eq]
    cases found : b.matcher.entry id <;>
      simp [onMatcher, Attempt.on_atomic, Broker.perform, found, whole, Broker.begin]
  | setUidPolicy caller uid policy => exact setUidPolicy_begin caller uid policy
  | setBackgroundPolicy caller restricted => exact setBackgroundPolicy_begin caller restricted
  | setUidBackground caller uid background => exact setUidBackground_begin caller uid background
  | status => rfl

end Turn

namespace Broker

theorem execute_eq_step (b : Broker) (c : Command) : b.execute c = b.step c := by
  rw [execute, Turn.handle_begin, step]
  cases b.perform c <;> rfl

/-- A command that is refused in place leaves every table, counter, queue and file as it was, sends
nothing, calls no device and publishes no default; carried out, it comes to what `step` says. -/
theorem execute_atomic (b : Broker) (c : Command) : b.execute c = b.step c ∧
    ∀ e, (b.execute c).reply = .error e → (b.execute c).broker = b ∧ (b.execute c).deeds = {} := by
  refine ⟨execute_eq_step b c, fun e refused => ?_⟩
  have handled := Turn.handle_begin b c
  simp only [execute] at refused ⊢
  cases performed : b.perform c with
  | ok done =>
    rw [handled, performed] at refused
    cases refused
  | error e =>
    rw [handled, performed]
    exact ⟨rfl, rfl⟩

/-- The request was entered into no table, and no id is used up. -/
theorem execute_atomic_firstNetwork :
    (firstNetwork.execute (.activate .listen {} 9)).reply = .error .listenerUnreachable ∧
      (firstNetwork.execute (.activate .listen {} 9)).broker = firstNetwork ∧
      (firstNetwork.execute (.activate .listen {} 9)).deeds = {} :=
  ⟨rfl, (execute_atomic firstNetwork (.activate .listen {} 9)).2 _ rfl⟩

end Broker

end Connectivity
