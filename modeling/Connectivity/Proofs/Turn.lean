import Connectivity.Broker.Step
import Connectivity.Table.Lemmas
/-! What each part of a command does to one request and says about it. Announcing and telling leave
the suppliers, the policies and the listeners alone, so who may see what stays fixed while they
happen. -/
namespace Connectivity

/-- Every request stands under its own id. -/
def Matcher.Keyed (m : Matcher) : Prop := ∀ q r, m.find? q = some r → r.id = q

/-- What was sent about request `q`, in order. -/
def Deeds.about (d : Deeds) (q : RequestId) : List (ListenerId × Notification) :=
  d.sent.filter (·.2.request == q)

/-- These events, to the listener of `r`. -/
def ActiveRequest.notices (r : ActiveRequest) (es : List NetworkEvent) :
    List (ListenerId × Notification) := es.map (fun e => (r.listener, ⟨r.id, e⟩))

/-- What stays of a request as long as it is there. -/
def ActiveRequest.bare (r : ActiveRequest) : ActiveRequest :=
  { r with bound := none, announced := none }

theorem ActiveRequest.bare_eq_iff {r s : ActiveRequest} : s.bare = r.bare ↔
    s.id = r.id ∧ s.kind = r.kind ∧ s.specifier = r.specifier ∧ s.listener = r.listener := by
  simp [bare]

namespace Hub

@[simp] theorem send_listeners (h : Hub) (l : ListenerId) (n : Notification) :
    (h.send l n).listeners = h.listeners := by
  unfold send
  split <;> rfl

@[simp] theorem sendAll_listeners (h : Hub) (sent : List (ListenerId × Notification)) :
    (h.sendAll sent).listeners = h.listeners := by
  unfold sendAll
  induction sent generalizing h with
  | nil => rfl
  | cons s rest ih => rw [List.foldl_cons, ih, send_listeners]

end Hub

/-- `uid` may use a network of this metering, as things are. -/
def Firewall.admits (f : Firewall) (uid : Uid) (metered : Bool) : Bool :=
  f.allowed uid metered (f.isBackground uid)

namespace Broker

/-- From `b` to `c` suppliers, policies and listeners stay as they are, and the requests too, but
for what they are bound to and what was told of them. -/
structure Kept (b c : Broker) : Prop where
  registry : c.registry = b.registry
  store : c.store = b.store
  listeners : c.hub.listeners = b.hub.listeners
  requests : ∀ q, (c.matcher.find? q).map (·.bare) = (b.matcher.find? q).map (·.bare)

theorem Kept.refl (b : Broker) : Kept b b := ⟨rfl, rfl, rfl, fun _ => rfl⟩

theorem Kept.trans {b c d : Broker} (first : Kept b c) (last : Kept c d) : Kept b d :=
  ⟨last.registry.trans first.registry, last.store.trans first.store,
    last.listeners.trans first.listeners, fun q => (last.requests q).trans (first.requests q)⟩

theorem canSee_congr {b c : Broker} {l : ListenerId} {id : SupplierId}
    (metering : (c.registry.capabilities? id).map (·.isMetered) =
      (b.registry.capabilities? id).map (·.isMetered))
    (owner : c.hub.uid? l = b.hub.uid? l)
    (access : ∀ uid, b.hub.uid? l = some uid →
      ∀ metered, c.firewall.admits uid metered = b.firewall.admits uid metered) :
    c.canSee l id = b.canSee l id := by
  unfold canSee Hub.accessAllowed
  rw [owner]
  cases hc : c.registry.capabilities? id <;> cases hb : b.registry.capabilities? id <;>
    simp only [hc, hb, Option.map_some, Option.map_none, Option.some.injEq, reduceCtorEq] at metering
  · rfl
  · cases uid : b.hub.uid? l with
    | none => rfl
    | some u => simpa only [metering, Firewall.admits] using access u uid _

theorem Kept.canSee {b c : Broker} (kept : Kept b c) (l : ListenerId) (id : SupplierId) :
    c.canSee l id = b.canSee l id := by
  apply canSee_congr
  · rw [kept.registry]
  · unfold Hub.uid?
    rw [kept.listeners]
  · intro uid _ metered
    unfold firewall
    rw [kept.store]

theorem Kept.visible {b c : Broker} (kept : Kept b c) (r : ActiveRequest) :
    c.visible r = b.visible r := by
  unfold Broker.visible
  congr 1
  exact funext (kept.canSee r.listener)

/-- `r` once its listener was told, if it is one of `who`. -/
def told (b : Broker) (who : ActiveRequest → Bool) (r : ActiveRequest) : ActiveRequest :=
  { r with announced := if who r then b.visible r else r.announced }

/-- `r` once its binding was looked at again, and its listener told if that moved. -/
def rebind (b : Broker) (scope : Scope) (r : ActiveRequest) : ActiveRequest :=
  let target := r.nextBinding b.registry.candidates (selectBest b.registry.candidates {}) scope
  { r with
    bound := target
    announced := if target = r.bound then r.announced else target.filter (b.canSee r.listener) }

/-- The listener of `r`, one of `who`, was told of `s` and may see it. -/
def hears (b : Broker) (s : SupplierId) (who : ActiveRequest → Bool) (r : ActiveRequest) : Bool :=
  who r && r.announced == some s && b.canSee r.listener s

end Broker

namespace Matcher

@[simp] theorem elect_requests (m : Matcher) (registry : Registry) :
    (m.elect registry).2.requests = m.requests := by
  unfold elect
  dsimp only
  split <;> rfl

@[simp] theorem elect_default (m : Matcher) (registry : Registry) :
    (m.elect registry).2.default = selectBest registry.candidates {} := by
  unfold elect
  dsimp only
  split
  · rename_i same
    exact same.symm
  · rfl

theorem reevaluate_default (m : Matcher) (registry : Registry) (scope : Scope) :
    (m.reevaluate registry scope).matcher.default = selectBest registry.candidates {} :=
  elect_default m registry

theorem reevaluate_find? (m : Matcher) (registry : Registry) (scope : Scope) (q : RequestId) :
    (m.reevaluate registry scope).matcher.find? q = (m.find? q).map (fun r => { r with
      bound := r.nextBinding registry.candidates (selectBest registry.candidates {}) scope }) := by
  simp only [reevaluate, find?, Table.find?_mapValues, elect_requests, elect_default]

/-- The transitions name exactly the requests whose binding moves. -/
theorem transitions_any {m : Matcher} (keyed : m.Keyed) (registry : Registry) (scope : Scope)
    {q : RequestId} {r : ActiveRequest} (found : m.find? q = some r) :
    (m.reevaluate registry scope).transitions.any (·.request == q) = true ↔
      r.nextBinding registry.candidates (selectBest registry.candidates {}) scope ≠ r.bound := by
  simp only [reevaluate, elect_requests, elect_default, List.any_eq_true, List.mem_filterMap]
  constructor
  · rintro ⟨move, ⟨s, hs, moved⟩, named⟩
    obtain ⟨key, under⟩ := Table.mem_values_iff.1 hs
    split at moved
    · cases moved
    · rename_i differs
      cases moved
      have same : key = q := (keyed key s under).symm.trans (by simpa using named)
      have only : s = r := Option.some.inj ((same ▸ under).symm.trans found)
      exact only ▸ differs
  · intro differs
    exact ⟨_, ⟨r, Table.mem_values_iff.2 ⟨q, found⟩, if_neg differs⟩, by simp [keyed q r found]⟩

end Matcher

namespace Broker

theorem kept_elect (b : Broker) : b.Kept { b with matcher := (b.matcher.elect b.registry).2 } := by
  refine ⟨rfl, rfl, rfl, fun q => ?_⟩
  simp only [Matcher.find?, Matcher.elect_requests]

theorem kept_reevaluate (b : Broker) (scope : Scope) :
    b.Kept { b with matcher := (b.matcher.reevaluate b.registry scope).matcher } := by
  refine ⟨rfl, rfl, rfl, fun q => ?_⟩
  simp only [Matcher.reevaluate_find?, Option.map_map]
  rfl

end Broker

theorem announcement_self (kind : RequestKind) (s : Option SupplierId) :
    announcement kind s s = [] := if_pos rfl

namespace Turn
variable (t : Turn)

/-- The turn goes on with these requests and this default. -/
def withMatcher (matcher : Matcher) : Turn := { t with broker := { t.broker with matcher } }

theorem send_kept (sent : List (ListenerId × Notification)) : t.broker.Kept (t.send sent).broker :=
  ⟨rfl, rfl, Hub.sendAll_listeners t.broker.hub sent, fun _ => rfl⟩

theorem publish_kept (change : Option DefaultChange) : t.broker.Kept (t.publish change).broker := by
  cases change <;> exact ⟨rfl, rfl, rfl, fun _ => rfl⟩

@[simp] theorem publish_matcher (change : Option DefaultChange) :
    (t.publish change).broker.matcher = t.broker.matcher := by cases change <;> rfl

theorem publish_hub (change : Option DefaultChange) :
    (t.publish change).broker.hub = t.broker.hub := by cases change <;> rfl

@[simp] theorem publish_sent (change : Option DefaultChange) :
    (t.publish change).deeds.sent = t.deeds.sent := by cases change <;> rfl

theorem announce_default (who : ActiveRequest → Bool) :
    (t.announce who).broker.matcher.default = t.broker.matcher.default := rfl

theorem announce_find? (who : ActiveRequest → Bool) (q : RequestId) :
    (t.announce who).broker.matcher.find? q = (t.broker.matcher.find? q).map (t.broker.told who) :=
  Table.find?_mapValues _ t.broker.matcher.requests q

theorem announce_kept (who : ActiveRequest → Bool) : t.broker.Kept (t.announce who).broker := by
  refine ⟨rfl, rfl, Hub.sendAll_listeners .., fun q => ?_⟩
  rw [announce_find?, Option.map_map]
  rfl

theorem tell_kept (s : SupplierId) (e : NetworkEvent) (who : ActiveRequest → Bool) :
    t.broker.Kept (t.tell s e who).broker := t.send_kept _

theorem tell_matcher (s : SupplierId) (e : NetworkEvent) (who : ActiveRequest → Bool) :
    (t.tell s e who).broker.matcher = t.broker.matcher := rfl

theorem broker_of_called {u : Turn} {called : Bool} {c : DeviceCall}
    (same : t = if called then u.callDevice c else u) : t.broker = u.broker := by
  rw [same]
  split <;> rfl

theorem reelect_kept : t.broker.Kept t.reelect.broker :=
  t.broker.kept_elect.trans ((t.withMatcher _).publish_kept _)

theorem reelect_requests : t.reelect.broker.matcher.requests = t.broker.matcher.requests := by
  unfold reelect
  rw [publish_matcher, Matcher.elect_requests]

theorem reelect_default :
    t.reelect.broker.matcher.default = selectBest t.broker.registry.candidates {} := by
  unfold reelect
  rw [publish_matcher, Matcher.elect_default]

theorem reelect_sent : t.reelect.deeds.sent = t.deeds.sent := publish_sent _ _

/-- What follows a supplier's new capabilities once the bindings are settled: who may see it is told
anew if its metering changed, and those who knew of it hear of the change. -/
def equip (t : Turn) (s : SupplierId) (previous capabilities : Capabilities)
    (watching : List RequestId) : Turn :=
  let t := if previous.isMetered == capabilities.isMetered then t
    else t.announce (fun r => r.bound == some s)
  if previous = capabilities then t
  else t.tell s (.capabilitiesChanged capabilities) (fun r => watching.contains r.id)

theorem equip_kept (s : SupplierId) (previous capabilities : Capabilities)
    (watching : List RequestId) :
    t.broker.Kept (t.equip s previous capabilities watching).broker := by
  unfold equip
  dsimp only
  split <;> split
  · exact .refl _
  · exact t.announce_kept _
  · exact t.tell_kept _ _ _
  · exact (t.announce_kept _).trans (tell_kept _ _ _ _)

variable {t}

/-- Of what was sent request by request, only what `q` was sent is about `q`. -/
theorem about_of_sent {d e : Deeds} {m : Matcher} (keyed : m.Keyed)
    {events : ActiveRequest → List NetworkEvent}
    (sent : e.sent = d.sent ++ m.requests.values.flatMap (fun r => r.notices (events r)))
    (q : RequestId) :
    e.about q = d.about q ++ ((m.find? q).map (fun r => r.notices (events r))).getD [] := by
  have own : ∀ k r, m.requests.find? k = some r →
      ∀ x ∈ r.notices (events r), x.2.request = k := by
    intro k r found x hx
    obtain ⟨e, _, rfl⟩ := List.mem_map.1 hx
    exact keyed k r found
  unfold Deeds.about
  rw [sent, List.filter_append]
  exact congrArg (d.about q ++ ·) (Table.flatMap_values_of_key own q)

theorem about_announce (keyed : t.broker.matcher.Keyed) (who : ActiveRequest → Bool)
    (q : RequestId) : (t.announce who).deeds.about q = t.deeds.about q ++
      ((t.broker.matcher.find? q).map (fun r => r.notices
        (announcement r.kind r.announced (t.broker.told who r).announced))).getD [] :=
  about_of_sent keyed rfl q

theorem about_tell (keyed : t.broker.matcher.Keyed) (s : SupplierId) (e : NetworkEvent)
    (who : ActiveRequest → Bool) (q : RequestId) : (t.tell s e who).deeds.about q =
      t.deeds.about q ++ ((t.broker.matcher.find? q).map (fun r => r.notices
        (if t.broker.hears s who r then [e] else []))).getD [] := by
  apply about_of_sent keyed
  have single : ∀ rs : List ActiveRequest,
      (rs.filter (t.broker.hears s who)).map (fun r => (r.listener, ⟨r.id, e⟩)) =
        rs.flatMap (fun r => r.notices (if t.broker.hears s who r then [e] else [])) := by
    intro rs
    induction rs with
    | nil => rfl
    | cons r rest ih =>
      rw [List.filter_cons, List.flatMap_cons, ← ih]
      split <;> simp [ActiveRequest.notices]
  exact congrArg (t.deeds.sent ++ ·) (single _)

/-- A turn whose requests have been bound anew and told nothing yet. -/
def rebound (t : Turn) (scope : Scope) : Turn :=
  let result := t.broker.matcher.reevaluate t.broker.registry scope
  { t with broker := { t.broker with matcher := result.matcher } }.publish result.defaultChange

theorem rebound_kept (t : Turn) (scope : Scope) : t.broker.Kept (t.rebound scope).broker :=
  (t.broker.kept_reevaluate scope).trans ((t.withMatcher _).publish_kept _)

theorem rebound_find? (t : Turn) (scope : Scope) (q : RequestId) :
    (t.rebound scope).broker.matcher.find? q = (t.broker.matcher.find? q).map (fun r =>
      { r with bound := (t.broker.rebind scope r).bound }) := by
  unfold rebound
  rw [publish_matcher, Matcher.reevaluate_find?]
  rfl

theorem rebound_keyed (keyed : t.broker.matcher.Keyed) (scope : Scope) :
    (t.rebound scope).broker.matcher.Keyed := by
  intro q s found
  rw [rebound_find?, Option.map_eq_some_iff] at found
  obtain ⟨r, hr, rfl⟩ := found
  exact keyed q r hr

theorem reevaluate_eq (t : Turn) (scope : Scope) : t.reevaluate scope = (t.rebound scope).announce
    (fun r => (t.broker.matcher.reevaluate t.broker.registry scope).transitions.any
      (·.request == r.id)) := rfl

/-- Told after being bound anew, a request is as `rebind` has it. -/
theorem told_rebound (keyed : t.broker.matcher.Keyed) (scope : Scope) {q : RequestId}
    {r : ActiveRequest} (found : t.broker.matcher.find? q = some r) :
    (t.rebound scope).broker.told
      (fun r => (t.broker.matcher.reevaluate t.broker.registry scope).transitions.any
        (·.request == r.id))
      { r with bound := (t.broker.rebind scope r).bound } = t.broker.rebind scope r := by
  obtain rfl : r.id = q := keyed q r found
  have moved := Matcher.transitions_any keyed t.broker.registry scope found
  unfold Broker.told
  simp only [(rebound_kept t scope).visible]
  by_cases same : (t.broker.rebind scope r).bound = r.bound
  · have stays := mt moved.1 (not_not_intro same)
    rw [if_neg stays]
    simp only [Broker.rebind] at same ⊢
    rw [if_pos same]
  · rw [if_pos (moved.2 same)]
    simp only [Broker.rebind] at same ⊢
    rw [if_neg same]
    rfl

theorem reevaluate_kept (t : Turn) (scope : Scope) : t.broker.Kept (t.reevaluate scope).broker :=
  (t.rebound_kept scope).trans (announce_kept _ _)

theorem reevaluate_default (t : Turn) (scope : Scope) :
    (t.reevaluate scope).broker.matcher.default = selectBest t.broker.registry.candidates {} := by
  rw [reevaluate_eq, announce_default, rebound, publish_matcher]
  exact Matcher.reevaluate_default ..

theorem reevaluate_find? (keyed : t.broker.matcher.Keyed) (scope : Scope) (q : RequestId) :
    (t.reevaluate scope).broker.matcher.find? q =
      (t.broker.matcher.find? q).map (t.broker.rebind scope) := by
  rw [reevaluate_eq, announce_find?, rebound_find?]
  cases found : t.broker.matcher.find? q with
  | none => rfl
  | some r => exact congrArg some (told_rebound keyed scope found)

theorem about_reevaluate (keyed : t.broker.matcher.Keyed) (scope : Scope) (q : RequestId) :
    (t.reevaluate scope).deeds.about q = t.deeds.about q ++
      ((t.broker.matcher.find? q).map (fun r => r.notices
        (announcement r.kind r.announced (t.broker.rebind scope r).announced))).getD [] := by
  rw [reevaluate_eq, about_announce (rebound_keyed keyed scope), rebound_find?]
  have sent : (t.rebound scope).deeds.about q = t.deeds.about q := by
    unfold rebound Deeds.about
    rw [publish_sent]
  rw [sent]
  cases found : t.broker.matcher.find? q with
  | none => rfl
  | some r =>
    simp only [Option.map_some, told_rebound keyed scope found]
    rfl

end Turn

end Connectivity
