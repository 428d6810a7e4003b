import Connectivity.Broker.Desk
import Connectivity.Proofs.Atomicity
import Connectivity.Proofs.Delivery
/-! What is left of a broker apart from how far the deliveries to one listener are. No command looks
at that, so nothing that is done to the rest depends on it. -/
namespace Connectivity

/-- What is left of a sink apart from what is in it. -/
def Sink.apart : Sink → Sink
  | channel depth _ connected => channel depth [] connected
  | recorder _ _ connected => recorder none [] connected

/-- What is left of an outlet apart from how far its deliveries are. -/
def Outlet.apart (o : Outlet) : Outlet :=
  { o with sink := o.sink.apart, queue := [], hand := none, phase := .ended }

namespace Sink
variable {s t : Sink} {n : Notification}

theorem apart_apart (s : Sink) : s.apart.apart = s.apart := by cases s <;> rfl

theorem apart_isConnected (s : Sink) : s.apart.isConnected = s.isConnected := by cases s <;> rfl

theorem apart_disconnect (s : Sink) : s.apart.disconnect = s.disconnect.apart := by cases s <;> rfl

theorem offer_apart (taken : s.offer n = .taken t) : t.apart = s.apart := by
  cases s with
  | channel depth buffer connected =>
    simp only [offer] at taken
    split at taken
    · cases taken
    · split at taken
      · cases taken
        rfl
      · cases taken
  | recorder left buffer connected =>
    cases left with
    | none =>
      cases taken
      rfl
    | some left =>
      cases left with
      | zero => cases taken
      | succ left =>
        cases taken
        rfl

theorem read?_apart (taken : s.read? = some (n, t)) : t.apart = s.apart := by
  cases s with
  | channel depth buffer connected =>
    cases buffer with
    | nil => cases taken
    | cons m rest =>
      cases taken
      rfl
  | recorder left buffer connected =>
    cases buffer with
    | nil => cases taken
    | cons m rest =>
      cases taken
      rfl

end Sink

namespace Outlet
variable {o p : Outlet}

theorem apart_apart (o : Outlet) : o.apart.apart = o.apart := by
  simp only [apart, Sink.apart_apart]

theorem apart_enqueue (o : Outlet) (n : Notification) :
    o.apart.enqueue n = (o.enqueue n).apart := by
  unfold enqueue
  split
  · rename_i running
    cases running.1
  · split <;> rfl

theorem apart_drain (o : Outlet) : o.apart.drain = o.drain.apart := rfl

theorem apart_attach (o : Outlet) (q : RequestId) : o.apart.attach q = (o.attach q).apart := rfl

theorem apart_detach (o : Outlet) (q : RequestId) : o.apart.detach q = (o.detach q).apart := rfl

theorem apart_watch (o : Outlet) : o.apart.watch = (o.watch.1, o.watch.2.apart) := by
  have same : (o.apart.watched && !o.apart.sink.isConnected) = (o.watched && !o.sink.isConnected) :=
    congrArg (fun connected => o.watched && !connected) o.sink.apart_isConnected
  unfold watch
  rw [same]
  split <;> rfl

theorem apart_disconnect (o : Outlet) :
    { o.apart with sink := o.apart.sink.disconnect } =
      ({ o with sink := o.sink.disconnect } : Outlet).apart := by
  simp only [apart, Sink.apart_disconnect]

theorem apart_turn (o : Outlet) : (o.turn?.getD o).apart = o.apart := by
  cases turned : o.turn? with
  | none => rfl
  | some p =>
    rcases turn?_cases turned with ⟨n, sink, hand, taken, rfl⟩ | ⟨n, hand, refused, rfl⟩ |
      ⟨n, queue, hand, more, rfl⟩ | ⟨draining, rfl⟩
    · simp only [Option.getD_some, apart, Sink.offer_apart taken]
    · rfl
    · rfl
    · rfl

theorem apart_read (o : Outlet) : o.read.apart = o.apart := by
  unfold read
  split
  · rename_i taken
    simp only [apart, Sink.read?_apart taken]
  · rfl

end Outlet

namespace Hub

/-- What is left of a hub apart from how far the deliveries to `l` are. -/
def apart (h : Hub) (l : ListenerId) : Hub := { h with outlets := h.outlets.modify l Outlet.apart }

variable {h : Hub} {A : ListenerId}

theorem apart_apart (h : Hub) (A : ListenerId) : (h.apart A).apart A = h.apart A := by
  simp only [apart, Table.modify_modify_absorb Outlet.apart_apart]

theorem apart_modify {l : ListenerId} {f : Outlet → Outlet}
    (alike : l = A → ∀ o, (f o).apart = f o.apart) :
    (h.outlets.modify A Outlet.apart).modify l f =
      (h.outlets.modify l f).modify A Outlet.apart :=
  Table.modify_modify_comm (fun same o => alike same.symm o)

theorem apart_send (l : ListenerId) (n : Notification) :
    (h.apart A).send l n = (h.send l n).apart A := by
  unfold send
  have known : (h.apart A).contains l = h.contains l := rfl
  rw [known]
  split
  · simp only [apart, apart_modify (fun _ o => (o.apart_enqueue n).symm)]
  · rfl

theorem apart_sendAll (h : Hub) (A : ListenerId) (sent : List (ListenerId × Notification)) :
    (h.apart A).sendAll sent = (h.sendAll sent).apart A := by
  unfold sendAll
  induction sent generalizing h with
  | nil => rfl
  | cons s rest ih => rw [List.foldl_cons, List.foldl_cons, apart_send, ih]

theorem apart_remove (l : ListenerId) :
    (h.apart A).remove l = ((h.remove l).1, (h.remove l).2.apart A) := by
  unfold remove
  have known : (h.apart A).listeners = h.listeners := rfl
  rw [known]
  split
  · rfl
  · simp only [apart, apart_modify (fun _ o => o.apart_drain.symm)]

theorem apart_attach (l : ListenerId) (q : RequestId) :
    (h.apart A).attach l q = (h.attach l q).map (·.apart A) := by
  unfold attach
  have known : (h.apart A).contains l = h.contains l := rfl
  rw [known]
  split
  · simp only [apart, Except.map, apart_modify (fun _ o => (o.apart_attach q).symm)]
  · rfl

theorem apart_detach (l : ListenerId) (q : RequestId) :
    (h.apart A).detach l q = (h.detach l q).apart A := by
  unfold detach
  have known : (h.apart A).contains l = h.contains l := rfl
  rw [known]
  split
  · simp only [apart, apart_modify (fun _ o => (o.apart_detach q).symm)]
  · rfl

theorem apart_register (uid : Uid) (sink : Sink) :
    ((h.apart A).register uid sink).map (fun r => (r.1, r.2.apart A)) =
      (h.register uid sink).map (fun r => (r.1, r.2.apart A)) := by
  unfold register
  split
  · rfl
  · simp only [apart, Except.map, Table.modify_insert_modify Outlet.apart_apart]

end Hub

def Broker.apart (b : Broker) (l : ListenerId) : Broker := { b with hub := b.hub.apart l }

def Turn.apart (t : Turn) (l : ListenerId) : Turn := { t with broker := t.broker.apart l }

namespace Turn
variable {A : ListenerId}

theorem apart_send (t : Turn) (sent : List (ListenerId × Notification)) :
    (t.apart A).send sent = (t.send sent).apart A := by
  simp only [send, apart, Broker.apart, Hub.apart_sendAll]

theorem apart_callDevice (t : Turn) (c : DeviceCall) :
    (t.apart A).callDevice c = (t.callDevice c).apart A := rfl

theorem apart_ite (changed : Bool) (t u : Turn) :
    (if changed then t.apart A else u.apart A) = (if changed then t else u).apart A := by
  cases changed <;> rfl

theorem apart_publish (t : Turn) (change : Option DefaultChange) :
    (t.apart A).publish change = (t.publish change).apart A := by cases change <;> rfl

theorem apart_announce (t : Turn) (who : ActiveRequest → Bool) :
    (t.apart A).announce who = (t.announce who).apart A := by
  let requests := t.broker.matcher.requests.mapValues (fun _ => t.broker.told who)
  exact apart_send (t.withMatcher { t.broker.matcher with requests }) _

theorem apart_tell (t : Turn) (s : SupplierId) (e : NetworkEvent) (who : ActiveRequest → Bool) :
    (t.apart A).tell s e who = (t.tell s e who).apart A := apart_send t _

theorem apart_rebound (t : Turn) (scope : Scope) :
    (t.apart A).rebound scope = (t.rebound scope).apart A :=
  apart_publish (t.withMatcher (t.broker.matcher.reevaluate t.broker.registry scope).matcher) _

theorem apart_reevaluate (t : Turn) (scope : Scope) :
    (t.apart A).reevaluate scope = (t.reevaluate scope).apart A := by
  rw [reevaluate_eq, apart_rebound, apart_announce]
  rfl

theorem apart_reelect (t : Turn) : (t.apart A).reelect = t.reelect.apart A :=
  apart_publish (t.withMatcher (t.broker.matcher.elect t.broker.registry).2) _

theorem apart_refresh (t : Turn) (uid : Uid) :
    (t.apart A).refresh uid = (t.refresh uid).apart A := by
  simp only [refresh, apart_announce, apart_reelect]
  rfl

end Turn

namespace Broker
variable {A : ListenerId}

/-- What a command comes to, apart from the deliveries to `A`. -/
def carriedApart (A : ListenerId) (r : Except Refusal (Answer × Turn)) :
    Except Refusal (Answer × Turn) := r.map (fun r => (r.1, r.2.apart A))

theorem apart_dropListener (b : Broker) (A l : ListenerId) :
    (b.apart A).dropListener l = (b.dropListener l).apart A := by
  simp only [dropListener, apart, Hub.apart_remove]

theorem apart_bury (b : Broker) (A l : ListenerId) :
    (b.apart A).bury l = (b.bury l).apart A := by
  have known : (b.apart A).hub.contains l = b.hub.contains l := rfl
  unfold bury
  rw [known]
  split
  · exact b.apart_dropListener A l
  · rfl

theorem carriedApart_bind {α : Type} {x : Except Refusal α}
    {f g : α → Except Refusal (Answer × Turn)} (alike : ∀ a, g a = carriedApart A (f a)) :
    (x >>= g) = carriedApart A (x >>= f) := by
  cases x with
  | error e => rfl
  | ok a => exact alike a

theorem apart_registerSupplier (b : Broker) (A : ListenerId) (netType : NetType) (identity : String)
    (capabilities : Capabilities) :
    (b.apart A).registerSupplier netType identity capabilities =
      carriedApart A (b.registerSupplier netType identity capabilities) := by
  refine carriedApart_bind (fun r => ?_)
  obtain ⟨registration, registry⟩ := r
  have begun : ({ b.apart A with registry } : Broker).begin =
    (({ b with registry } : Broker).begin).apart A := rfl
  dsimp only
  rw [begun]
  split
  · rw [Turn.apart_reevaluate]
    rfl
  · rfl

theorem apart_unregisterSupplier (b : Broker) (A : ListenerId) (id : SupplierId) :
    (b.apart A).unregisterSupplier id = carriedApart A (b.unregisterSupplier id) := by
  refine carriedApart_bind (fun r => ?_)
  obtain ⟨e, registry⟩ := r
  have begun : ({ b.apart A with registry } : Broker).begin =
    (({ b with registry } : Broker).begin).apart A := rfl
  dsimp only
  rw [begun]
  split
  · rw [Turn.apart_callDevice, Turn.apart_reevaluate]
    rfl
  · rw [Turn.apart_reevaluate]
    rfl

theorem apart_updateInfo (b : Broker) (A : ListenerId) (id : SupplierId) (info : SupplierInfo) :
    (b.apart A).updateInfo id info = carriedApart A (b.updateInfo id info) := by
  refine carriedApart_bind (fun e => carriedApart_bind (fun r => ?_))
  have after := Turn.apart_reevaluate (A := A) ({ b with registry := r.2 } : Broker).begin
    (.supplier id e.netType)
  exact congrArg (fun t => Except.ok (Answer.done, t)) after

theorem apart_updateCapabilities (b : Broker) (A : ListenerId) (id : SupplierId)
    (capabilities : Capabilities) :
    (b.apart A).updateCapabilities id capabilities =
      carriedApart A (b.updateCapabilities id capabilities) := by
  refine carriedApart_bind (fun e => carriedApart_bind (fun r => ?_))
  obtain ⟨previous, registry⟩ := r
  have watching : (b.apart A).matcher.announcedOn id = b.matcher.announcedOn id := rfl
  have begun : ({ b.apart A with registry } : Broker).begin =
    (({ b with registry } : Broker).begin).apart A := rfl
  change Except.ok (Answer.done, _) = Except.ok (Answer.done, Turn.apart _ A)
  dsimp only
  rw [begun, watching, Turn.apart_reevaluate]
  split <;> split <;> simp only [Turn.apart_announce, Turn.apart_tell]

theorem apart_updateLink (b : Broker) (A : ListenerId) (id : SupplierId) (link : LinkInfo) :
    (b.apart A).updateLink id link = carriedApart A (b.updateLink id link) := by
  refine carriedApart_bind (fun e => carriedApart_bind (fun registry => ?_))
  have begun : ({ b.apart A with registry } : Broker).begin =
    (({ b with registry } : Broker).begin).apart A := rfl
  dsimp only
  rw [begun, Turn.apart_callDevice, Turn.apart_reevaluate, Turn.apart_tell]
  rfl

theorem apart_unregisterListener (b : Broker) (A l : ListenerId) :
    (b.apart A).unregisterListener l = carriedApart A (b.unregisterListener l) := by
  have known : (b.apart A).hub.contains l = b.hub.contains l := rfl
  unfold unregisterListener
  rw [known, apart_dropListener]
  split <;> rfl

theorem apart_activate (b : Broker) (A : ListenerId) (kind : RequestKind) (specifier : Specifier)
    (l : ListenerId) :
    (b.apart A).activate kind specifier l = carriedApart A (b.activate kind specifier l) := by
  refine carriedApart_bind (fun _ => ?_)
  have known : (b.apart A).matcher = b.matcher := rfl
  rw [known]
  generalize b.matcher.activate kind specifier l = made
  obtain ⟨id, matcher⟩ := made
  have attached : (b.apart A).hub.attach l id = (b.hub.attach l id).map (·.apart A) :=
    Hub.apart_attach l id
  dsimp only
  rw [attached]
  cases b.hub.attach l id with
  | error e => rfl
  | ok hub =>
    have after := Turn.apart_reevaluate (A := A) ({ b with matcher, hub } : Broker).begin
      (.request id)
    exact congrArg (fun t => Except.ok (Answer.id id, t)) after

theorem apart_deactivate (b : Broker) (A : ListenerId) (caller : Uid) (id : RequestId) :
    (b.apart A).deactivate caller id = carriedApart A (b.deactivate caller id) := by
  refine carriedApart_bind (fun r => ?_)
  obtain ⟨r, matcher⟩ := r
  have asked : ((b.apart A).firewall.isSystem caller ||
      (b.apart A).hub.uid? r.listener == some caller) =
    (b.firewall.isSystem caller || b.hub.uid? r.listener == some caller) := rfl
  have detached : (b.apart A).hub.detach r.listener id = (b.hub.detach r.listener id).apart A :=
    Hub.apart_detach r.listener id
  dsimp only
  rw [asked, detached]
  split <;> rfl

theorem apart_setUidPolicy (b : Broker) (A : ListenerId) (uid : Uid) (policy : PolicyBits) :
    (b.apart A).setUidPolicy uid policy =
      ((b.setUidPolicy uid policy).1, (b.setUidPolicy uid policy).2.apart A) := by
  let changed := b.store.setPolicy uid policy
  let t : Turn := ({ b with store := changed.2 } : Broker).begin
  refine Prod.ext rfl ?_
  change (if changed.1 then (t.apart A).refresh uid else t.apart A) = _
  rw [Turn.apart_refresh, Turn.apart_ite]
  rfl

theorem apart_setBackgroundPolicy (b : Broker) (A : ListenerId) (restricted : Bool) :
    (b.apart A).setBackgroundPolicy restricted =
      ((b.setBackgroundPolicy restricted).1, (b.setBackgroundPolicy restricted).2.apart A) := by
  let changed := b.firewall.setRestricted restricted
  let t : Turn := ({ b with store := { b.store with firewall := changed.2 } } : Broker).begin
  refine Prod.ext rfl ?_
  change (if changed.1 then ((t.apart A).announce (fun _ => true)).reelect else t.apart A) = _
  rw [Turn.apart_announce, Turn.apart_reelect, Turn.apart_ite]
  rfl

theorem apart_setUidBackground (b : Broker) (A : ListenerId) (uid : Uid) (background : Bool) :
    (b.apart A).setUidBackground uid background =
      ((b.setUidBackground uid background).1, (b.setUidBackground uid background).2.apart A) := by
  let changed := b.firewall.setBackground uid background
  let t : Turn := ({ b with store := { b.store with firewall := changed.2 } } : Broker).begin
  refine Prod.ext rfl ?_
  change (if changed.1 then (t.apart A).refresh uid else t.apart A) = _
  rw [Turn.apart_refresh, Turn.apart_ite]
  rfl

theorem apart_registerListener (b : Broker) (A : ListenerId) (uid : Uid) (sink : Sink) :
    carriedApart A ((b.apart A).registerListener uid sink) =
      carriedApart A (b.registerListener uid sink) := by
  have registered : ((b.apart A).hub.register uid sink).map (fun r => (r.1, r.2.apart A)) =
      (b.hub.register uid sink).map (fun r => (r.1, r.2.apart A)) := Hub.apart_register uid sink
  unfold registerListener
  generalize (b.apart A).hub.register uid sink = x at registered
  generalize b.hub.register uid sink = y at registered
  cases x with
  | error e =>
    cases y with
    | error e' =>
      cases registered
      rfl
    | ok r => cases registered
  | ok r =>
    cases y with
    | error e => cases registered
    | ok r' =>
      obtain ⟨ids, hubs⟩ := Prod.mk.inj (Except.ok.inj registered)
      change Except.ok (Answer.id r.1, ({ b with hub := r.2.apart A } : Broker).begin) =
        Except.ok (Answer.id r'.1, ({ b with hub := r'.2.apart A } : Broker).begin)
      rw [ids, hubs]

theorem carriedApart_carriedApart (A : ListenerId) (r : Except Refusal (Answer × Turn)) :
    carriedApart A (carriedApart A r) = carriedApart A r := by
  cases r with
  | error e => rfl
  | ok done =>
    simp only [carriedApart, Except.map, Turn.apart, apart, Hub.apart_apart]

theorem apart_perform (b : Broker) (A : ListenerId) (c : Command) :
    carriedApart A ((b.apart A).perform c) = carriedApart A (b.perform c) := by
  have alike {x y : Except Refusal (Answer × Turn)} (same : x = carriedApart A y) :
      carriedApart A x = carriedApart A y := by
    rw [same, carriedApart_carriedApart]
  cases c with
  | registerSupplier caller netType identity capabilities =>
    refine alike (carriedApart_bind (fun _ => ?_))
    exact b.apart_registerSupplier A netType identity capabilities
  | unregisterSupplier caller id =>
    exact alike (carriedApart_bind (fun _ => b.apart_unregisterSupplier A id))
  | updateInfo caller id info =>
    exact alike (carriedApart_bind (fun _ => b.apart_updateInfo A id info))
  | updateCapabilities caller id capabilities =>
    exact alike (carriedApart_bind (fun _ => b.apart_updateCapabilities A id capabilities))
  | updateLink caller id link =>
    exact alike (carriedApart_bind (fun _ => b.apart_updateLink A id link))
  | registerListener uid sink =>
    -- An outlet that takes the place of an old one of `A` has lost what was hidden in that.
    exact b.apart_registerListener A uid sink
  | unregisterListener l => exact alike (b.apart_unregisterListener A l)
  | activate kind specifier l => exact alike (b.apart_activate A kind specifier l)
  | deactivate caller id => exact alike (b.apart_deactivate A caller id)
  | request id => exact alike (carriedApart_bind (fun _ => rfl))
  | setUidPolicy caller uid policy =>
    refine alike (carriedApart_bind (fun _ => ?_))
    exact congrArg Except.ok (b.apart_setUidPolicy A uid policy)
  | setBackgroundPolicy caller restricted =>
    refine alike (carriedApart_bind (fun _ => ?_))
    exact congrArg Except.ok (b.apart_setBackgroundPolicy A restricted)
  | setUidBackground caller uid background =>
    refine alike (carriedApart_bind (fun _ => ?_))
    exact congrArg Except.ok (b.apart_setUidBackground A uid background)
  | status => exact alike rfl

/-- The reply to a command and its deeds do not depend on how far the deliveries to `A` are, and
neither does what it leaves, apart from these. -/
theorem apart_step (b : Broker) (A : ListenerId) (c : Command) :
    ((b.apart A).step c).reply = (b.step c).reply ∧ ((b.apart A).step c).deeds = (b.step c).deeds ∧
      ((b.apart A).step c).broker.apart A = (b.step c).broker.apart A := by
  have same := b.apart_perform A c
  unfold step
  generalize (b.apart A).perform c = x at same
  generalize b.perform c = y at same
  cases x with
  | error e =>
    cases y with
    | error e' =>
      cases same
      refine ⟨rfl, rfl, ?_⟩
      simp only [apart, Hub.apart_apart]
    | ok done => cases same
  | ok done =>
    cases y with
    | error e => cases same
    | ok done' =>
      obtain ⟨answers, turns⟩ := Prod.mk.inj (Except.ok.inj same)
      exact ⟨congrArg Except.ok answers, congrArg (·.deeds) turns, congrArg (·.broker) turns⟩

end Broker
def Desk.apart (d : Desk) (l : ListenerId) : Desk := { d with broker := d.broker.apart l }

/-- The delivery to `l` moves, or `l` reads. -/
def DeskStep.isOf (l : ListenerId) : DeskStep → Bool
  | turn k | read k => k == l
  | _ => false

namespace Desk
variable {d e : Desk} {A l : ListenerId}

/-- What can be seen of each step of a run that is not of `A`, and what it leaves apart from the
deliveries to `A`. -/
def account (d : Desk) (A : ListenerId) : List DeskStep → List (Happening × Desk)
  | [] => []
  | s :: rest =>
    let (seen, next) := d.act s
    if s.isOf A then next.account A rest else (seen, next.apart A) :: next.account A rest

theorem apart_apart (d : Desk) (A : ListenerId) : (d.apart A).apart A = d.apart A := by
  simp only [apart, Broker.apart, Hub.apart_apart]

theorem apart_outlet? (other : l ≠ A) : (d.apart A).outlet? l = d.outlet? l := by
  change (d.broker.hub.outlets.modify A Outlet.apart).find? l = d.broker.hub.outlets.find? l
  rw [Table.find?_modify, if_neg other]

theorem apart_outlet?_self : (d.apart A).outlet? A = (d.outlet? A).map Outlet.apart := by
  change (d.broker.hub.outlets.modify A Outlet.apart).find? A = _
  rw [Table.find?_modify, if_pos rfl]
  rfl

theorem act_own {s : DeskStep} (own : s.isOf A = true) : (d.act s).2.apart A = d.apart A := by
  have hidden {f : Outlet → Outlet} (hides : ∀ o, (f o).apart = o.apart) :
      (d.broker.hub.outlets.modify A f).modify A Outlet.apart =
        d.broker.hub.outlets.modify A Outlet.apart := Table.modify_modify_absorb hides
  cases s with
  | turn k =>
    have same : k = A := eq_of_beq own
    subst same
    simp only [act, atHub, apart, Broker.apart, Hub.apart, Hub.act, hidden Outlet.apart_turn]
  | read k =>
    have same : k = A := eq_of_beq own
    subst same
    simp only [act, atHub, apart, Broker.apart, Hub.apart, Hub.act, hidden Outlet.apart_read]
  | _ => cases own

/-- No other step depends on how far the deliveries to `A` are. -/
theorem act_apart {s : DeskStep} (other : s.isOf A = false) :
    ((d.apart A).act s).1 = (d.act s).1 ∧ ((d.apart A).act s).2.apart A = (d.act s).2.apart A := by
  have alike {k : ListenerId} {f : Outlet → Outlet}
      (same : k = A → ∀ o, (f o).apart = f o.apart) :
      (((d.apart A).broker.hub.outlets.modify k f).modify A Outlet.apart) =
        (d.broker.hub.outlets.modify k f).modify A Outlet.apart := by
    have moved : (d.apart A).broker.hub.outlets.modify k f =
        (d.broker.hub.outlets.modify k f).modify A Outlet.apart := Hub.apart_modify same
    rw [moved, Table.modify_modify_absorb Outlet.apart_apart]
  cases s with
  | command c =>
    obtain ⟨reply, deeds, left⟩ := d.broker.apart_step A c
    refine ⟨?_, ?_⟩
    · change ({ reply := some ((d.broker.apart A).step c).reply
                deeds := ((d.broker.apart A).step c).deeds } : Happening) = _
      rw [reply, deeds]
      rfl
    · exact congrArg (fun b => ({ broker := b, deaths := d.deaths } : Desk)) left
  | death =>
    cases waiting : d.deaths with
    | nil =>
      have waiting' : (d.apart A).deaths = [] := waiting
      simp only [act, waiting, waiting', apart_apart, and_self]
    | cons l rest =>
      have waiting' : (d.apart A).deaths = l :: rest := waiting
      have buried : ((d.broker.apart A).bury l).apart A = (d.broker.bury l).apart A := by
        rw [Broker.apart_bury]
        simp only [Broker.apart, Hub.apart_apart]
      simp only [act, waiting, waiting', true_and]
      exact congrArg (fun b => ({ broker := b, deaths := rest } : Desk)) buried
  | turn k =>
    have away : k ≠ A := fun same => by simp [DeskStep.isOf, same] at other
    refine ⟨?_, ?_⟩
    · simp only [act, apart_outlet? away]
    · simp only [act, atHub, apart, Broker.apart, Hub.apart, Hub.act] at alike ⊢
      rw [alike (fun same => absurd same away)]
  | read k =>
    have away : k ≠ A := fun same => by simp [DeskStep.isOf, same] at other
    refine ⟨?_, ?_⟩
    · simp only [act, apart_outlet? away]
    · simp only [act, atHub, apart, Broker.apart, Hub.apart, Hub.act] at alike ⊢
      rw [alike (fun same => absurd same away)]
  | disconnect k =>
    refine ⟨rfl, ?_⟩
    simp only [act, atHub, apart, Broker.apart, Hub.apart, Hub.act, Hub.disconnect] at alike ⊢
    rw [alike (fun _ o => o.apart_disconnect.symm)]
  | report k =>
    have reported : ((d.apart A).outlet? k).any (·.watch.1) = (d.outlet? k).any (·.watch.1) := by
      by_cases same : k = A
      · rw [same, apart_outlet?_self, Option.any_map]
        simp only [Outlet.apart_watch]
      · rw [apart_outlet? same]
    refine ⟨rfl, ?_⟩
    simp only [act, reported]
    simp only [atHub, apart, Broker.apart, Hub.apart, Hub.act] at alike ⊢
    rw [alike (fun _ o => by rw [Outlet.apart_watch])]

theorem act_congr (alike : d.apart A = e.apart A) (s : DeskStep) :
    (s.isOf A = false → (d.act s).1 = (e.act s).1) ∧ (d.act s).2.apart A = (e.act s).2.apart A := by
  cases own : s.isOf A with
  | true =>
    refine ⟨fun other => Bool.noConfusion other, ?_⟩
    rw [act_own own, act_own own, alike]
  | false =>
    obtain ⟨seen, left⟩ := act_apart (d := d) own
    obtain ⟨seen', left'⟩ := act_apart (d := e) own
    rw [← seen, ← left, ← seen', ← left', alike]
    exact ⟨fun _ => rfl, rfl⟩

/-- What is seen of a run apart from `A` does not depend on where the deliveries to `A` are. -/
theorem account_congr {steps : List DeskStep} (alike : d.apart A = e.apart A) :
    d.account A steps = e.account A steps := by
  induction steps generalizing d e with
  | nil => rfl
  | cons s rest ih =>
    obtain ⟨seen, left⟩ := act_congr alike s
    simp only [account]
    split
    · exact ih left
    · rename_i other
      rw [seen (by simpa using other), left, ih left]

theorem account_filter (d : Desk) (A : ListenerId) (steps : List DeskStep) :
    d.account A steps = d.account A (steps.filter (!·.isOf A)) := by
  induction steps generalizing d with
  | nil => rfl
  | cons s rest ih =>
    cases own : s.isOf A with
    | true =>
      -- The step leaves another state, but one that gives the same account from here on.
      rw [List.filter_cons_of_neg (by simp [own])]
      simp only [account, own, if_true]
      rw [ih, account_congr (act_own own)]
    | false =>
      rw [List.filter_cons_of_pos (by simp [own])]
      simp only [account, own, Bool.false_eq_true, if_false, ih]

theorem run_congr {steps : List DeskStep} (alike : d.apart A = e.apart A) :
    (d.run steps).apart A = (e.run steps).apart A := by
  induction steps generalizing d e with
  | nil => exact alike
  | cons s rest ih => exact ih (act_congr alike s).2

theorem run_filter (d : Desk) (A : ListenerId) (steps : List DeskStep) :
    (d.run steps).apart A = (d.run (steps.filter (!·.isOf A))).apart A := by
  induction steps generalizing d with
  | nil => rfl
  | cons s rest ih =>
    cases own : s.isOf A with
    | true =>
      rw [List.filter_cons_of_neg (by simp [own])]
      exact (run_congr (act_own own)).trans (ih d)
    | false =>
      rw [List.filter_cons_of_pos (by simp [own])]
      exact ih (d.act s).2

end Desk

end Connectivity
