import Connectivity.Proofs.BestEffort
import Connectivity.Proofs.Reads
import Connectivity.Proofs.Unprivileged
import Connectivity.Proofs.Waiting
/-! A stream comes and goes whole. To open one takes three commands, the third of which takes back
what the first has done: what comes of them is a listener with one request, or nothing. When the
stream is closed its listener goes, with the requests that are the listener's, and nothing else. -/
namespace Connectivity

/-- The part of a broker that comes and goes with its clients. -/
structure Clientele where
  requests : Table ActiveRequest
  requestIds : IdSource
  listeners : Table Listener
  listenerIds : IdSource
  outlets : Table Outlet

namespace Broker
variable {b c : Broker} {u : Uid} {kind : RequestKind} {specifier : Specifier} {l : ListenerId}

def clientele (b : Broker) : Clientele :=
  ⟨b.matcher.requests, b.matcher.ids, b.hub.listeners, b.hub.ids, b.hub.outlets⟩

def withClientele (b : Broker) (x : Clientele) : Broker :=
  { b with
    matcher := { b.matcher with requests := x.requests, ids := x.requestIds }
    hub := { b.hub with listeners := x.listeners, ids := x.listenerIds, outlets := x.outlets } }

theorem eq_withClientele (registry : c.registry = b.registry) (store : c.store = b.store)
    (default : c.matcher.default = b.matcher.default)
    (queueDepth : c.hub.queueDepth = b.hub.queueDepth) (published : c.published = b.published) :
    c = b.withClientele c.clientele := by
  obtain ⟨_, _, ⟨_, _, _⟩, ⟨_, _, _, _⟩, _⟩ := c
  cases registry
  cases store
  cases default
  cases queueDepth
  cases published
  rfl

/-- From `b` to `c` a listener of `u` has come, with one request and with an outlet at which nothing
waits but what is about that request. Nothing else has changed. -/
structure Opened (b c : Broker) (u : Uid) (sink : Sink) (kind : RequestKind) (specifier : Specifier)
    (l : ListenerId) (q : RequestId) : Prop where
  newListener : b.hub.listeners.contains l = false
  newRequest : b.matcher.requests.contains q = false
  listener : c.hub.listeners =
    b.hub.listeners.insert l { uid := u, requests := IdSet.insert .empty q }
  request : ∃ bound announced, c.matcher.requests =
    b.matcher.requests.insert q { id := q, kind, specifier, listener := l, bound, announced }
  listenerCount : b.hub.ids.take b.hub.listeners = (l, c.hub.ids)
  requestCount : b.matcher.ids.take b.matcher.requests = (q, c.matcher.ids)
  outlet : ∃ queue, (∀ n ∈ queue, n.request = q) ∧ c.hub.outlets.find? l =
    some { capacity := b.hub.queueDepth, sink, queue, live := IdSet.insert .empty q }
  outlets : ∀ k, k ≠ l → c.hub.outlets.find? k = b.hub.outlets.find? k
  rest : c = b.withClientele c.clientele

/-- From `b` to `c` nothing has changed but the count of listener ids and outlets of nobody's. -/
structure Declined (b c : Broker) : Prop where
  matcher : c.matcher = b.matcher
  listeners : c.hub.listeners = b.hub.listeners
  listenerCount : c.hub.ids = b.hub.ids ∨ c.hub.ids = (b.hub.ids.take b.hub.listeners).2
  outlets : ∀ k, b.hub.contains k = true → c.hub.outlets.find? k = b.hub.outlets.find? k
  rest : c = b.withClientele c.clientele

/-- From `b` to `c` listener `l` has gone with its requests, and nothing else has changed. -/
structure Closed (b c : Broker) (l : ListenerId) : Prop where
  listener : c.hub.listeners = b.hub.listeners.erase l
  requests : c.matcher.requests = b.matcher.requests.filter (fun _ r => r.listener != l)
  listenerCount : c.hub.ids = b.hub.ids
  requestCount : c.matcher.ids = b.matcher.ids
  outlets : ∀ k, k ≠ l → c.hub.outlets.find? k = b.hub.outlets.find? k
  rest : c = b.withClientele c.clientele

end Broker

namespace Hub
variable {h : Hub} {l : ListenerId}

theorem register_of_connected (uid : Uid) {sink : Sink} (connected : sink.isConnected = true) :
    ∃ l g, h.register uid sink = .ok (l, g) := by
  unfold register
  rw [if_neg (by simp [connected])]
  exact ⟨_, _, rfl⟩

theorem take_of_register {uid : Uid} {sink : Sink} {g : Hub}
    (done : h.register uid sink = .ok (l, g)) : h.ids.take h.listeners = (l, g.ids) := by
  unfold register at done
  split at done
  · cases done
  · cases done
    rfl

theorem contains_of_register {uid : Uid} {sink : Sink} {g : Hub}
    (done : h.register uid sink = .ok (l, g)) : g.contains l = true := by
  rw [contains, (register_eq_ok done).2.2, Table.contains_insert, decide_eq_true rfl, Bool.true_or]

theorem attach_of_contains (there : h.contains l = true) (q : RequestId) :
    ∃ g, h.attach l q = .ok g := by
  unfold attach
  rw [if_pos there]
  exact ⟨_, rfl⟩

theorem attach_ids {q : RequestId} {g : Hub} (done : h.attach l q = .ok g) : g.ids = h.ids := by
  unfold attach at done
  split at done
  · cases done
    rfl
  · cases done

/-- What is not sent to an outlet leaves it alone, be it a registered listener's or not. -/
theorem sendAll_outlets_of_unsent {sent : List (ListenerId × Notification)}
    (unsent : ∀ s ∈ sent, s.1 ≠ l) : (h.sendAll sent).outlets.find? l = h.outlets.find? l := by
  unfold sendAll
  induction sent generalizing h with
  | nil => rfl
  | cons s rest ih =>
    rw [List.foldl_cons, ih (fun t listed => unsent t (List.mem_cons_of_mem s listed)), send]
    split
    · rw [Table.find?_modify, if_neg (unsent s List.mem_cons_self).symm]
    · rfl

end Hub

theorem Sink.isConnected_disconnect (s : Sink) : s.disconnect.isConnected = false := by
  cases s <;> rfl

namespace Broker
variable {b : Broker} {u : Uid} {kind : RequestKind} {specifier : Specifier} {l : ListenerId}
  {sink : Sink} {hub joined : Hub}

/-! The commands that opening a stream takes, and what each of them comes to. -/

theorem step_registerListener {sink : Sink} (done : b.hub.register u sink = .ok (l, hub)) :
    b.step (.registerListener u sink) = ⟨.ok (.id l), { b with hub }, {}⟩ := by
  simp only [step, perform, registerListener, done]
  rfl

theorem step_activate_of_flaw {flaw : SpecifierFlaw} (flawed : specifier.flaw? = some flaw) :
    b.step (.activate kind specifier l) = ⟨.error (.invalidSpecifier flaw), b, {}⟩ := by
  simp only [step, perform, activate, Specifier.validate, flawed]
  rfl

def activated (b : Broker) (kind : RequestKind) (specifier : Specifier) (l : ListenerId)
    (hub : Hub) : Turn :=
  (b.withRequest kind specifier l hub).begin.reevaluate
    (.request (b.matcher.activate kind specifier l).1)

theorem step_activate_of_sound (sound : specifier.flaw? = none)
    (done : b.hub.attach l (b.matcher.activate kind specifier l).1 = .ok hub) :
    b.step (.activate kind specifier l) = ⟨.ok (.id (b.matcher.activate kind specifier l).1),
      (b.activated kind specifier l hub).broker, (b.activated kind specifier l hub).deeds⟩ := by
  simp only [step, perform, activate, Specifier.validate, sound, bind, Except.bind, done]
  rfl

theorem step_unregisterListener (there : b.hub.contains l = true) :
    b.step (.unregisterListener l) = ⟨.ok .done, b.dropListener l, {}⟩ := by
  simp only [step, perform, unregisterListener, if_pos there]
  rfl

section Activation
variable (reached : b.Reachable) (room : b.matcher.requests.HasRoom)
  (attached : b.hub.attach l (b.matcher.activate kind specifier l).1 = .ok hub)

theorem activated_from (b : Broker) (kind : RequestKind) (specifier : Specifier) (l : ListenerId)
    (hub : Hub) : (b.activated kind specifier l hub).From (b.withRequest kind specifier l hub) :=
  (Turn.From.begin _).reevaluate _

include reached room attached

theorem requests_activated : ∃ bound announced,
    (b.activated kind specifier l hub).broker.matcher.requests =
      b.matcher.requests.insert (b.matcher.activate kind specifier l).1
        { id := (b.matcher.activate kind specifier l).1, kind, specifier, listener := l, bound
          announced } := by
  have keyed := (reached.orderly.activate room attached).requests
  let new : ActiveRequest :=
    { id := (b.matcher.activate kind specifier l).1, kind, specifier, listener := l }
  let scope : Scope := .request (b.matcher.activate kind specifier l).1
  let bound := (b.withRequest kind specifier l hub).rebind scope new
  refine ⟨bound.bound, bound.announced, Table.ext_find? (fun k => ?_)⟩
  have found : (b.activated kind specifier l hub).broker.matcher.find? k = _ :=
    Turn.reevaluate_find? keyed scope k
  refine found.trans ?_
  change ((b.withRequest kind specifier l hub).matcher.find? k).map _ = _
  rw [find?_withRequest, Table.find?_insert]
  split
  · rfl
  · -- only the new request is in scope, and the others were settled before it came
    change _ = b.matcher.find? k
    cases earlier : b.matcher.find? k with
    | none => rfl
    | some r => exact congrArg some (rebind_withRequest reached.orderly reached.matched earlier)

theorem sent_activated {k : ListenerId} {n : Notification}
    (sent : (k, n) ∈ (b.activated kind specifier l hub).deeds.sent) :
    k = l ∧ n.request = (b.matcher.activate kind specifier l).1 :=
  sent_activate_new reached.orderly reached.matched room attached sent

theorem outlets_activated {k : ListenerId} (other : k ≠ l) :
    (b.activated kind specifier l hub).broker.hub.outlets.find? k = b.hub.outlets.find? k := by
  have unsent : ∀ s ∈ (b.activated kind specifier l hub).deeds.sent, s.1 ≠ k := by
    rintro ⟨j, n⟩ listed rfl
    exact other (sent_activated reached room attached listed).1
  rw [(b.activated_from kind specifier l hub).hub, Hub.sendAll_outlets_of_unsent unsent]
  change hub.outlets.find? k = _
  rw [(Hub.attach_outlets attached).2, Table.find?_modify, if_neg other]

theorem outlet_activated {o : Outlet} (found : b.hub.outlets.find? l = some o)
    (running : o.phase = .running) : ∃ queued : List Notification,
      (∀ n ∈ queued, n.request = (b.matcher.activate kind specifier l).1) ∧
      (b.activated kind specifier l hub).broker.hub.outlets.find? l =
        some { o with
          queue := o.queue ++ queued
          live := o.live.insert (b.matcher.activate kind specifier l).1 } := by
  let sent := (b.activated kind specifier l hub).deeds.sentTo l
  refine ⟨sent.take (o.capacity - o.queue.length), fun n listed => ?_, ?_⟩
  · obtain ⟨⟨k, m⟩, among, rfl⟩ := List.mem_map.1 (List.mem_of_mem_take listed)
    exact (sent_activated reached room attached (List.mem_filter.1 among).1).2
  · have put : hub.outlets.find? l = some (o.attach (b.matcher.activate kind specifier l).1) := by
      rw [(Hub.attach_outlets attached).2, Table.find?_modify, if_pos rfl, found]
      rfl
    have there : hub.contains l = true := by
      rw [Hub.contains, (Hub.attach_eq_ok attached).2, Table.contains_modify]
      exact (Hub.attach_eq_ok attached).1
    rw [(b.activated_from kind specifier l hub).hub]
    refine (Hub.sendAll_outlet (h := hub) there _).trans ?_
    rw [put]
    exact congrArg some (Outlet.foldl_enqueue (o := o.attach _) running sent)

end Activation

theorem activated_quiet (matched : b.Matched) :
    (b.activated kind specifier l hub).deeds.calls = [] ∧
      (b.activated kind specifier l hub).deeds.published = [] :=
  -- a request changes nothing that the default is elected from
  ⟨Turn.reevaluate_calls _ _, congrArg (·.deeds.published) (Turn.rebound_of_elected
    (t := (b.withRequest kind specifier l hub).begin) matched.elected _)⟩

theorem opened_activated (room : b.hub.listeners.HasRoom) (requests : b.matcher.requests.HasRoom)
    (registered : b.hub.register u sink = .ok (l, joined))
    (after : { b with hub := joined }.Reachable)
    (attached : joined.attach l (b.matcher.activate kind specifier l).1 = .ok hub) :
    b.Opened ({ b with hub := joined }.activated kind specifier l hub).broker u sink kind specifier
      l (b.matcher.activate kind specifier l).1 := by
  obtain ⟨-, -, inserted⟩ := Hub.register_eq_ok registered
  obtain ⟨-, modified⟩ := Hub.attach_eq_ok attached
  have start := activated_from { b with hub := joined } kind specifier l hub
  exact {
    newListener := Hub.fresh_of_register room registered
    newRequest := (b.matcher.ids.take_fresh requests).2
    listener := by
      rw [start.kept.listeners]
      exact modified.trans ((congrArg _ inserted).trans (Table.modify_insert ..))
    request := requests_activated after requests attached
    listenerCount := by
      rw [start.hub, Hub.sendAll_ids]
      exact (Hub.take_of_register registered).trans (congrArg _ (Hub.attach_ids attached).symm)
    requestCount := by
      rw [activated, Turn.reevaluate_ids]
      rfl
    outlet := by
      have fresh : joined.outlets.find? l = some { capacity := b.hub.queueDepth, sink } := by
        rw [(Hub.register_outlets registered).2, Table.find?_insert, if_pos rfl]
      obtain ⟨queue, about, found⟩ := outlet_activated after requests attached fresh rfl
      exact ⟨_, about, found⟩
    outlets := by
      intro k other
      rw [outlets_activated after requests attached other]
      change joined.outlets.find? k = _
      rw [(Hub.register_outlets registered).2, Table.find?_insert, if_neg other]
    rest := by
      refine eq_withClientele start.kept.registry start.kept.store ?_ ?_ ?_
      · exact (Turn.reevaluate_default _ _).trans after.matched.elected.symm
      · rw [start.hub, Hub.sendAll_queueDepth]
        exact (Hub.attach_outlets attached).1.trans (Hub.register_outlets registered).1
      · exact published_activate after.matched }

theorem declined_refl (b : Broker) : b.Declined b where
  matcher := rfl
  listeners := rfl
  listenerCount := .inl rfl
  outlets _ _ := rfl
  rest := rfl

theorem declined_dropListener (room : b.hub.listeners.HasRoom)
    (registered : b.hub.register u sink = .ok (l, joined)) :
    b.Declined ({ b with hub := joined }.dropListener l) := by
  obtain ⟨-, -, inserted⟩ := Hub.register_eq_ok registered
  obtain ⟨queueDepth, put⟩ := Hub.register_outlets registered
  have unused : b.hub.listeners.contains l = false := Hub.fresh_of_register room registered
  have known : joined.listeners.find? l = some { uid := u } := by
    rw [inserted, Table.find?_insert, if_pos rfl]
  -- the one that is dropped owns no request yet
  have owned : b.matcher.discard .empty = b.matcher := by
    unfold Matcher.discard
    rw [Table.filter_eq_self]
    exact fun _ _ _ => rfl
  rw [dropListener_eq (b := { b with hub := joined }) known]
  refine ⟨owned, ?_, .inr ?_, fun k there => ?_, ?_⟩
  · rw [inserted]
    exact Table.erase_insert (Option.isNone_iff_eq_none.1 (Option.isSome_eq_false_iff.1 unused)) _
  · rw [Hub.take_of_register registered]
  · have other : k ≠ l := by
      rintro rfl
      exact Bool.noConfusion (there.symm.trans unused)
    rw [Table.find?_modify, if_neg other, put, Table.find?_insert, if_neg other]
  · exact eq_withClientele rfl rfl rfl queueDepth rfl

/-! A stream that is closed. -/

theorem Closed.withOutlets {c : Broker} (closed : b.Closed c l) {outlets : Table Outlet}
    (same : ∀ k, k ≠ l → outlets.find? k = b.hub.outlets.find? k) :
    b.Closed (c.withOutlets outlets) l where
  listener := closed.listener
  requests := closed.requests
  listenerCount := closed.listenerCount
  requestCount := closed.requestCount
  outlets := same
  rest := congrArg (·.withOutlets outlets) closed.rest

theorem closed_bury (orderly : b.Orderly) (l : ListenerId) : b.Closed (b.bury l) l := by
  unfold bury
  split
  · rename_i there
    obtain ⟨owner, known⟩ := Hub.find?_of_contains there
    have requests : (b.dropListener l).matcher.requests =
        b.matcher.requests.filter (fun _ r => r.listener != l) := by
      refine Table.ext_find? (fun q => ?_)
      rw [Table.find?_filter]
      exact orderly.find?_dropListener there q
    refine ⟨?_, requests, ?_, ?_, fun k other => ?_, ?_⟩
    · rw [dropListener_eq known]
    · rw [dropListener_eq known]
    · rw [dropListener_eq known]
      rfl
    · rw [dropListener_eq known, Table.find?_modify, if_neg other]
    · rw [dropListener_eq known]
      exact eq_withClientele rfl rfl rfl rfl rfl
  · rename_i absent
    have none : b.hub.listeners.find? l = none :=
      Option.isNone_iff_eq_none.1 (Option.isSome_eq_false_iff.1 (Bool.eq_false_iff.2 absent))
    refine ⟨(Table.erase_of_absent none).symm, (Table.filter_eq_self (fun q r found => ?_)).symm,
      rfl, rfl, fun _ _ => rfl, rfl⟩
    obtain ⟨owner, known, -⟩ := orderly.owned q r found
    refine bne_iff_ne.2 ?_
    rintro rfl
    cases none.symm.trans known

/-- Where nothing was moving nothing moves but the outlet whose remote end has gone. -/
theorem Idle.disconnect_settle (idle : b.Idle) {k : ListenerId} (other : k ≠ l) :
    (b.hub.disconnect l).settle.outlets.find? k = b.hub.outlets.find? k := by
  change ((b.hub.disconnect l).outlets.mapValues (fun _ o => o.settle)).find? k = _
  rw [Table.find?_mapValues, Hub.disconnect, Table.find?_modify, if_neg other]
  exact idle.map_settle k

theorem Idle.disconnect_report (idle : b.Idle) {k : ListenerId} (other : k ≠ l) :
    (b.hub.disconnect l).settle.reportDeaths.2.outlets.find? k = b.hub.outlets.find? k := by
  change ((b.hub.disconnect l).settle.outlets.mapValues (fun _ o => o.watch.2)).find? k = _
  rw [Table.find?_mapValues, idle.disconnect_settle other]
  exact idle.map_watch k

/-- The end of a registered listener is reported, whatever else is moving. -/
theorem AtWork.disconnect_reported (work : b.AtWork []) (there : b.hub.contains l = true) :
    l ∈ (b.hub.disconnect l).settle.reportDeaths.1 := by
  obtain ⟨owner, known⟩ := Hub.find?_of_contains there
  obtain ⟨o, found, minded⟩ := work.minded l owner known
  have watched : o.watched = true := minded.resolve_right List.not_mem_nil
  let left : Outlet := { o with sink := o.sink.disconnect }
  have settled : (b.hub.disconnect l).settle.outlets.find? l = some left.settle := by
    change ((b.hub.disconnect l).outlets.mapValues (fun _ o => o.settle)).find? l = _
    rw [Table.find?_mapValues, Hub.disconnect, Table.find?_modify, if_pos rfl, found]
    rfl
  have reports : left.settle.watch.1 = true := by
    rw [← Bool.not_eq_false, Outlet.watch_eq_false_iff, left.settle_watched,
      left.settle_connected]
    exact not_or.2 ⟨by simp [left, watched], by simp [left, Sink.isConnected_disconnect]⟩
  refine Table.mem_keys_iff.2 (Table.contains_eq_true_iff.2 ⟨left.settle, ?_⟩)
  rw [Table.find?_filter, settled, Option.filter_some, if_pos reports]

/-- Where nothing else is moving that is the only one reported, unless it has left already. -/
theorem AtWork.disconnect_dead (work : b.AtWork []) (idle : b.Idle) (l : ListenerId) :
    (b.hub.disconnect l).settle.reportDeaths.1 = [l] ∨
      (b.hub.disconnect l).settle.reportDeaths.1 = [] ∧ b.hub.contains l = false := by
  -- an outlet that the end of `l` does not touch has nothing to report, for the broker is idle
  have only : (b.hub.disconnect l).settle.outlets.filter (fun _ o => o.watch.1) =
      (b.hub.disconnect l).settle.outlets.filter (fun k o => decide (k = l) && o.watch.1) := by
    refine Table.ext_find? (fun k => ?_)
    rw [Table.find?_filter, Table.find?_filter]
    by_cases here : k = l
    · simp [here]
    · rw [idle.disconnect_settle here]
      cases found : b.hub.outlets.find? k with
      | none => rfl
      | some o => simp [Option.filter_some, idle.quiet k o found]
  rw [Hub.reportDeaths, only, Table.keys_filter_at]
  split
  · exact .inl rfl
  · rename_i silent
    refine .inr ⟨rfl, Bool.eq_false_iff.2 (fun there => ?_)⟩
    have reported := work.disconnect_reported there
    rw [Hub.reportDeaths, only, Table.keys_filter_at, if_neg silent] at reported
    cases reported

theorem contains_bury_eq_false (absent : b.hub.contains l = false) (k : ListenerId) :
    (b.bury k).hub.contains l = false := by
  unfold bury
  split
  · rename_i there
    obtain ⟨owner, known⟩ := Hub.find?_of_contains there
    rw [Hub.contains] at absent ⊢
    rw [dropListener_eq known, Table.contains_erase, absent, Bool.and_false]
  · exact absent

theorem contains_foldl_bury {dead : List ListenerId}
    (gone : l ∈ dead ∨ b.hub.contains l = false) : (dead.foldl bury b).hub.contains l = false := by
  induction dead generalizing b with
  | nil => exact gone.resolve_left List.not_mem_nil
  | cons k rest ih =>
    refine ih ?_
    rcases gone with listed | absent
    · rcases List.mem_cons.1 listed with rfl | later
      · exact .inr (b.contains_bury l)
      · exact .inl later
    · exact .inr (contains_bury_eq_false absent k)

/-- A listener whose remote end has gone is not there any more once nothing can move. -/
theorem AtWork.disconnect_gone (work : b.AtWork []) (l : ListenerId) :
    { b with hub := b.hub.disconnect l }.idle.hub.contains l = false := by
  refine contains_foldl_bury (b := { b with hub := (b.hub.disconnect l).settle.reportDeaths.2 }) ?_
  cases there : b.hub.contains l with
  | true => exact .inl (work.disconnect_reported there)
  | false => exact .inr there

/-- An idle broker that is left to itself once the remote end of `l` has gone. -/
theorem closed_idle (work : b.AtWork []) (idle : b.Idle) (l : ListenerId) :
    b.Closed { b with hub := b.hub.disconnect l }.idle l := by
  let reported : Broker := { b with hub := (b.hub.disconnect l).settle.reportDeaths.2 }
  have reached : reported.Reachable := (work.reachable.disconnect l).settle.report
  have buried :
      (b.hub.disconnect l).settle.reportDeaths.1.foldl bury reported = reported.bury l := by
    rcases work.disconnect_dead idle l with one | ⟨none, absent⟩
    · rw [one]
      rfl
    · have unknown : ¬ reported.hub.contains l = true := Bool.eq_false_iff.1 absent
      rw [none, bury, if_neg unknown]
      rfl
  have after := closed_bury reached.orderly l
  have closed : b.Closed (reported.bury l) l := {
    listener := after.listener
    requests := after.requests
    listenerCount := after.listenerCount
    requestCount := after.requestCount
    outlets := fun k other => (after.outlets k other).trans (idle.disconnect_report other)
    rest := after.rest }
  have ended : { b with hub := b.hub.disconnect l }.idle =
      (reported.bury l).withOutlets (reported.bury l).hub.settle.outlets := by
    rw [← buried]
    rfl
  rw [ended]
  refine closed.withOutlets (fun k other => ?_)
  change ((reported.bury l).hub.outlets.mapValues (fun _ o => o.settle)).find? k = _
  rw [Table.find?_mapValues, closed.outlets k other]
  exact idle.map_settle k

end Broker

/-- What comes of opening a stream: it is there, or it was refused and nothing is there. -/
structure Exchange.WholeOrNothing (s : Service) (u : Uid) (sink : Sink) (kind : RequestKind)
    (specifier : Specifier) (x : Exchange) : Prop where
  answered : (∃ l q, x.response = .stream l q) ∨ ∃ r, x.response = .ofRefusal r
  accepted : (∃ l q, x.response = .stream l q) ↔
    s.ready = true ∧ s.stage = .serving ∧ specifier.flaw? = none
  service : x.service = { s with broker := x.service.broker }
  reachable : s.stage = .serving → x.service.broker.Reachable
  opened : ∀ l q, x.response = .stream l q →
    s.broker.Opened x.service.broker u sink kind specifier l q ∧ x.deeds.calls = [] ∧
      x.deeds.published = [] ∧ ∀ k n, (k, n) ∈ x.deeds.sent → k = l ∧ n.request = q
  refused : ∀ r, x.response = .ofRefusal r → s.broker.Declined x.service.broker ∧ x.deeds = {}

namespace Gateway
variable {g : Gateway} {s : Service} {u : Uid} {kind : RequestKind} {specifier : Specifier}

theorem openStream_of_unready (unready : ¬ (s.ready && s.stage == .serving) = true) :
    g.openStream s u kind specifier = ⟨.ofRefusal .notReady, s, {}⟩ := by
  have called (c : Command) : s.call c = ⟨.error .notReady, s, {}⟩ := if_neg unready
  simp only [openStream, called]
  rfl

theorem call_serving (b : Broker) (c : Command) : (⟨b, .serving, true⟩ : Service).call c =
    ⟨(b.step c).reply, ⟨(b.step c).broker, .serving, true⟩, (b.step c).deeds⟩ :=
  Service.call_of_serving rfl rfl c

section Serving
variable {b : Broker} {l : ListenerId} {joined hub : Hub}
  (registered : b.hub.register u (.newChannel g.queueDepth) = .ok (l, joined))
include registered

theorem openStream_of_flaw {flaw : SpecifierFlaw} (flawed : specifier.flaw? = some flaw) :
    g.openStream ⟨b, .serving, true⟩ u kind specifier =
      ⟨.ofRefusal (.invalidSpecifier flaw),
        ⟨{ b with hub := joined }.dropListener l, .serving, true⟩, {}⟩ := by
  have there : joined.contains l = true := Hub.contains_of_register registered
  simp only [openStream, call_serving, Broker.step_registerListener registered, Service.Outcome.id,
    Except.map, Broker.step_activate_of_flaw flawed]
  rw [Broker.step_unregisterListener (b := { b with hub := joined }) there]

theorem openStream_of_sound (sound : specifier.flaw? = none)
    (attached : joined.attach l (b.matcher.activate kind specifier l).1 = .ok hub) :
    g.openStream ⟨b, .serving, true⟩ u kind specifier =
      ⟨.stream l (b.matcher.activate kind specifier l).1,
        ⟨({ b with hub := joined }.activated kind specifier l hub).broker, .serving, true⟩,
        ({ b with hub := joined }.activated kind specifier l hub).deeds⟩ := by
  simp only [openStream, call_serving, Broker.step_registerListener registered, Service.Outcome.id,
    Except.map]
  rw [Broker.step_activate_of_sound (b := { b with hub := joined }) sound attached]

end Serving

/-- How the three commands go: no broker takes them, or the second is turned down and the third
takes back the first, or the first two are carried out. -/
inductive Tried (g : Gateway) (u : Uid) (kind : RequestKind) (specifier : Specifier) :
    Service → Exchange → Prop where
  | unready {s : Service} (unready : ¬ (s.ready && s.stage == .serving) = true) :
      Tried g u kind specifier s ⟨.ofRefusal .notReady, s, {}⟩
  | flawed {b : Broker} {l : ListenerId} {joined : Hub} {flaw : SpecifierFlaw}
      (registered : b.hub.register u (.newChannel g.queueDepth) = .ok (l, joined))
      (flawed : specifier.flaw? = some flaw) :
      Tried g u kind specifier ⟨b, .serving, true⟩ ⟨.ofRefusal (.invalidSpecifier flaw),
        ⟨{ b with hub := joined }.dropListener l, .serving, true⟩, {}⟩
  | sound {b : Broker} {l : ListenerId} {joined hub : Hub}
      (registered : b.hub.register u (.newChannel g.queueDepth) = .ok (l, joined))
      (sound : specifier.flaw? = none)
      (attached : joined.attach l (b.matcher.activate kind specifier l).1 = .ok hub) :
      Tried g u kind specifier ⟨b, .serving, true⟩
        ⟨.stream l (b.matcher.activate kind specifier l).1,
          ⟨({ b with hub := joined }.activated kind specifier l hub).broker, .serving, true⟩,
          ({ b with hub := joined }.activated kind specifier l hub).deeds⟩

/-- A channel that is new is open, so the listener is let in; and the listener that was let in is
there to be given a request. -/
theorem tried_openStream (g : Gateway) (s : Service) (u : Uid) (kind : RequestKind)
    (specifier : Specifier) : Tried g u kind specifier s (g.openStream s u kind specifier) := by
  by_cases ready : (s.ready && s.stage == .serving) = true
  · obtain ⟨b, stage, started⟩ := s
    simp only [Bool.and_eq_true, beq_iff_eq] at ready
    obtain ⟨rfl, rfl⟩ := ready
    have connected : (Sink.newChannel g.queueDepth).isConnected = true := rfl
    obtain ⟨l, joined, registered⟩ := b.hub.register_of_connected u connected
    cases flaw : specifier.flaw? with
    | some flaw =>
      rw [openStream_of_flaw registered flaw]
      exact .flawed registered flaw
    | none =>
      obtain ⟨hub, attached⟩ := Hub.attach_of_contains (Hub.contains_of_register registered)
        (b.matcher.activate kind specifier l).1
      rw [openStream_of_sound registered flaw attached]
      exact .sound registered flaw attached
  · rw [openStream_of_unready ready]
    exact .unready ready

theorem wholeOrNothing_of_refusal {r : Refusal} {t : Service}
    (turnedDown : ¬ (s.ready = true ∧ s.stage = .serving ∧ specifier.flaw? = none))
    (service : t = { s with broker := t.broker })
    (reachable : s.stage = .serving → t.broker.Reachable)
    (declined : s.broker.Declined t.broker) (sink : Sink) :
    (⟨.ofRefusal r, t, {}⟩ : Exchange).WholeOrNothing s u sink kind specifier where
  answered := .inr ⟨r, rfl⟩
  accepted := ⟨by rintro ⟨_, _, ⟨⟩⟩, fun welcome => absurd welcome turnedDown⟩
  service := service
  reachable := reachable
  opened _ _ opened := nomatch opened
  refused _ _ := ⟨declined, rfl⟩

theorem reachable_of_register {b : Broker} {l : ListenerId} {joined : Hub} {sink : Sink}
    (reached : b.Reachable) (listeners : b.hub.listeners.HasRoom)
    (registered : b.hub.register u sink = .ok (l, joined)) :
    { b with hub := joined }.Reachable := by
  have accepted := reached.accept (.command (.registerListener u sink)) (fun _ => listeners)
  rwa [Broker.accept, Broker.step_registerListener registered] at accepted

/-- The three commands together come to a stream, or to nothing. -/
theorem wholeOrNothing_openStream (reached : s.stage = .serving → s.broker.Reachable)
    (listeners : s.broker.hub.listeners.HasRoom)
    (requests : specifier.flaw? = none → s.broker.matcher.requests.HasRoom) :
    (g.openStream s u kind specifier).WholeOrNothing s u (.newChannel g.queueDepth) kind
      specifier := by
  have tried := g.tried_openStream s u kind specifier
  generalize g.openStream s u kind specifier = x at tried ⊢
  cases tried with
  | unready unready =>
    refine wholeOrNothing_of_refusal (fun welcome => unready ?_) rfl reached
      (Broker.declined_refl _) _
    rw [welcome.1, welcome.2.1]
    rfl
  | @flawed b l joined flaw registered flawed =>
    have joins := reachable_of_register (reached rfl) listeners registered
    have left : ({ b with hub := joined }.dropListener l).Reachable := by
      have accepted := joins.accept (.command (.unregisterListener l)) trivial
      rwa [Broker.accept, Broker.step_unregisterListener (Hub.contains_of_register registered)]
        at accepted
    exact wholeOrNothing_of_refusal (by simp [flawed]) rfl (fun _ => left)
      (Broker.declined_dropListener listeners registered) _
  | @sound b l joined hub registered sound attached =>
    have joins := reachable_of_register (reached rfl) listeners registered
    have asks : ({ b with hub := joined }.activated kind specifier l hub).broker.Reachable := by
      have accepted := joins.accept (.command (.activate kind specifier l))
        (fun _ _ => requests sound)
      rwa [Broker.accept, Broker.step_activate_of_sound (b := { b with hub := joined }) sound
        attached] at accepted
    obtain ⟨calls, published⟩ :
        ({ b with hub := joined }.activated kind specifier l hub).deeds.calls = [] ∧
        ({ b with hub := joined }.activated kind specifier l hub).deeds.published = [] :=
      Broker.activated_quiet joins.matched
    exact {
      answered := .inl ⟨_, _, rfl⟩
      accepted := ⟨fun _ => ⟨rfl, rfl, sound⟩, fun _ => ⟨_, _, rfl⟩⟩
      service := rfl
      reachable := fun _ => asks
      opened := by
        rintro _ _ ⟨⟩
        exact ⟨Broker.opened_activated listeners (requests sound) registered joins attached,
          calls, published, fun k n => Broker.sent_activated joins (requests sound) attached⟩
      refused := by rintro _ ⟨⟩ }

/-- What is asked for is asked for in the name of the caller, whom the request has to name. -/
theorem caller_of_call {q : HttpRequest} {call : HttpCall} (asked : g.callOf q = .ok call) :
    q.Routed ∧ ∃ caller, q.headers.caller g.token = .ok caller ∧ call.IsFrom caller := by
  have parts := asked
  unfold callOf at parts
  dsimp only at parts
  split at parts
  · cases parts
  · rename_i endpoint params found
    split at parts
    · cases parts
    · rename_i operation there
      split at parts
      · cases parts
      · rename_i caller known
        exact ⟨⟨endpoint, params, operation, found, there⟩, caller, known, Operation.isFrom parts⟩

theorem answer_of_stream {q : HttpRequest} (asked : g.callOf q = .ok (.stream u kind specifier)) :
    q.headers.caller g.token = .ok u ∧ g.answer s q =
      if q.method = "HEAD" then forHeadersAlone (g.openStream s u kind specifier)
      else g.openStream s u kind specifier := by
  obtain ⟨routed, caller, known, same⟩ := caller_of_call asked
  obtain rfl : u = caller := same
  refine ⟨known, ?_⟩
  simp only [answer, if_neg routed.method_ne, asked, carryOut]

end Gateway

end Connectivity
