import Connectivity.Proofs.Delivery
/-! A step and all the deliveries after it. The outlet of a listener that stays gets what the step
sent to it, and the other listeners, dead or alive, have no part in that. -/
namespace Connectivity

/-- The turn started out from `p`, kept what is kept, and sent through `p`'s hub. -/
structure Turn.From (t : Turn) (p : Broker) : Prop where
  kept : p.Kept t.broker
  hub : t.broker.hub = p.hub.sendAll t.deeds.sent

namespace Turn.From
variable {t : Turn} {p : Broker}

theorem begin (p : Broker) : p.begin.From p := ⟨.refl p, rfl⟩

theorem callDevice (start : t.From p) (c : DeviceCall) : (t.callDevice c).From p :=
  ⟨start.kept, start.hub⟩

theorem callDevice_if {linked : Prop} [Decidable linked] {c : DeviceCall}
    (called : t = if linked then p.begin.callDevice c else p.begin) : t.From p := by
  rw [called]
  split
  · exact (begin p).callDevice c
  · exact begin p

theorem send (start : t.From p) (sent : List (ListenerId × Notification)) : (t.send sent).From p where
  kept := start.kept.trans (t.send_kept sent)
  hub := by
    change t.broker.hub.sendAll sent = p.hub.sendAll (t.deeds.sent ++ sent)
    rw [start.hub, Hub.sendAll_append]

theorem announce (start : t.From p) (who : ActiveRequest → Bool) : (t.announce who).From p where
  kept := start.kept.trans (t.announce_kept who)
  hub := by
    refine Eq.trans ?_ (Hub.sendAll_append _ _ _).symm
    rw [← start.hub]
    rfl

theorem tell (start : t.From p) (s : SupplierId) (e : NetworkEvent) (who : ActiveRequest → Bool) :
    (t.tell s e who).From p := start.send _

theorem publish (start : t.From p) (change : Option DefaultChange) : (t.publish change).From p where
  kept := start.kept.trans (t.publish_kept change)
  hub := by
    rw [publish_sent, publish_hub, start.hub]

theorem withMatcher (start : t.From p) {matcher : Matcher}
    (kept : t.broker.Kept { t.broker with matcher }) : (t.withMatcher matcher).From p :=
  ⟨start.kept.trans kept, start.hub⟩

theorem reelect (start : t.From p) : t.reelect.From p :=
  (start.withMatcher t.broker.kept_elect).publish _

theorem rebound (start : t.From p) (scope : Scope) : (t.rebound scope).From p :=
  (start.withMatcher (t.broker.kept_reevaluate scope)).publish _

theorem reevaluate (start : t.From p) (scope : Scope) : (t.reevaluate scope).From p :=
  (start.rebound scope).announce _

theorem equip (start : t.From p) (s : SupplierId) (previous capabilities : Capabilities)
    (watching : List RequestId) : (t.equip s previous capabilities watching).From p := by
  unfold Turn.equip
  dsimp only
  split <;> split
  · exact start
  · exact start.announce _
  · exact start.tell _ _ _
  · exact (start.announce _).tell _ _ _

end Turn.From

namespace Hub
variable {h g : Hub} {l : ListenerId}

/-- The sink of `l` has not failed. -/
def delivers (h : Hub) (l : ListenerId) : Bool := (h.outlets.find? l).any (·.phase == .running)

theorem register_outlets {uid : Uid} {sink : Sink} (done : h.register uid sink = .ok (l, g)) :
    g.queueDepth = h.queueDepth ∧
      g.outlets = h.outlets.insert l { capacity := h.queueDepth, sink } := by
  unfold register at done
  split at done
  · cases done
  · cases done
    exact ⟨rfl, rfl⟩

theorem attach_outlets {q : RequestId} (done : h.attach l q = .ok g) :
    g.queueDepth = h.queueDepth ∧ g.outlets = h.outlets.modify l (·.attach q) := by
  unfold attach at done
  split at done
  · cases done
    exact ⟨rfl, rfl⟩
  · cases done

end Hub

namespace Broker
variable {b : Broker} {l : ListenerId}

/-- Every request of `l` is one of these. -/
def Covers (b : Broker) (l : ListenerId) (live : IdSet) : Prop :=
  ∀ q r, b.matcher.find? q = some r → r.listener = l → live.contains q = true

/-- What comes of `l`'s outlet in a step: its requests may come and go, and what is sent is queued. -/
structure Served (b : Broker) (l : ListenerId) (o : Outlet) (t : Turn) : Prop where
  requests : ∀ q r s, b.matcher.find? q = some r → t.broker.matcher.find? q = some s → s.bare = r.bare
  queueDepth : t.broker.hub.queueDepth = b.hub.queueDepth
  outlet : ∃ live, t.broker.hub.outlets.find? l =
      some ((t.deeds.sentTo l).foldl Outlet.enqueue { o with live }) ∧ t.broker.Covers l live

/-- It is enough to look at where the turn started out from. -/
theorem served_of_from {o : Outlet} {p : Broker} {t : Turn} (start : t.From p)
    (requests : ∀ q r, p.matcher.find? q = some r →
      b.matcher.find? q = some r ∨ b.matcher.find? q = none)
    (queueDepth : p.hub.queueDepth = b.hub.queueDepth) (still : t.broker.hub.contains l = true)
    (live : IdSet) (found : p.hub.outlets.find? l = some { o with live })
    (covers : p.Covers l live) : b.Served l o t where
  requests := by
    intro q r s found after
    obtain ⟨earlier, hr, bare⟩ := start.kept.found after
    rcases requests q earlier hr with same | absent
    · rw [bare, Option.some.inj (same.symm.trans found)]
    · cases absent.symm.trans found
  queueDepth := by rw [start.hub, Hub.sendAll_queueDepth, queueDepth]
  outlet := by
    have there : p.hub.contains l = true := by
      unfold Hub.contains at still ⊢
      rwa [start.kept.listeners] at still
    refine ⟨live, ?_, fun q s hs own => ?_⟩
    · rw [start.hub, Hub.sendAll_outlet there, found]
      rfl
    · obtain ⟨r, hr, bare⟩ := start.kept.found hs
      exact covers q r hr ((ActiveRequest.bare_eq_iff.1 bare).2.2.2.symm.trans own)

theorem ne_of_registered {uid : Uid} {sink : Sink} {k : ListenerId} {hub : Hub}
    (ends : b.Ends (.command (.registerListener uid sink)))
    (registered : b.hub.register uid sink = .ok (k, hub)) (there : b.hub.contains l = true) :
    l ≠ k := by
  obtain ⟨owner, known⟩ := Hub.find?_of_contains there
  have room := ends (Hub.register_eq_ok registered).1
  exact Table.ne_of_contains_eq_false (Hub.fresh_of_register room registered) known

section Steps
variable {o : Outlet}

theorem served_of_same {p : Broker} {t : Turn} (start : t.From p) (matcher : p.matcher = b.matcher)
    (hub : p.hub = b.hub) (still : t.broker.hub.contains l = true)
    (found : b.hub.outlets.find? l = some o) (covers : b.Covers l o.live) : b.Served l o t :=
  served_of_from start (fun _ _ there => .inl (matcher ▸ there)) (by rw [hub]) still o.live
    (hub ▸ found) (fun q r there => covers q r (matcher ▸ there))

theorem served_dropListener (orderly : b.Orderly) (found : b.hub.outlets.find? l = some o)
    (covers : b.Covers l o.live) {k : ListenerId} (gone : b.hub.contains k = true)
    (still : (b.dropListener k).hub.contains l = true) : b.Served l o (b.dropListener k).begin := by
  obtain ⟨owner, hk⟩ := Hub.find?_of_contains gone
  have other : l ≠ k := by
    intro here
    rw [here, dropListener_eq hk, Hub.contains, Table.contains_erase] at still
    simp at still
  have stays : ∀ q r, (b.dropListener k).matcher.find? q = some r → b.matcher.find? q = some r :=
    fun q r hr => ((orderly.find?_dropListener_iff gone).1 hr).1
  refine served_of_from (.begin _) (fun q r hr => .inl (stays q r hr)) ?_ still o.live ?_
    (fun q r hr own => covers q r (stays q r hr) own)
  · rw [dropListener_eq hk]
  · rw [dropListener_eq hk, Table.find?_modify, if_neg other]
    exact found

theorem served_activate (found : b.hub.outlets.find? l = some o) (covers : b.Covers l o.live)
    {kind : RequestKind} {specifier : Specifier} {k : ListenerId} {hub : Hub}
    (room : b.matcher.requests.HasRoom)
    (done : b.hub.attach k (b.matcher.activate kind specifier k).1 = .ok hub) (scope : Scope)
    (still :
      ((b.withRequest kind specifier k hub).begin.reevaluate scope).broker.hub.contains l = true) :
    b.Served l o ((b.withRequest kind specifier k hub).begin.reevaluate scope) := by
  obtain ⟨queueDepth, outlets⟩ := Hub.attach_outlets done
  refine served_of_from ((Turn.From.begin _).reevaluate _) (fun q r hr => ?_) queueDepth still
    (if l = k then o.live.insert (b.matcher.activate kind specifier k).1 else o.live) ?_
    (fun q r hr own => ?_)
  · rw [find?_withRequest] at hr
    split at hr
    · rename_i here
      exact .inr (here ▸ find?_fresh room)
    · exact .inl hr
  · dsimp only [withRequest]
    rw [outlets, Table.find?_modify, found]
    split <;> rfl
  · rw [find?_withRequest] at hr
    split at hr
    · rename_i here
      cases hr
      rw [if_pos own.symm, IdSet.contains_insert, here]
      simp
    · have known := covers q r hr own
      split
      · rw [IdSet.contains_insert, known, Bool.or_true]
      · exact known

theorem served_deactivate (found : b.hub.outlets.find? l = some o) (covers : b.Covers l o.live)
    {id : RequestId} {k : ListenerId} {t : Turn}
    (turned : t = { b with
      matcher := { b.matcher with requests := b.matcher.requests.erase id }
      hub := b.hub.detach k id }.begin)
    (still : t.broker.hub.contains l = true) : b.Served l o t := by
  subst turned
  have stays : ∀ q r, (b.matcher.requests.erase id).find? q = some r →
      q ≠ id ∧ b.matcher.find? q = some r := fun q r => Table.find?_erase_eq_some_iff.1
  by_cases there : b.hub.contains k = true ∧ l = k
  · obtain ⟨known, rfl⟩ := there
    refine served_of_from (.begin _) (fun q r hr => .inl (stays q r hr).2) ?_ still
      (o.live.erase id) ?_ (fun q r hr own => ?_)
    · rw [Hub.detach, if_pos known]
    · rw [Hub.detach, if_pos known, Table.find?_modify, if_pos rfl, found]
      rfl
    · obtain ⟨other, hr⟩ := stays q r hr
      rw [Table.contains_erase, covers q r hr own]
      simpa using other
  · refine served_of_from (.begin _) (fun q r hr => .inl (stays q r hr).2) ?_ still
      o.live ?_ (fun q r hr own => covers q r (stays q r hr).2 own)
    · unfold Hub.detach
      split <;> rfl
    · unfold Hub.detach
      split
      · rename_i known
        rw [Table.find?_modify, if_neg (fun here => there ⟨known, here⟩)]
        exact found
      · exact found

theorem served_repoliced (found : b.hub.outlets.find? l = some o) (covers : b.Covers l o.live)
    {t : Turn} (changed : b.Repoliced t) (still : t.broker.hub.contains l = true) :
    b.Served l o t := by
  cases changed with
  | idle access => exact served_of_same (.begin _) rfl rfl still found covers
  | told access =>
    exact served_of_same ((Turn.From.begin _).announce _).reelect rfl rfl still found covers

theorem served_carried (orderly : b.Orderly) (there : b.hub.contains l = true)
    (found : b.hub.outlets.find? l = some o) (covers : b.Covers l o.live)
    {c : Command} {a : Answer} {t : Turn} (carried : b.Carried c a t) (ends : b.Ends (.command c))
    (still : t.broker.hub.contains l = true) : b.Served l o t := by
  cases carried with
  | registered | informed =>
    exact served_of_same ((Turn.From.begin _).reevaluate _) rfl rfl still found covers
  | unregistered system known done gone cleared =>
    exact served_of_same ((Turn.From.callDevice_if cleared).reevaluate _) rfl rfl still found covers
  | equipped =>
    exact served_of_same (((Turn.From.begin _).reevaluate _).equip _ _ _ _) rfl rfl still found covers
  | linked =>
    exact served_of_same ((((Turn.From.begin _).callDevice _).reevaluate _).tell _ _ _) rfl rfl
      still found covers
  | joined done =>
    obtain ⟨queueDepth, outlets⟩ := Hub.register_outlets done
    refine served_of_from (.begin _) (fun _ _ => .inl) queueDepth still o.live ?_ covers
    rw [outlets, Table.find?_insert, if_neg (ne_of_registered ends done there)]
    exact found
  | left gone => exact served_dropListener orderly found covers gone still
  | activated sound done =>
    exact served_activate found covers (ends sound (Hub.attach_eq_ok done).1) done _ still
  | deactivated known allowed => exact served_deactivate found covers rfl still
  | policed system done changed | restricted system done changed | grounded system done changed =>
    exact served_repoliced found covers changed still
  | known | looked | counted => exact served_of_same (.begin _) rfl rfl still found covers

theorem served_accept (orderly : b.Orderly) (there : b.hub.contains l = true)
    (found : b.hub.outlets.find? l = some o) (covers : b.Covers l o.live)
    (i : Input) (ends : b.Ends i) (still : (b.accept i).broker.hub.contains l = true) :
    b.Served l o (b.accept i) := by
  rcases b.accept_cases i with same | ⟨c, a, rfl, carried, _⟩ | ⟨k, _, gone, dropped⟩
  · rw [same] at still ⊢
    exact served_of_same (.begin _) rfl rfl still found covers
  · exact served_carried orderly there found covers carried ends still
  · rw [dropped] at still ⊢
    exact served_dropListener orderly found covers gone still

end Steps

end Broker

namespace Outlet
variable {o p q : Outlet}

theorem Moves.trans (first : o.Moves p) (last : p.Moves q) : o.Moves q := by
  induction first with
  | rest => exact last
  | deliver turned _ ih => exact .deliver turned (ih last)
  | read taken _ ih => exact .read taken (ih last)
  | disconnect _ ih => exact .disconnect (ih last)
  | report _ ih => exact .report (ih last)

theorem moves_run (moves : Nat) (o : Outlet) : o.Moves (run moves o) := by
  induction moves generalizing o with
  | zero => exact .rest o
  | succ moves ih =>
    unfold run
    split
    · rename_i turned
      exact .deliver turned (ih _)
    · exact .rest o

theorem moves_settle (o : Outlet) : o.Moves o.settle := moves_run _ o

theorem moves_receive (limit : Nat) (o : Outlet) : o.Moves (o.receive limit).2 := by
  induction limit generalizing o with
  | zero => exact .rest o
  | succ limit ih =>
    unfold receive
    split
    · exact .rest o
    · rename_i taken
      exact .read taken ((moves_settle _).trans (ih _))

/-- What no move changes, no number of moves changes. -/
theorem settle_same {β : Type} {f : Outlet → β} (same : ∀ o p : Outlet, o.turn? = some p → f p = f o)
    (o : Outlet) : f o.settle = f o := by
  unfold settle
  generalize o.pending = moves
  induction moves generalizing o with
  | zero => rfl
  | succ moves ih =>
    unfold run
    split
    · rename_i p turned
      exact (ih p).trans (same o p turned)
    · rfl

theorem turn?_connected (turned : o.turn? = some p) : p.sink.isConnected = o.sink.isConnected := by
  rcases turn?_cases turned with ⟨n, sink, hand, taken, rfl⟩ | ⟨n, hand, refused, rfl⟩ |
    ⟨n, queue, hand, more, rfl⟩ | ⟨draining, rfl⟩
  · exact (Sink.offer_taken taken).2.1
  · rfl
  · rfl
  · rfl

theorem settle_connected (o : Outlet) : o.settle.sink.isConnected = o.sink.isConnected :=
  settle_same (fun _ _ => turn?_connected) o

theorem watch_of_connected (connected : o.sink.isConnected = true) : o.watch = (false, o) := by
  simp [watch, connected]

end Outlet

theorem Hub.moved_mapValues (h : Hub) {f : ListenerId → Outlet → Outlet}
    (each : ∀ (l : ListenerId) (o : Outlet), o.Moves (f l o)) : h.Moved (h.outlets.mapValues f) := by
  refine ⟨fun l => ?_, fun l o p found moved => ?_⟩
  · unfold Table.contains
    rw [Table.find?_mapValues, Option.isSome_map]
  · rw [Table.find?_mapValues, found] at moved
    cases moved
    exact each l o

theorem Hub.moved_disconnect (h : Hub) (l : ListenerId) : h.Moved (h.disconnect l).outlets := by
  refine h.moved_mapValues (fun k o => ?_)
  split
  · exact .disconnect (.rest _)
  · exact .rest o

theorem Hub.moved_insert {h : Hub} {l : ListenerId} {o p : Outlet}
    (found : h.outlets.find? l = some o) (moves : o.Moves p) : h.Moved (h.outlets.insert l p) := by
  refine ⟨fun k => ?_, fun k q r before after => ?_⟩
  · rw [Table.contains_insert]
    by_cases same : k = l
    · subst same
      simp [Table.contains, found]
    · simp [same]
  · rw [Table.find?_insert] at after
    split at after
    · rename_i same
      subst same
      cases found.symm.trans before
      cases after
      exact moves
    · cases before.symm.trans after
      exact .rest q

theorem Hub.receive_hub (h : Hub) (l : ListenerId) (limit : Option Nat) :
    (h.receive l limit).2 = { h with outlets := (h.receive l limit).2.outlets } := by
  unfold receive
  split <;> rfl

theorem Hub.moved_receive (h : Hub) (l : ListenerId) (limit : Option Nat) :
    h.Moved (h.receive l limit).2.outlets := by
  unfold receive
  split
  · exact ⟨fun _ => rfl, fun k o p found same => Option.some.inj (found.symm.trans same) ▸ .rest o⟩
  · rename_i o found
    refine moved_insert found ?_
    cases limit with
    | none => exact Outlet.moves_receive _ o
    | some n => exact Outlet.moves_receive n o

namespace Broker
variable {b c : Broker} {l : ListenerId}

/-- Nothing of `l` has changed from `b` to `c`. -/
structure Spares (l : ListenerId) (b c : Broker) : Prop where
  listener : c.hub.contains l = b.hub.contains l
  outlet : c.hub.outlets.find? l = b.hub.outlets.find? l
  queueDepth : c.hub.queueDepth = b.hub.queueDepth
  requests : ∀ q r, r.listener = l → (c.matcher.find? q = some r ↔ b.matcher.find? q = some r)

theorem Spares.refl (l : ListenerId) (b : Broker) : Spares l b b :=
  ⟨rfl, rfl, rfl, fun _ _ _ => Iff.rfl⟩

theorem Spares.trans {d : Broker} (first : Spares l b c) (last : Spares l c d) : Spares l b d where
  listener := last.listener.trans first.listener
  outlet := last.outlet.trans first.outlet
  queueDepth := last.queueDepth.trans first.queueDepth
  requests := fun q r own => (last.requests q r own).trans (first.requests q r own)

theorem spares_bury (orderly : b.Orderly) {k : ListenerId} (other : l ≠ k) :
    Spares l b (b.bury k) := by
  unfold bury
  split
  · rename_i there
    obtain ⟨owner, hk⟩ := Hub.find?_of_contains there
    constructor
    · rw [dropListener_eq hk]
      simp [Hub.contains, Table.contains_erase, other]
    · rw [dropListener_eq hk, Table.find?_modify, if_neg other]
    · rw [dropListener_eq hk]
    · intro q r own
      rw [orderly.find?_dropListener_iff there]
      exact and_iff_left (own ▸ other)
  · exact .refl l b

theorem Reachable.bury (reached : b.Reachable) (k : ListenerId) : (b.bury k).Reachable :=
  reached.accept (.death k) trivial

theorem Reachable.foldl_bury (reached : b.Reachable) (dead : List ListenerId) :
    (dead.foldl Broker.bury b).Reachable := by
  induction dead generalizing b with
  | nil => exact reached
  | cons k rest ih => exact ih (reached.bury k)

theorem spares_foldl_bury (reached : b.Reachable) {dead : List ListenerId} (alive : l ∉ dead) :
    Spares l b (dead.foldl bury b) := by
  induction dead generalizing b with
  | nil => exact .refl l b
  | cons k rest ih =>
    rw [List.mem_cons, not_or] at alive
    exact (spares_bury reached.orderly alive.1).trans (ih (reached.bury k) alive.2)

theorem Reachable.settle (reached : b.Reachable) : { b with hub := b.hub.settle }.Reachable :=
  reached.outlets (b.hub.moved_mapValues (fun _ => Outlet.moves_settle))

theorem Reachable.report (reached : b.Reachable) :
    { b with hub := b.hub.reportDeaths.2 }.Reachable :=
  reached.outlets (b.hub.moved_mapValues (f := fun _ o => o.watch.2) (fun _ _ => .report (.rest _)))

theorem Reachable.disconnect (reached : b.Reachable) (l : ListenerId) :
    { b with hub := b.hub.disconnect l }.Reachable :=
  reached.outlets (b.hub.moved_disconnect l)

theorem Reachable.idle (reached : b.Reachable) : b.idle.Reachable :=
  (reached.settle.report.foldl_bury b.hub.settle.reportDeaths.1).settle

/-- When nothing can move any more, `l`'s outlet has delivered, and nothing else of `l` has changed. -/
theorem Reachable.idle_outlet (reached : b.Reachable) {o : Outlet}
    (found : b.hub.outlets.find? l = some o) (connected : o.sink.isConnected = true) :
    b.idle.hub.contains l = b.hub.contains l ∧ b.idle.hub.outlets.find? l = some o.settle ∧
      b.idle.hub.queueDepth = b.hub.queueDepth ∧ ∀ q r, r.listener = l →
        (b.idle.matcher.find? q = some r ↔ b.matcher.find? q = some r) := by
  have open_ : o.settle.sink.isConnected = true := (Outlet.settle_connected o).trans connected
  have watched : b.hub.settle.outlets.find? l = some o.settle := by
    rw [Hub.settle, Table.find?_mapValues, found]
    rfl
  have alive : l ∉ b.hub.settle.reportDeaths.1 := by
    rw [Hub.reportDeaths, Table.mem_keys_iff, Table.contains_eq_true_iff]
    rintro ⟨p, dead⟩
    rw [Table.find?_filter, watched, Option.filter_eq_some_iff] at dead
    obtain ⟨same, dies⟩ := dead
    cases same
    rw [Outlet.watch_of_connected open_] at dies
    cases dies
  have spared := spares_foldl_bury reached.settle.report alive
  have before : (b.hub.settle.outlets.mapValues (fun _ o => o.watch.2)).find? l = some o.settle := by
    rw [Table.find?_mapValues, watched, Option.map_some, Outlet.watch_of_connected open_]
  refine ⟨spared.listener, ?_, spared.queueDepth, spared.requests⟩
  exact (Table.find?_mapValues ..).trans
    ((congrArg (Option.map Outlet.settle) (spared.outlet.trans before)).trans
      (congrArg some (Outlet.settle_of_still o.turn?_settle)))

theorem contains_of_bury {k : ListenerId} (there : (b.bury k).hub.contains l = true) :
    b.hub.contains l = true := by
  unfold bury at there
  split at there
  · rename_i known
    obtain ⟨owner, hk⟩ := Hub.find?_of_contains known
    rw [dropListener_eq hk, Hub.contains, Table.contains_erase, Bool.and_eq_true] at there
    exact there.2
  · exact there

theorem contains_of_idle (there : b.idle.hub.contains l = true) : b.hub.contains l = true := by
  have buried : ∀ (dead : List ListenerId) (c : Broker),
      (dead.foldl bury c).hub.contains l = true → c.hub.contains l = true := by
    intro dead
    induction dead with
    | nil => exact fun _ kept => kept
    | cons k rest ih => exact fun c kept => contains_of_bury (ih (c.bury k) kept)
  exact buried _ { b with hub := b.hub.settle.reportDeaths.2 } there

/-- What a step sends to a listener is about requests of its own. -/
theorem Reachable.sent_owner (reached : b.Reachable) {i : Input} (ends : b.Ends i) {n : Notification}
    (sent : n ∈ (b.accept i).deeds.sentTo l) :
    ∃ r, (b.accept i).broker.matcher.find? n.request = some r ∧ r.listener = l := by
  obtain ⟨⟨k, m⟩, listed, rfl⟩ := List.mem_map.1 sent
  obtain ⟨there, own⟩ := List.mem_filter.1 listed
  have about : (k, m) ∈ (b.accept i).deeds.about m.request :=
    List.mem_filter.2 ⟨there, beq_self_eq_true _⟩
  rw [reached.notified ends m.request] at about
  cases found : (b.accept i).broker.matcher.find? m.request with
  | none =>
    rw [found] at about
    cases about
  | some r =>
    rw [found] at about
    obtain ⟨_, _, same⟩ := List.mem_map.1 about
    refine ⟨r, rfl, ?_⟩
    rw [← eq_of_beq own, ← congrArg Prod.fst same]

/-- An input, all the deliveries it leads to, and `l` reading everything that has arrived. -/
def round (b : Broker) (l : ListenerId) (i : Input) : List Notification × Broker :=
  let c := (b.accept i).broker.idle
  ((c.hub.receive l none).1, { c with hub := (c.hub.receive l none).2 })

/-- `l` is registered and has read what there was to read, and its sink is ready for more. -/
structure Attended (b : Broker) (l : ListenerId) : Prop where
  reachable : b.Reachable
  listener : b.hub.contains l = true
  outlet : ∃ o, b.hub.outlets.find? l = some o ∧ o.Rests ∧ o.capacity = b.hub.queueDepth ∧
    b.Covers l o.live

theorem Reachable.receive (reached : b.Reachable) (l : ListenerId) (limit : Option Nat) :
    { b with hub := (b.hub.receive l limit).2 }.Reachable := by
  rw [Hub.receive_hub]
  exact reached.outlets (b.hub.moved_receive l limit)

theorem round_eq {i : Input} {o p : Outlet} {heard : List Notification}
    (delivered : (b.accept i).broker.idle.hub.outlets.find? l = some o)
    (read : o.receiveAll = (heard, p)) : b.round l i = (heard,
      (b.accept i).broker.idle.withOutlets ((b.accept i).broker.idle.hub.outlets.insert l p)) := by
  simp only [round, Hub.receive, delivered, read, withOutlets]

/-- A round in which the sink does not fail brings `l` what its queue held of what was sent to it. -/
theorem Attended.round (attended : b.Attended l) {i : Input} (ends : b.Ends i)
    (still : (b.round l i).2.hub.contains l = true)
    (running : (b.round l i).2.hub.delivers l = true) :
    (b.round l i).2.Attended l ∧
      (b.round l i).1 = ((b.accept i).deeds.sentTo l).take b.hub.queueDepth ∧
      (∀ q r, r.listener = l → ((b.round l i).2.matcher.find? q = some r ↔
        (b.accept i).broker.matcher.find? q = some r)) ∧
      ∀ q r s, b.matcher.find? q = some r →
        (b.accept i).broker.matcher.find? q = some s → s.bare = r.bare := by
  obtain ⟨reached, there, o, found, rests, capacity, covers⟩ := attended
  have kept : (b.accept i).broker.idle.hub.contains l = true := by
    change ((b.accept i).broker.idle.hub.receive l none).2.contains l = true at still
    rwa [Hub.receive_hub] at still
  have served := served_accept reached.orderly there found covers i ends (contains_of_idle kept)
  obtain ⟨live, queued, covered⟩ := served.outlet
  have ready : { o with live }.Rests :=
    ⟨rests.running, rests.queue, rests.hand, rests.buffer, rests.connected, rests.holds⟩
  have wanted : ∀ n ∈ (b.accept i).deeds.sentTo l, live.contains n.request = true := by
    intro n sent
    obtain ⟨r, hr, own⟩ := reached.sent_owner ends sent
    exact covered n.request r hr own
  have connected : (((b.accept i).deeds.sentTo l).foldl Outlet.enqueue
      { o with live }).sink.isConnected = true := by
    rw [Outlet.foldl_enqueue ready.running]
    exact rests.connected
  -- What others do meanwhile, and the listeners that are buried, leave this outlet alone.
  obtain ⟨_, delivered, queueDepth, requests⟩ :=
    (reached.accept i ends).idle_outlet queued connected
  generalize read : (((b.accept i).deeds.sentTo l).foldl Outlet.enqueue
    { o with live }).settle.receiveAll = result
  obtain ⟨heard, p⟩ := result
  have next : (b.round l i).2.Reachable := (reached.accept i ends).idle.receive l none
  rw [round_eq delivered read] at still running next ⊢
  have left : ((b.accept i).broker.idle.hub.outlets.insert l p).find? l = some p := by
    rw [Table.find?_insert, if_pos rfl]
  have intact : p.phase = .running := by simpa [Hub.delivers, withOutlets, left] using running
  obtain ⟨all, rested, size, lives⟩ := ready.receiveAll wanted read intact
  refine ⟨⟨next, still, p, left, rested, ?_, fun q r hr own => ?_⟩, ?_, requests, served.requests⟩
  · exact size.trans (capacity.trans (queueDepth.trans served.queueDepth).symm)
  · rw [lives]
    exact covered q r ((requests q r own).1 hr) own
  · rw [← capacity]
    exact all

theorem accept_registerListener {uid : Uid} {sink : Sink}
    (done : (b.step (.registerListener uid sink)).reply = .ok (.id l)) :
    ∃ hub, b.hub.register uid sink = .ok (l, hub) ∧
      b.accept (.command (.registerListener uid sink)) = { b with hub }.begin := by
  rcases b.step_cases (.registerListener uid sink) with ⟨e, refused⟩ | ⟨a, t, carried, stepped⟩
  · rw [refused] at done
    cases done
  · rw [stepped] at done
    cases done
    cases carried with
    | @joined _ _ _ hub registered =>
      exact ⟨hub, registered, by simp only [Broker.accept, stepped]⟩

/-- A listener that has just come with an empty sink is attended to, and has no requests yet. -/
theorem Reachable.joined (reached : b.Reachable) {uid : Uid} {sink : Sink}
    (ends : b.Ends (.command (.registerListener uid sink))) (empty : sink.buffer = [])
    (holds : sink.Holds) (done : (b.step (.registerListener uid sink)).reply = .ok (.id l)) :
    (b.accept (.command (.registerListener uid sink))).broker.idle.Attended l ∧
      ∀ q r, (b.accept (.command (.registerListener uid sink))).broker.idle.matcher.find? q = some r →
        r.listener ≠ l := by
  have after := reached.accept _ ends
  obtain ⟨hub, registered, turned⟩ := accept_registerListener done
  rw [turned] at after ⊢
  obtain ⟨connected, -, listeners⟩ := Hub.register_eq_ok registered
  obtain ⟨queueDepth, outlets⟩ := Hub.register_outlets registered
  have fresh := Hub.fresh_of_register (ends connected) registered
  have put : hub.outlets.find? l = some { capacity := b.hub.queueDepth, sink } := by
    rw [outlets, Table.find?_insert, if_pos rfl]
  have rests : ({ capacity := b.hub.queueDepth, sink } : Outlet).Rests :=
    ⟨rfl, rfl, rfl, empty, connected, holds⟩
  obtain ⟨there, delivered, depth, requests⟩ := after.idle_outlet put connected
  rw [Outlet.settle_of_still rests.still] at delivered
  have foreign : ∀ q r, ({ b with hub }.begin.broker.idle).matcher.find? q = some r →
      r.listener ≠ l := by
    intro q r found own
    obtain ⟨owner, known, _⟩ := reached.orderly.owned q r ((requests q r own).1 found)
    exact Table.ne_of_contains_eq_false fresh known own
  refine ⟨⟨after.idle, ?_, _, delivered, rests, ?_, ?_⟩, foreign⟩
  · refine there.trans (Table.contains_eq_true_iff.2 ⟨{ uid }, ?_⟩)
    change hub.listeners.find? l = some { uid }
    rw [listeners, Table.find?_insert, if_pos rfl]
  · exact (depth.trans queueDepth).symm
  · exact fun q r found own => absurd own (foreign q r found)

end Broker

end Connectivity
