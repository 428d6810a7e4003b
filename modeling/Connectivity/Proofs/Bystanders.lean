import Connectivity.Proofs.Partition
import Connectivity.Proofs.Scope
/-! What one uid can do to others. Joining, asking for a network, leaving and losing the remote end change
what is the uid's own and nothing else. -/
namespace Connectivity

namespace Hub
variable {u : Uid} {h g : Hub} {l : ListenerId}

theorem uid?_eq_some_iff {v : Uid} :
    h.uid? l = some v ↔ ∃ owner, h.listeners.find? l = some owner ∧ owner.uid = v := by
  rw [uid?, Option.map_eq_some_iff]

theorem contains_of_uid? (own : h.uid? l = some u) : h.contains l = true := by
  obtain ⟨owner, known, -⟩ := uid?_eq_some_iff.1 own
  exact Table.contains_eq_true_iff.2 ⟨owner, known⟩

theorem ne_of_foreign {k : ListenerId} {v : Uid} (own : h.uid? l = some u) (other : v ≠ u)
    (foreign : h.uid? k = some v) : k ≠ l := by
  rintro rfl
  exact other (Option.some.inj (foreign.symm.trans own))

/-- Whatever is done to a listener of `u` is seen on no listener of another uid. -/
theorem foreign_of_modify {f : Listener → Listener} (own : h.uid? l = some u)
    (put : g.listeners = h.listeners.modify l f) (same : ∀ x, (f x).uid = x.uid) :
    ∀ k owner, owner.uid ≠ u → (g.listeners.find? k = some owner ↔ h.listeners.find? k = some owner) := by
  intro k owner other
  obtain ⟨mine, known, uid⟩ := uid?_eq_some_iff.1 own
  rw [put, Table.find?_modify]
  split
  · rename_i here
    subst here
    rw [known]
    constructor
    · intro changed
      cases changed
      exact absurd ((same mine).trans uid) other
    · intro unchanged
      cases unchanged
      exact absurd uid other
  · exact Iff.rfl

end Hub

/-- Where the default is the one to elect, nothing is published. -/
theorem Turn.rebound_of_elected {t : Turn}
    (elected : t.broker.matcher.default = selectBest t.broker.registry.candidates {})
    (scope : Scope) : t.rebound scope =
      t.withMatcher (t.broker.matcher.reevaluate t.broker.registry scope).matcher := by
  have unmoved : (t.broker.matcher.reevaluate t.broker.registry scope).defaultChange = none :=
    Matcher.elect_change_eq_none_iff.2 elected
  simp only [rebound, unmoved]
  rfl

namespace Broker
variable {u : Uid} {b c d : Broker}

/-- From `b` to `c` nothing changes that is not `u`'s own. -/
structure Untouched (u : Uid) (b c : Broker) : Prop where
  registry : c.registry = b.registry
  store : c.store = b.store
  default : c.matcher.default = b.matcher.default
  published : c.published = b.published
  listeners : ∀ l owner, owner.uid ≠ u →
    (c.hub.listeners.find? l = some owner ↔ b.hub.listeners.find? l = some owner)
  outlets : ∀ l v, v ≠ u → b.hub.uid? l = some v →
    c.hub.outlets.find? l = b.hub.outlets.find? l
  requests : ∀ q r v, v ≠ u →
    (c.matcher.find? q = some r ∧ c.hub.uid? r.listener = some v ↔
      b.matcher.find? q = some r ∧ b.hub.uid? r.listener = some v)

theorem foreign_iff {l : ListenerId} {v : Uid} (other : v ≠ u)
    (listeners : ∀ l owner, owner.uid ≠ u →
      (c.hub.listeners.find? l = some owner ↔ b.hub.listeners.find? l = some owner)) :
    c.hub.uid? l = some v ↔ b.hub.uid? l = some v := by
  rw [Hub.uid?_eq_some_iff, Hub.uid?_eq_some_iff]
  constructor
  · rintro ⟨owner, known, rfl⟩
    exact ⟨owner, (listeners l owner other).1 known, rfl⟩
  · rintro ⟨owner, known, rfl⟩
    exact ⟨owner, (listeners l owner other).2 known, rfl⟩

theorem Untouched.uid?_iff (h : Untouched u b c) {l : ListenerId} {v : Uid} (other : v ≠ u) :
    c.hub.uid? l = some v ↔ b.hub.uid? l = some v := foreign_iff other h.listeners

theorem Untouched.refl (u : Uid) (b : Broker) : Untouched u b b :=
  ⟨rfl, rfl, rfl, rfl, fun _ _ _ => Iff.rfl, fun _ _ _ _ => rfl, fun _ _ _ _ => Iff.rfl⟩

theorem Untouched.trans (first : Untouched u b c) (last : Untouched u c d) : Untouched u b d where
  registry := last.registry.trans first.registry
  store := last.store.trans first.store
  default := last.default.trans first.default
  published := last.published.trans first.published
  listeners l owner other := (last.listeners l owner other).trans (first.listeners l owner other)
  outlets l v other known :=
    (last.outlets l v other ((first.uid?_iff other).2 known)).trans (first.outlets l v other known)
  requests q r v other := (last.requests q r v other).trans (first.requests q r v other)

/-- Where nothing but outlets changes, it is enough to look at those of others. -/
theorem Untouched.withOutlets (h : Untouched u b c) {outlets : Table Outlet}
    (same : ∀ l v, v ≠ u → b.hub.uid? l = some v → outlets.find? l = b.hub.outlets.find? l) :
    Untouched u b (c.withOutlets outlets) where
  registry := h.registry
  store := h.store
  default := h.default
  published := h.published
  listeners := h.listeners
  outlets := same
  requests := h.requests

/-- Of the requests only those of `u` come and go. -/
theorem requests_of_foreign (listeners : ∀ l owner, owner.uid ≠ u →
      (c.hub.listeners.find? l = some owner ↔ b.hub.listeners.find? l = some owner))
    (same : ∀ q r v, v ≠ u → b.hub.uid? r.listener = some v →
      (c.matcher.find? q = some r ↔ b.matcher.find? q = some r)) :
    ∀ q r v, v ≠ u → (c.matcher.find? q = some r ∧ c.hub.uid? r.listener = some v ↔
      b.matcher.find? q = some r ∧ b.hub.uid? r.listener = some v) := by
  intro q r v other
  rw [foreign_iff other listeners]
  constructor
  · rintro ⟨found, known⟩
    exact ⟨(same q r v other known).1 found, known⟩
  · rintro ⟨found, known⟩
    exact ⟨(same q r v other known).2 found, known⟩

theorem untouched_register {l : ListenerId} {sink : Sink} {hub : Hub}
    (room : b.hub.listeners.HasRoom) (done : b.hub.register u sink = .ok (l, hub)) :
    Untouched u b { b with hub } := by
  obtain ⟨-, -, put⟩ := Hub.register_eq_ok done
  have fresh : b.hub.listeners.find? l = none :=
    Option.isNone_iff_eq_none.1 (Option.isSome_eq_false_iff.1 (Hub.fresh_of_register room done))
  have listeners : ∀ k owner, owner.uid ≠ u →
      (hub.listeners.find? k = some owner ↔ b.hub.listeners.find? k = some owner) := by
    intro k owner other
    rw [put, Table.find?_insert]
    split
    · rename_i here
      rw [here, fresh]
      constructor
      · intro new
        cases new
        exact absurd rfl other
      · intro none
        cases none
    · exact Iff.rfl
  exact {
    registry := rfl
    store := rfl
    default := rfl
    published := rfl
    listeners
    outlets := by
      intro k v other known
      obtain ⟨owner, there, -⟩ := Hub.uid?_eq_some_iff.1 known
      have elsewhere : k ≠ l := by
        rintro rfl
        rw [fresh] at there
        cases there
      rw [(Hub.register_outlets done).2, Table.find?_insert, if_neg elsewhere]
    requests := requests_of_foreign listeners (fun _ _ _ _ _ => Iff.rfl) }

theorem untouched_dropListener (orderly : b.Orderly) {l : ListenerId}
    (own : b.hub.uid? l = some u) : Untouched u b (b.dropListener l) := by
  obtain ⟨owner, known, same⟩ := Hub.uid?_eq_some_iff.1 own
  have there : b.hub.contains l = true := Table.contains_eq_true_iff.2 ⟨owner, known⟩
  have elsewhere : ∀ k v, v ≠ u → b.hub.uid? k = some v → k ≠ l := by
    rintro k v other foreign rfl
    exact other (Option.some.inj (foreign.symm.trans own))
  have listeners : ∀ k other, other.uid ≠ u →
      ((b.dropListener l).hub.listeners.find? k = some other ↔
        b.hub.listeners.find? k = some other) := by
    intro k other foreign
    rw [dropListener_eq known, Table.find?_erase_eq_some_iff]
    refine and_iff_right_of_imp (fun there => ?_)
    exact elsewhere k _ foreign (Hub.uid?_eq_some_iff.2 ⟨other, there, rfl⟩)
  exact {
    registry := by rw [dropListener_eq known]
    store := by rw [dropListener_eq known]
    default := by
      rw [dropListener_eq known]
      rfl
    published := by rw [dropListener_eq known]
    listeners
    outlets := by
      intro k v other foreign
      rw [dropListener_eq known, Table.find?_modify, if_neg (elsewhere k v other foreign)]
    requests := requests_of_foreign listeners (fun q r v other foreign => by
      rw [orderly.find?_dropListener_iff there]
      exact and_iff_left (elsewhere r.listener v other foreign)) }

theorem untouched_deactivate {id : RequestId} {r : ActiveRequest}
    (found : b.matcher.find? id = some r) (own : b.hub.uid? r.listener = some u) :
    Untouched u b { b with
      matcher := { b.matcher with requests := b.matcher.requests.erase id }
      hub := b.hub.detach r.listener id } := by
  have there := Hub.contains_of_uid? own
  have listeners := Hub.foreign_of_modify own (Hub.detach_listeners there id) (fun _ => rfl)
  exact {
    registry := rfl
    store := rfl
    default := rfl
    published := rfl
    listeners
    outlets := by
      intro k v other foreign
      have elsewhere := Hub.ne_of_foreign own other foreign
      dsimp only
      rw [Hub.detach, if_pos there, Table.find?_modify, if_neg elsewhere]
    requests := requests_of_foreign listeners (fun q s v other foreign => by
      change (b.matcher.requests.erase id).find? q = some s ↔ _
      rw [Table.find?_erase_eq_some_iff]
      refine and_iff_right_of_imp (fun listed => ?_)
      rintro rfl
      cases found.symm.trans listed
      exact Hub.ne_of_foreign own other foreign rfl) }

theorem rebind_of_settled (keyed : b.registry.Keyed) {r : ActiveRequest}
    (settled : r.Settled b.registry (selectBest b.registry.candidates {})) (scope : Scope) :
    b.rebind scope r = r := by
  have stays := settled.nextBinding keyed scope
  simp only [rebind, stays, if_true]

section Activation
variable {kind : RequestKind} {specifier : Specifier} {l : ListenerId} {hub : Hub} {scope : Scope}

/-- Where all is settled the requests that were there before are found as they should be. -/
theorem rebind_withRequest (orderly : b.Orderly) (matched : b.Matched) {q : RequestId}
    {r : ActiveRequest} (found : b.matcher.find? q = some r) :
    (b.withRequest kind specifier l hub).rebind scope r = r := by
  have settled := matched.settled q r found
  rw [matched.elected] at settled
  exact rebind_of_settled (b := b.withRequest kind specifier l hub) orderly.suppliers settled scope

theorem published_activate (matched : b.Matched) :
    ((b.withRequest kind specifier l hub).begin.reevaluate scope).broker.published =
      b.published :=
  congrArg (·.broker.published) (Turn.rebound_of_elected
    (t := (b.withRequest kind specifier l hub).begin) matched.elected scope)

theorem sent_activate_new (orderly : b.Orderly) (matched : b.Matched)
    (room : b.matcher.requests.HasRoom)
    (done : b.hub.attach l (b.matcher.activate kind specifier l).1 = .ok hub)
    {k : ListenerId} {n : Notification}
    (sent : (k, n) ∈ ((b.withRequest kind specifier l hub).begin.reevaluate scope).deeds.sent) :
    k = l ∧ n.request = (b.matcher.activate kind specifier l).1 := by
  have keyed := (orderly.activate room done).requests
  have about : (k, n) ∈ ((b.withRequest kind specifier l hub).begin.reevaluate
      scope).deeds.about n.request := List.mem_filter.2 ⟨sent, beq_self_eq_true _⟩
  rw [Turn.about_reevaluate keyed scope] at about
  have before : (b.withRequest kind specifier l hub).begin.broker.matcher.find? n.request =
      (b.withRequest kind specifier l hub).matcher.find? n.request := rfl
  rw [before, find?_withRequest] at about
  split at about
  · rename_i here
    obtain ⟨e, -, same⟩ := List.mem_map.1 about
    exact ⟨(congrArg Prod.fst same).symm, here⟩
  · cases found : b.matcher.find? n.request with
    | none =>
      rw [found] at about
      cases about
    | some r =>
      have still : (b.withRequest kind specifier l hub).begin.broker.rebind scope r = r :=
        rebind_withRequest orderly matched found
      simp only [found, Option.map_some, Option.getD_some, still, announcement_self] at about
      cases about

theorem sent_activate (orderly : b.Orderly) (matched : b.Matched)
    (room : b.matcher.requests.HasRoom)
    (done : b.hub.attach l (b.matcher.activate kind specifier l).1 = .ok hub)
    {k : ListenerId} {n : Notification}
    (sent : (k, n) ∈ ((b.withRequest kind specifier l hub).begin.reevaluate scope).deeds.sent) :
    k = l := (sent_activate_new orderly matched room done sent).1

theorem untouched_activate (orderly : b.Orderly) (matched : b.Matched)
    (room : b.matcher.requests.HasRoom) (own : b.hub.uid? l = some u)
    (done : b.hub.attach l (b.matcher.activate kind specifier l).1 = .ok hub) :
    Untouched u b ((b.withRequest kind specifier l hub).begin.reevaluate scope).broker := by
  have keyed := (orderly.activate room done).requests
  have start : ((b.withRequest kind specifier l hub).begin.reevaluate scope).From
    (b.withRequest kind specifier l hub) := (Turn.From.begin _).reevaluate scope
  obtain ⟨there, attached⟩ := Hub.attach_eq_ok done
  have listeners : ∀ k owner, owner.uid ≠ u →
      (((b.withRequest kind specifier l hub).begin.reevaluate scope).broker.hub.listeners.find? k =
        some owner ↔ b.hub.listeners.find? k = some owner) :=
    Hub.foreign_of_modify own (start.kept.listeners.trans attached) (fun _ => rfl)
  exact {
    registry := start.kept.registry
    store := start.kept.store
    default := (Turn.reevaluate_default _ scope).trans matched.elected.symm
    published := published_activate matched
    listeners
    outlets := by
      intro k v other foreign
      have elsewhere := Hub.ne_of_foreign own other foreign
      have known : (b.withRequest kind specifier l hub).hub.contains k = true := by
        have earlier := Hub.contains_of_uid? foreign
        rw [Hub.contains] at earlier ⊢
        exact (congrArg (·.contains k) attached).trans ((Table.contains_modify ..).trans earlier)
      have nothing : ((b.withRequest kind specifier l hub).begin.reevaluate scope).deeds.sentTo k =
          [] := by
        refine List.map_eq_nil_iff.2 (List.filter_eq_nil_iff.2 (fun x listed mine => ?_))
        exact elsewhere ((eq_of_beq mine).symm.trans (sent_activate orderly matched room done listed))
      rw [start.hub, Hub.sendAll_outlet known, nothing]
      have same : (b.withRequest kind specifier l hub).hub.outlets.find? k = b.hub.outlets.find? k := by
        dsimp only [withRequest]
        rw [(Hub.attach_outlets done).2, Table.find?_modify, if_neg elsewhere]
      rw [same]
      cases b.hub.outlets.find? k <;> rfl
    requests := requests_of_foreign listeners (fun q r v other foreign => by
      have elsewhere := Hub.ne_of_foreign own other foreign
      rw [Turn.reevaluate_find? keyed]
      change ((b.withRequest kind specifier l hub).matcher.find? q).map _ = some r ↔ _
      rw [find?_withRequest]
      split
      · rename_i here
        rw [here, find?_fresh room]
        constructor
        · intro new
          cases new
          exact absurd rfl elsewhere
        · intro none
          cases none
      · cases found : b.matcher.find? q with
        | none => exact Iff.rfl
        | some s =>
          have still : (b.withRequest kind specifier l hub).begin.broker.rebind scope s = s :=
            rebind_withRequest orderly matched found
          rw [Option.map_some, still]) }

end Activation

theorem untouched_disconnect {l : ListenerId} (own : ∀ v, b.hub.uid? l = some v → v = u) :
    Untouched u b { b with hub := b.hub.disconnect l } := by
  refine (Untouched.refl u b).withOutlets (fun k v other foreign => ?_)
  have elsewhere : k ≠ l := by
    rintro rfl
    exact other (own v foreign)
  rw [Table.find?_modify, if_neg elsewhere]

theorem untouched_bury (orderly : b.Orderly) {l : ListenerId}
    (own : ∀ v, b.hub.uid? l = some v → v = u) : Untouched u b (b.bury l) := by
  unfold bury
  split
  · rename_i there
    obtain ⟨owner, known⟩ := Hub.find?_of_contains there
    have uid : b.hub.uid? l = some owner.uid := Hub.uid?_eq_some_iff.2 ⟨owner, known, rfl⟩
    rw [own owner.uid uid] at uid
    exact untouched_dropListener orderly uid
  · exact .refl u b

theorem untouched_foldl_bury (reached : b.Reachable) {dead : List ListenerId}
    (own : ∀ l ∈ dead, ∀ v, b.hub.uid? l = some v → v = u) : Untouched u b (dead.foldl bury b) := by
  induction dead generalizing b with
  | nil => exact .refl u b
  | cons k rest ih =>
    have here := untouched_bury reached.orderly (own k List.mem_cons_self)
    refine here.trans (ih (reached.bury k) (fun l listed v known => ?_))
    by_cases same : v = u
    · exact same
    · exact own l (List.mem_cons_of_mem k listed) v ((here.uid?_iff same).1 known)

/-- An outlet of another's has nothing to deliver, since it had nothing to deliver before. -/
theorem Untouched.settle (h : Untouched u b c) (idle : b.Idle) :
    Untouched u b { c with hub := c.hub.settle } := by
  refine h.withOutlets (fun l v other foreign => ?_)
  rw [Table.find?_mapValues, h.outlets l v other foreign]
  exact idle.map_settle l

theorem Untouched.report (h : Untouched u b c) (idle : b.Idle) :
    Untouched u b { c with hub := c.hub.reportDeaths.2 } := by
  refine h.withOutlets (fun l v other foreign => ?_)
  rw [Table.find?_mapValues, h.outlets l v other foreign]
  exact idle.map_watch l

theorem Untouched.dead (h : Untouched u b c) (idle : b.Idle) :
    ∀ l ∈ c.hub.reportDeaths.1, ∀ v, c.hub.uid? l = some v → v = u := by
  intro l dies v known
  by_cases same : v = u
  · exact same
  · have foreign := (h.uid?_iff same).1 known
    rw [Hub.reportDeaths, Table.mem_keys_iff, Table.contains_eq_true_iff] at dies
    obtain ⟨o, reports⟩ := dies
    rw [Table.find?_filter, h.outlets l v same foreign, Option.filter_eq_some_iff] at reports
    have quiet := idle.quiet l o reports.1
    exact absurd reports.2 (by simp [quiet])

theorem untouched_idle (reached : b.Reachable) (idle : b.Idle) {l : ListenerId}
    (own : ∀ v, b.hub.uid? l = some v → v = u) :
    Untouched u b { b with hub := b.hub.disconnect l }.idle := by
  let gone : Broker := { b with hub := b.hub.disconnect l }
  let settled : Broker := { gone with hub := gone.hub.settle }
  let reported : Broker := { settled with hub := settled.hub.reportDeaths.2 }
  have first : Untouched u b settled := (untouched_disconnect own).settle idle
  have second : Untouched u b reported := first.report idle
  have after : reported.Reachable := (reached.disconnect l).settle.report
  have buried : Untouched u b (settled.hub.reportDeaths.1.foldl bury reported) :=
    second.trans (untouched_foldl_bury after (first.dead idle))
  exact buried.settle idle

end Broker

end Connectivity
