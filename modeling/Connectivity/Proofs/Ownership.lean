import Connectivity.Proofs.Run
/-! Each request belongs to one registered listener, which knows it for its own, and everything
stands under its own id. -/
namespace Connectivity

namespace Hub
variable {h g : Hub} {l : ListenerId}

theorem register_eq_ok {uid : Uid} {sink : Sink} (done : h.register uid sink = .ok (l, g)) :
    sink.isConnected = true ∧ l = (h.ids.take h.listeners).1 ∧
      g.listeners = h.listeners.insert l { uid } := by
  unfold register at done
  split at done
  · cases done
  · rename_i connected
    cases done
    exact ⟨by simpa using connected, rfl, rfl⟩

theorem fresh_of_register {uid : Uid} {sink : Sink} (room : h.listeners.HasRoom)
    (done : h.register uid sink = .ok (l, g)) : h.listeners.contains l = false :=
  (register_eq_ok done).2.1 ▸ (h.ids.take_fresh room).2

theorem attach_eq_ok {q : RequestId} (done : h.attach l q = .ok g) :
    h.contains l = true ∧ g.listeners =
      h.listeners.modify l (fun x => { x with requests := x.requests.insert q }) := by
  unfold attach at done
  split at done
  · rename_i there
    cases done
    exact ⟨there, rfl⟩
  · cases done

theorem detach_listeners (there : h.contains l = true) (q : RequestId) : (h.detach l q).listeners =
    h.listeners.modify l (fun x => { x with requests := x.requests.erase q }) := by
  unfold detach
  rw [if_pos there]

theorem find?_of_contains (there : h.contains l = true) : ∃ owner, h.listeners.find? l = some owner :=
  Table.contains_eq_true_iff.1 there

end Hub

namespace Broker

structure Orderly (b : Broker) : Prop where
  suppliers : b.registry.Keyed
  requests : b.matcher.Keyed
  owned : ∀ q r, b.matcher.find? q = some r →
    ∃ owner, b.hub.listeners.find? r.listener = some owner ∧ owner.requests.contains q = true
  owns : ∀ l owner q, b.hub.listeners.find? l = some owner → owner.requests.contains q = true →
    ∃ r, b.matcher.find? q = some r ∧ r.listener = l

theorem Kept.found {b c : Broker} (kept : b.Kept c) {q : RequestId} {s : ActiveRequest}
    (found : c.matcher.find? q = some s) : ∃ r, b.matcher.find? q = some r ∧ s.bare = r.bare := by
  have same := kept.requests q
  rw [found, Option.map_some, eq_comm, Option.map_eq_some_iff] at same
  obtain ⟨r, hr, bare⟩ := same
  exact ⟨r, hr, bare.symm⟩

theorem Kept.found_after {b c : Broker} (kept : b.Kept c) {q : RequestId} {r : ActiveRequest}
    (found : b.matcher.find? q = some r) : ∃ s, c.matcher.find? q = some s ∧ s.bare = r.bare := by
  have same := kept.requests q
  rw [found, Option.map_some, Option.map_eq_some_iff] at same
  exact same

theorem Kept.orderly {b c : Broker} (kept : b.Kept c) (orderly : b.Orderly) : c.Orderly where
  suppliers := kept.registry ▸ orderly.suppliers
  requests := by
    intro q s found
    obtain ⟨r, hr, bare⟩ := kept.found found
    exact (ActiveRequest.bare_eq_iff.1 bare).1.trans (orderly.requests q r hr)
  owned := by
    intro q s found
    obtain ⟨r, hr, bare⟩ := kept.found found
    rw [kept.listeners, (ActiveRequest.bare_eq_iff.1 bare).2.2.2]
    exact orderly.owned q r hr
  owns := by
    intro l owner q there has
    rw [kept.listeners] at there
    obtain ⟨r, hr, same⟩ := orderly.owns l owner q there has
    obtain ⟨s, found, bare⟩ := kept.found_after hr
    exact ⟨s, found, (ActiveRequest.bare_eq_iff.1 bare).2.2.2.trans same⟩

/-- Neither policies nor what is published matter to who owns what. -/
theorem Orderly.congr {b c : Broker} (orderly : b.Orderly) (registry : c.registry.Keyed)
    (matcher : c.matcher = b.matcher) (listeners : c.hub.listeners = b.hub.listeners) :
    c.Orderly where
  suppliers := registry
  requests := matcher ▸ orderly.requests
  owned := by rw [matcher, listeners]; exact orderly.owned
  owns := by rw [matcher, listeners]; exact orderly.owns

theorem orderly_new (settings : BrokerSettings) (keeps : Bool) (file : PolicyFile) :
    (Broker.new settings keeps file).start.Orderly where
  suppliers := by intro id e found; cases found
  requests := by intro q r found; cases found
  owned := by intro q r found; cases found
  owns := by intro l owner q there; cases there

theorem Orderly.register {b : Broker} (orderly : b.Orderly) {l : ListenerId} {uid : Uid} {hub : Hub}
    (fresh : b.hub.listeners.contains l = false)
    (put : hub.listeners = b.hub.listeners.insert l { uid }) : { b with hub }.Orderly where
  suppliers := orderly.suppliers
  requests := orderly.requests
  owned := by
    intro q r found
    obtain ⟨owner, there, has⟩ := orderly.owned q r found
    refine ⟨owner, ?_, has⟩
    rw [put, Table.find?_insert, if_neg (Table.ne_of_contains_eq_false fresh there)]
    exact there
  owns := by
    intro k owner q there has
    rw [put, Table.find?_insert] at there
    split at there
    · cases there
      cases has
    · exact orderly.owns k owner q there has

theorem dropListener_eq {b : Broker} {l : ListenerId} {owner : Listener}
    (there : b.hub.listeners.find? l = some owner) :
    b.dropListener l = { b with
      matcher := b.matcher.discard owner.requests
      hub := { b.hub with
        listeners := b.hub.listeners.erase l
        outlets := b.hub.outlets.modify l Outlet.drain } } := by
  simp only [dropListener, Hub.remove, there]

theorem find?_discard (m : Matcher) (ids : IdSet) (q : RequestId) :
    (m.discard ids).find? q = if ids.contains q = true then none else m.find? q := by
  unfold Matcher.discard Matcher.find?
  rw [Table.find?_filter]
  cases m.requests.find? q <;> cases ids.contains q <;> simp

/-- A listener goes with all of its requests, and no others. -/
theorem Orderly.find?_dropListener {b : Broker} (orderly : b.Orderly) {l : ListenerId}
    (there : b.hub.contains l = true) (q : RequestId) :
    (b.dropListener l).matcher.find? q = (b.matcher.find? q).filter (·.listener != l) := by
  obtain ⟨owner, hl⟩ := Hub.find?_of_contains there
  rw [dropListener_eq hl]
  rw [find?_discard]
  cases found : b.matcher.find? q with
  | none => simp
  | some r =>
    -- The listener's own list decides which requests go; it is complete and lists no others.
    by_cases own : r.listener = l
    · obtain ⟨other, ho, has⟩ := orderly.owned q r found
      rw [own, hl] at ho
      cases ho
      simp [has, own, Option.filter_some]
    · have foreign : ¬ owner.requests.contains q = true := by
        intro has
        obtain ⟨s, hs, same⟩ := orderly.owns l owner q hl has
        rw [found] at hs
        cases hs
        exact own same
      simp [foreign, own, Option.filter_some]

theorem Orderly.find?_dropListener_iff {b : Broker} (orderly : b.Orderly) {l : ListenerId}
    (there : b.hub.contains l = true) {q : RequestId} {r : ActiveRequest} :
    (b.dropListener l).matcher.find? q = some r ↔
      b.matcher.find? q = some r ∧ r.listener ≠ l := by
  rw [orderly.find?_dropListener there, Option.filter_eq_some_iff, bne_iff_ne]

theorem Orderly.dropListener {b : Broker} (orderly : b.Orderly) {l : ListenerId}
    (there : b.hub.contains l = true) : (b.dropListener l).Orderly := by
  obtain ⟨owner, hl⟩ := Hub.find?_of_contains there
  have listeners : (b.dropListener l).hub.listeners = b.hub.listeners.erase l := by
    rw [dropListener_eq hl]
  constructor
  · rw [dropListener_eq hl]
    exact orderly.suppliers
  · intro q r stays
    exact orderly.requests q r ((orderly.find?_dropListener_iff there).1 stays).1
  · intro q r stays
    obtain ⟨found, foreign⟩ := (orderly.find?_dropListener_iff there).1 stays
    obtain ⟨other, ho, has⟩ := orderly.owned q r found
    refine ⟨other, ?_, has⟩
    rw [listeners]
    exact Table.find?_erase_eq_some_iff.2 ⟨foreign, ho⟩
  · intro k other q ho has
    rw [listeners] at ho
    obtain ⟨differs, ho⟩ := Table.find?_erase_eq_some_iff.1 ho
    obtain ⟨r, found, same⟩ := orderly.owns k other q ho has
    exact ⟨r, (orderly.find?_dropListener_iff there).2 ⟨found, same ▸ differs⟩, same⟩

theorem Orderly.deactivate {b : Broker} (orderly : b.Orderly) {id : RequestId} {r : ActiveRequest}
    (found : b.matcher.find? id = some r) :
    { b with
      matcher := { b.matcher with requests := b.matcher.requests.erase id }
      hub := b.hub.detach r.listener id }.Orderly := by
  obtain ⟨owner, hl, has⟩ := orderly.owned id r found
  have listeners := Hub.detach_listeners (Table.contains_eq_true_iff.2 ⟨owner, hl⟩) id
  constructor
  · exact orderly.suppliers
  · exact fun q s stays => orderly.requests q s (Table.find?_erase_eq_some_iff.1 stays).2
  · intro q s stays
    obtain ⟨other, hs⟩ := Table.find?_erase_eq_some_iff.1 stays
    obtain ⟨o, ho, has⟩ := orderly.owned q s hs
    dsimp only
    rw [listeners, Table.find?_modify]
    split
    · refine ⟨_, by rw [ho]; rfl, ?_⟩
      rw [Table.contains_erase, has]
      simpa using other
    · exact ⟨o, ho, has⟩
  · intro l o q ho has
    dsimp only at ho
    rw [listeners, Table.find?_modify] at ho
    have before : ∃ p, b.hub.listeners.find? l = some p ∧ p.requests.contains q = true ∧
        (l = r.listener → q ≠ id) := by
      split at ho
      · obtain ⟨p, hp, rfl⟩ := Option.map_eq_some_iff.1 ho
        rw [Table.contains_erase, Bool.and_eq_true, decide_eq_true_eq] at has
        exact ⟨p, hp, has.2, fun _ => has.1⟩
      · rename_i elsewhere
        exact ⟨o, ho, has, fun same => absurd same elsewhere⟩
    obtain ⟨p, hp, had, kept⟩ := before
    obtain ⟨s, hs, same⟩ := orderly.owns l p q hp had
    refine ⟨s, ?_, same⟩
    have other : q ≠ id := by
      intro equal
      subst equal
      rw [found] at hs
      cases hs
      exact kept same.symm rfl
    exact Table.find?_erase_eq_some_iff.2 ⟨other, hs⟩

/-- The broker with a new request, which is not bound yet. -/
def withRequest (b : Broker) (kind : RequestKind) (specifier : Specifier) (l : ListenerId)
    (hub : Hub) : Broker := { b with matcher := (b.matcher.activate kind specifier l).2, hub }

section Activation
variable {b : Broker} {kind : RequestKind} {specifier : Specifier} {l : ListenerId} {hub : Hub}

theorem find?_withRequest (q : RequestId) :
    (b.withRequest kind specifier l hub).matcher.find? q =
      if q = (b.matcher.activate kind specifier l).1 then
        some { id := (b.matcher.activate kind specifier l).1, kind, specifier, listener := l }
      else b.matcher.find? q := Table.find?_insert ..

theorem find?_fresh (room : b.matcher.requests.HasRoom) :
    b.matcher.find? (b.matcher.activate kind specifier l).1 = none := by
  have fresh := (b.matcher.ids.take_fresh room).2
  exact Option.isNone_iff_eq_none.1 (Option.isSome_eq_false_iff.1 fresh)

theorem Orderly.activate (orderly : b.Orderly) (room : b.matcher.requests.HasRoom)
    (done : b.hub.attach l (b.matcher.activate kind specifier l).1 = .ok hub) :
    (b.withRequest kind specifier l hub).Orderly := by
  obtain ⟨there, listeners⟩ := Hub.attach_eq_ok done
  have absent : b.matcher.find? (b.matcher.activate kind specifier l).1 = none := find?_fresh room
  constructor
  · exact orderly.suppliers
  · intro q r found
    rw [find?_withRequest] at found
    split at found
    · rename_i here
      cases found
      exact here.symm
    · exact orderly.requests q r found
  · intro q r found
    rw [find?_withRequest] at found
    dsimp only [withRequest]
    rw [listeners, Table.find?_modify]
    split at found
    · rename_i here
      cases found
      obtain ⟨owner, ho⟩ := Hub.find?_of_contains there
      refine ⟨_, by rw [if_pos rfl, ho]; rfl, ?_⟩
      rw [IdSet.contains_insert]
      simp [here]
    · obtain ⟨owner, ho, has⟩ := orderly.owned q r found
      split
      · refine ⟨_, by rw [ho]; rfl, ?_⟩
        rw [IdSet.contains_insert, has, Bool.or_true]
      · exact ⟨owner, ho, has⟩
  · intro k owner q ho has
    dsimp only [withRequest] at ho
    rw [listeners, Table.find?_modify] at ho
    rw [find?_withRequest]
    have known : ∀ o, b.hub.listeners.find? k = some o → o.requests.contains q = true →
        ∃ r, (if q = (b.matcher.activate kind specifier l).1 then
          some { id := (b.matcher.activate kind specifier l).1, kind, specifier, listener := l }
          else b.matcher.find? q) = some r ∧ r.listener = k := by
      intro o there has
      obtain ⟨r, found, same⟩ := orderly.owns k o q there has
      refine ⟨r, ?_, same⟩
      rw [if_neg, found]
      intro here
      rw [here, absent] at found
      cases found
    split at ho
    · rename_i here
      obtain ⟨o, there, rfl⟩ := Option.map_eq_some_iff.1 ho
      rw [IdSet.contains_insert, Bool.or_eq_true, decide_eq_true_eq] at has
      rcases has with new | old
      · exact ⟨_, if_pos new, here.symm⟩
      · exact known o there old
    · exact known owner ho has

end Activation

theorem Orderly.repoliced {b : Broker} (orderly : b.Orderly) {t : Turn}
    (changed : b.Repoliced t) : t.broker.Orderly := by
  cases changed with
  | idle access => exact orderly.congr orderly.suppliers rfl rfl
  | told access =>
    exact ((Turn.announce_kept _ _).trans (Turn.reelect_kept _)).orderly
      (orderly.congr orderly.suppliers rfl rfl)

theorem Orderly.carried {b : Broker} (orderly : b.Orderly) {c : Command} {a : Answer} {t : Turn}
    (carried : b.Carried c a t) (ends : b.Ends (.command c)) : t.broker.Orderly := by
  cases carried with
  | registered system unnamed done drawn put =>
    have keyed := Registry.keyed_of_insert orderly.suppliers (by rfl) put
    exact (Turn.reevaluate_kept _ _).orderly (orderly.congr keyed rfl rfl)
  | unregistered system found done gone cleared =>
    have keyed := Registry.keyed_of_erase orderly.suppliers gone
    subst cleared
    apply (Turn.reevaluate_kept _ _).orderly
    split <;> exact orderly.congr keyed rfl rfl
  | informed system done revised =>
    exact (Turn.reevaluate_kept _ _).orderly
      (orderly.congr (revised.keyed orderly.suppliers) rfl rfl)
  | equipped system done revised =>
    exact ((Turn.reevaluate_kept _ _).trans (Turn.equip_kept _ _ _ _ _)).orderly
      (orderly.congr (revised.keyed orderly.suppliers) rfl rfl)
  | linked system done revised =>
    exact ((Turn.reevaluate_kept _ _).trans (Turn.tell_kept _ _ _ _)).orderly
      (orderly.congr (revised.keyed orderly.suppliers) rfl rfl)
  | joined done =>
    obtain ⟨connected, -, put⟩ := Hub.register_eq_ok done
    exact orderly.register (Hub.fresh_of_register (ends connected) done) put
  | left there => exact orderly.dropListener there
  | activated sound done =>
    have room := ends sound (Hub.attach_eq_ok done).1
    exact (Turn.reevaluate_kept _ _).orderly (orderly.activate room done)
  | deactivated found allowed => exact orderly.deactivate found
  | policed system done changed | restricted system done changed | grounded system done changed =>
    exact orderly.repoliced changed
  | known | looked | counted => exact orderly

/-- What a request asks for is settled once and for all by the command that makes it. -/
theorem Carried.origin {b : Broker} (orderly : b.Orderly) {c : Command} {a : Answer} {t : Turn}
    (carried : b.Carried c a t) {q : RequestId} {s : ActiveRequest}
    (after : t.broker.matcher.find? q = some s) :
    (∃ r, b.matcher.find? q = some r ∧ s.bare = r.bare) ∨
      c = .activate s.kind s.specifier s.listener ∧ a = .id q ∧ s.specifier.flaw? = none := by
  have kept {p : Broker} (kept : p.Kept t.broker) (same : p.matcher = b.matcher) :
      ∃ r, b.matcher.find? q = some r ∧ s.bare = r.bare := same ▸ kept.found after
  cases carried with
  | registered | informed => exact .inl (kept (Turn.reevaluate_kept _ _) rfl)
  | unregistered system known done gone cleared =>
    have same := congrArg (·.matcher) (Turn.broker_of_called _ cleared)
    exact .inl (kept (Turn.reevaluate_kept _ _) same)
  | equipped => exact .inl (kept ((Turn.reevaluate_kept _ _).trans (Turn.equip_kept _ _ _ _ _)) rfl)
  | linked => exact .inl (kept ((Turn.reevaluate_kept _ _).trans (Turn.tell_kept _ _ _ _)) rfl)
  | left there => exact .inl ⟨s, ((orderly.find?_dropListener_iff there).1 after).1, rfl⟩
  | @activated kind specifier l hub sound done =>
    obtain ⟨r, earlier, bare⟩ := (Turn.reevaluate_kept _ _).found after
    have entered : (b.withRequest kind specifier l hub).matcher.find? q = some r := earlier
    rw [find?_withRequest] at entered
    split at entered
    · rename_i here
      cases entered
      obtain ⟨_, rfl, rfl, rfl⟩ := ActiveRequest.bare_eq_iff.1 bare
      exact .inr ⟨rfl, congrArg Answer.id here.symm, sound⟩
    · exact .inl ⟨r, entered, bare⟩
  | deactivated => exact .inl ⟨s, (Table.find?_erase_eq_some_iff.1 after).2, rfl⟩
  | policed _ _ changed | restricted _ _ changed | grounded _ _ changed =>
    cases changed with
    | idle => exact .inl ⟨s, after, rfl⟩
    | told => exact .inl (kept ((Turn.announce_kept _ _).trans (Turn.reelect_kept _)) rfl)
  | known | joined | looked | counted => exact .inl ⟨s, after, rfl⟩

theorem Orderly.accept {b : Broker} (orderly : b.Orderly) (i : Input) (ends : b.Ends i) :
    (b.accept i).broker.Orderly := by
  rcases b.accept_cases i with same | ⟨c, a, rfl, carried, _⟩ | ⟨l, _, there, dropped⟩
  · rw [same]
    exact orderly
  · exact orderly.carried carried ends
  · rw [dropped]
    exact orderly.dropListener there

theorem Reachable.orderly {b : Broker} (reached : b.Reachable) : b.Orderly := by
  induction reached with
  | start settings keeps file => exact orderly_new settings keeps file
  | accept _ i ends ih => exact ih.accept i ends
  | outlets _ _ ih => exact ih.congr ih.suppliers rfl rfl

end Broker

end Connectivity
