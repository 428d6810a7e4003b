import Connectivity.Proofs.Ownership
/-! Who serves whom. After every command a request of its own supplier is bound to one that
qualifies, or waits because none does, and the others follow the best of all. Only the requests in
scope are looked at; the rest stand, since what they ask for is of another type than the supplier
that changed. -/
namespace Connectivity

/-- The binding of `r` is what these suppliers and this default network make of it. -/
structure ActiveRequest.Settled (r : ActiveRequest) (registry : Registry)
    (default : Option SupplierId) : Prop where
  follows : r.kind = .trackDefault → r.bound = default
  served : r.kind ≠ .trackDefault → ∀ s, r.bound = some s → registry.Serves s r.specifier
  waits : r.kind ≠ .trackDefault → r.bound = none → ∀ s, ¬ registry.Serves s r.specifier

namespace ActiveRequest
variable {r : ActiveRequest} {registry : Registry} {default : Option SupplierId} {scope : Scope}

theorem nextBinding_track (track : r.kind = .trackDefault) (candidates : List Candidate) :
    r.nextBinding candidates default scope = default := by
  simp only [nextBinding, track]

theorem nextBinding_aside (own : r.kind ≠ .trackDefault) (aside : scope.covers r = false)
    (candidates : List Candidate) : r.nextBinding candidates default scope = r.bound := by
  cases kind : r.kind with
  | trackDefault => exact absurd kind own
  | request => simp [nextBinding, kind, aside]
  | listen => simp [nextBinding, kind, aside]

/-- In scope, a request keeps a supplier that serves it and is given the best one otherwise. -/
theorem nextBinding_covered (own : r.kind ≠ .trackDefault) (covered : scope.covers r = true)
    (candidates : List Candidate) : r.nextBinding candidates default scope =
      if r.bound.any (stillServes candidates · r.specifier) = true then r.bound
      else selectBest candidates r.specifier := by
  cases kind : r.kind with
  | trackDefault => exact absurd kind own
  | request => cases bound : r.bound <;> simp [nextBinding, kind, covered, bound]
  | listen => cases bound : r.bound <;> simp [nextBinding, kind, covered, bound]

/-- Where a request is settled already nothing is left to do, in whatever scope. -/
theorem Settled.nextBinding (keyed : registry.Keyed) (settled : r.Settled registry default)
    (scope : Scope) : r.nextBinding registry.candidates default scope = r.bound := by
  by_cases track : r.kind = .trackDefault
  · rw [nextBinding_track track, settled.follows track]
  · cases covered : scope.covers r with
    | false => exact nextBinding_aside track covered _
    | true =>
      rw [nextBinding_covered track covered]
      cases bound : r.bound with
      | none =>
        simpa using (Registry.selectBest_eq_none_iff_serves keyed).2 (settled.waits track bound)
      | some s =>
        have still := (Registry.stillServes_iff keyed).2 (settled.served track s bound)
        simp [still]

/-- What a request is bound to anew settles it, if those out of scope are settled as they are. -/
theorem settled_nextBinding (keyed : registry.Keyed)
    (aside : scope.covers r = false → r.kind ≠ .trackDefault →
      (∀ s, r.bound = some s → registry.Serves s r.specifier) ∧
        (r.bound = none → ∀ s, ¬ registry.Serves s r.specifier)) {s : ActiveRequest}
    (bare : s.bare = r.bare)
    (bound : s.bound = r.nextBinding registry.candidates default scope) :
    s.Settled registry default := by
  obtain ⟨_, kind, specifier, _⟩ := bare_eq_iff.1 bare
  cases covered : scope.covers r with
  | false =>
    -- Out of scope the binding stands, and is as good as it was.
    constructor
    · intro track
      rw [bound, nextBinding_track (kind ▸ track)]
    · intro own
      rw [bound, nextBinding_aside (kind ▸ own) covered, specifier]
      exact (aside covered (kind ▸ own)).1
    · intro own
      rw [bound, nextBinding_aside (kind ▸ own) covered, specifier]
      exact (aside covered (kind ▸ own)).2
  | true =>
    constructor
    · intro track
      rw [bound, nextBinding_track (kind ▸ track)]
    · intro own id chosen
      rw [bound, nextBinding_covered (kind ▸ own) covered] at chosen
      rw [specifier]
      split at chosen
      · rename_i still
        rw [chosen] at still
        exact (Registry.stillServes_iff keyed).1 still
      · exact Registry.serves_of_selectBest keyed chosen
    · intro own none
      rw [bound, nextBinding_covered (kind ▸ own) covered] at none
      rw [specifier]
      split at none
      · rename_i still
        rw [none] at still
        cases still
      · exact (Registry.selectBest_eq_none_iff_serves keyed).1 none

theorem Settled.congr {s : ActiveRequest} (settled : r.Settled registry default)
    (bare : s.bare = r.bare) (bound : s.bound = r.bound) : s.Settled registry default := by
  obtain ⟨_, kind, specifier, _⟩ := bare_eq_iff.1 bare
  constructor
  · rw [kind, bound]; exact settled.follows
  · rw [kind, bound, specifier]; exact settled.served
  · rw [kind, bound, specifier]; exact settled.waits

end ActiveRequest

namespace Broker

/-- The default network is the best there is, and every request is settled. -/
structure Matched (b : Broker) : Prop where
  elected : b.matcher.default = selectBest b.registry.candidates {}
  settled : ∀ q r, b.matcher.find? q = some r → r.Settled b.registry b.matcher.default

/-- Requests that come through with their bindings stay settled, and so do any that others leave. -/
theorem Matched.congr {b c : Broker} (matched : b.Matched) (registry : c.registry = b.registry)
    (default : c.matcher.default = b.matcher.default)
    (requests : ∀ q s, c.matcher.find? q = some s →
      ∃ r, b.matcher.find? q = some r ∧ s.bare = r.bare ∧ s.bound = r.bound) : c.Matched where
  elected := by rw [default, registry]; exact matched.elected
  settled := by
    intro q s found
    obtain ⟨r, hr, bare, bound⟩ := requests q s found
    rw [default, registry]
    exact (matched.settled q r hr).congr bare bound

theorem Matched.announce {t : Turn} (matched : t.broker.Matched) (who : ActiveRequest → Bool) :
    (t.announce who).broker.Matched := by
  refine matched.congr rfl rfl (fun q s found => ?_)
  rw [Turn.announce_find?, Option.map_eq_some_iff] at found
  obtain ⟨r, hr, rfl⟩ := found
  exact ⟨r, hr, rfl, rfl⟩

theorem Matched.reelect {t : Turn} (matched : t.broker.Matched) : t.reelect.broker.Matched := by
  refine matched.congr t.reelect_kept.registry ?_ (fun q s found => ?_)
  · rw [Turn.reelect_default, matched.elected]
  · unfold Matcher.find? at found
    rw [Turn.reelect_requests] at found
    exact ⟨s, found, rfl, rfl⟩

theorem Matched.tell {t : Turn} (matched : t.broker.Matched) (s : SupplierId) (e : NetworkEvent)
    (who : ActiveRequest → Bool) : (t.tell s e who).broker.Matched :=
  matched.congr rfl rfl (fun _ r found => ⟨r, found, rfl, rfl⟩)

theorem Matched.equip {t : Turn} (matched : t.broker.Matched) (s : SupplierId)
    (previous capabilities : Capabilities) (watching : List RequestId) :
    (t.equip s previous capabilities watching).broker.Matched := by
  unfold Turn.equip
  dsimp only
  split <;> split
  · exact matched
  · exact matched.announce _
  · exact matched.tell _ _ _
  · exact (matched.announce _).tell _ _ _

/-- Policies have no say in who serves whom. -/
theorem Matched.withStore {b : Broker} (matched : b.Matched) (store : PolicyStore) :
    { b with store }.Matched :=
  matched.congr rfl rfl (fun _ r found => ⟨r, found, rfl, rfl⟩)

theorem Matched.repoliced {b : Broker} (matched : b.Matched) {t : Turn}
    (changed : b.Repoliced t) : t.broker.Matched := by
  cases changed with
  | idle access => exact matched.withStore _
  | told access => exact ((matched.withStore _).announce _).reelect

theorem Matched.dropListener {b : Broker} (matched : b.Matched) (orderly : b.Orderly)
    {l : ListenerId} (there : b.hub.contains l = true) : (b.dropListener l).Matched := by
  obtain ⟨owner, hl⟩ := Hub.find?_of_contains there
  have registry : (b.dropListener l).registry = b.registry := by rw [dropListener_eq hl]
  have default : (b.dropListener l).matcher.default = b.matcher.default := by
    rw [dropListener_eq hl]
    rfl
  refine matched.congr registry default (fun q r found => ⟨r, ?_, rfl, rfl⟩)
  exact ((orderly.find?_dropListener_iff there).1 found).1

theorem matched_reevaluate {t : Turn} (suppliers : t.broker.registry.Keyed)
    (requests : t.broker.matcher.Keyed) {scope : Scope}
    (aside : ∀ q r, t.broker.matcher.find? q = some r → scope.covers r = false →
      r.kind ≠ .trackDefault → (∀ s, r.bound = some s → t.broker.registry.Serves s r.specifier) ∧
        (r.bound = none → ∀ s, ¬ t.broker.registry.Serves s r.specifier)) :
    (t.reevaluate scope).broker.Matched where
  elected := by rw [Turn.reevaluate_default, (t.reevaluate_kept scope).registry]
  settled := by
    intro q s found
    rw [Turn.reevaluate_find? requests, Option.map_eq_some_iff] at found
    obtain ⟨r, hr, rfl⟩ := found
    rw [Turn.reevaluate_default, (t.reevaluate_kept scope).registry]
    exact ActiveRequest.settled_nextBinding suppliers (aside q r hr) rfl rfl

/-- After a change to one supplier the requests in its scope are all that need be looked at. -/
theorem Matched.reevaluate {b : Broker} (matched : b.Matched) (orderly : b.Orderly) {t : Turn}
    {id : SupplierId} {netType : NetType} (changed : b.registry.ChangedAt t.broker.registry id netType)
    (keyed : t.broker.registry.Keyed) (matcher : t.broker.matcher = b.matcher) :
    (t.reevaluate (.supplier id netType)).broker.Matched := by
  apply matched_reevaluate keyed (matcher ▸ orderly.requests)
  intro q r found outside own
  rw [matcher] at found
  have settled := matched.settled q r found
  -- Out of scope means asking for another type, and of that type no supplier has changed.
  have unasked : r.specifier.concerns netType = false := by
    simp only [Scope.covers, Bool.or_eq_false_iff] at outside
    exact outside.2
  constructor
  · intro s bound
    exact (changed.serves_iff unasked s).2 (settled.served own s bound)
  · intro bound s serves
    exact settled.waits own bound s ((changed.serves_iff unasked s).1 serves)

theorem Matched.activate {b : Broker} (matched : b.Matched) (orderly : b.Orderly)
    {kind : RequestKind} {specifier : Specifier} {l : ListenerId} {hub : Hub}
    (room : b.matcher.requests.HasRoom)
    (done : b.hub.attach l (b.matcher.activate kind specifier l).1 = .ok hub) :
    ((b.withRequest kind specifier l hub).begin.reevaluate
      (.request (b.matcher.activate kind specifier l).1)).broker.Matched := by
  apply matched_reevaluate orderly.suppliers (orderly.activate room done).requests
  intro q r found outside own
  change (b.withRequest kind specifier l hub).matcher.find? q = some r at found
  rw [find?_withRequest] at found
  split at found
  · cases found
    simp [Scope.covers] at outside
  · have settled := matched.settled q r found
    exact ⟨settled.served own, settled.waits own⟩

theorem Matched.carried {b : Broker} (matched : b.Matched) (orderly : b.Orderly) {c : Command}
    {a : Answer} {t : Turn} (carried : b.Carried c a t) (ends : b.Ends (.command c)) :
    t.broker.Matched := by
  cases carried with
  | registered system unnamed done drawn put =>
    have fresh := (b.registry.ids.take_fresh (ends system unnamed)).2
    exact matched.reevaluate orderly (Registry.changedAt_of_register (drawn ▸ fresh) put)
      (Registry.keyed_of_insert orderly.suppliers (by rfl) put) rfl
  | unregistered system found done gone cleared =>
    have changed := Registry.changedAt_of_unregister found gone
    have keyed := Registry.keyed_of_erase orderly.suppliers gone
    subst cleared
    split <;> exact matched.reevaluate orderly changed keyed rfl
  | informed system done revised =>
    exact matched.reevaluate orderly revised.changedAt (revised.keyed orderly.suppliers) rfl
  | @equipped _ id _ e registry system done revised =>
    have bound : ({ b with registry }.begin.reevaluate (.supplier id e.netType)).broker.Matched :=
      matched.reevaluate orderly revised.changedAt (revised.keyed orderly.suppliers) rfl
    exact bound.equip _ _ _ _
  | @linked _ id link e registry system done revised =>
    have bound : (({ b with registry }.begin.callDevice (.apply id link)).reevaluate
        (.supplier id e.netType)).broker.Matched :=
      matched.reevaluate orderly revised.changedAt (revised.keyed orderly.suppliers) rfl
    exact bound.tell _ _ _
  | joined done => exact matched.congr rfl rfl (fun q r found => ⟨r, found, rfl, rfl⟩)
  | left there => exact matched.dropListener orderly there
  | activated sound done =>
    exact matched.activate orderly (ends sound (Hub.attach_eq_ok done).1) done
  | deactivated found allowed =>
    exact matched.congr rfl rfl (fun q r stays =>
      ⟨r, (Table.find?_erase_eq_some_iff.1 stays).2, rfl, rfl⟩)
  | policed system done changed | restricted system done changed | grounded system done changed =>
    exact matched.repoliced changed
  | known | looked | counted => exact matched

theorem Matched.accept {b : Broker} (matched : b.Matched) (orderly : b.Orderly) (i : Input)
    (ends : b.Ends i) : (b.accept i).broker.Matched := by
  rcases b.accept_cases i with same | ⟨c, a, rfl, carried, _⟩ | ⟨l, _, there, dropped⟩
  · rw [same]
    exact matched
  · exact matched.carried orderly carried ends
  · rw [dropped]
    exact matched.dropListener orderly there

theorem matched_new (settings : BrokerSettings) (keeps : Bool) (file : PolicyFile) :
    (Broker.new settings keeps file).start.Matched where
  elected := rfl
  settled := by intro q r found; cases found

theorem Reachable.matched {b : Broker} (reached : b.Reachable) : b.Matched := by
  induction reached with
  | start settings keeps file => exact matched_new settings keeps file
  | accept earlier i ends ih => exact ih.accept earlier.orderly i ends
  | outlets _ _ ih => exact ih.congr rfl rfl (fun q r found => ⟨r, found, rfl, rfl⟩)

/-- No command leaves a request on a supplier that does not serve it, or waiting while one would. -/
theorem Reachable.matching {b : Broker} (reached : b.Reachable) :
    (∀ q r, b.matcher.find? q = some r → r.kind ≠ .trackDefault →
      (∀ s, r.bound = some s → ∃ e, b.registry.find? s = some e ∧ e.Qualifies r.specifier) ∧
        (r.bound = none → ∀ s e, b.registry.find? s = some e → ¬ e.Qualifies r.specifier)) ∧
      b.matcher.default = selectBest b.registry.candidates {} ∧
      ∀ q r, b.matcher.find? q = some r → r.kind = .trackDefault → r.bound = b.matcher.default := by
  have matched := reached.matched
  refine ⟨fun q r found own => ⟨fun s bound => ?_, fun bound s e there qualifies => ?_⟩,
    matched.elected, fun q r found track => (matched.settled q r found).follows track⟩
  · exact (matched.settled q r found).served own s bound
  · exact (matched.settled q r found).waits own bound s ⟨e, there, qualifies⟩

theorem matching_firstNetwork :
    firstNetwork.Reachable ∧
      firstNetwork.matcher.default = selectBest firstNetwork.registry.candidates {} ∧
      ∃ e, firstNetwork.registry.find? 1 = some e ∧ e.Qualifies {} := by
  have matching := Reachable.matching firstNetwork_reachable
  exact ⟨firstNetwork_reachable, matching.2.1,
    (matching.1 1 _ firstNetwork_request (by decide)).1 1 rfl⟩

end Broker

end Connectivity
