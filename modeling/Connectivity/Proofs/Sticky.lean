import Connectivity.Proofs.Bystanders
/-! Bindings are sticky. One moves only off a supplier that no longer serves the request, and then to
the best there is; what follows the default network moves just when that does. -/
namespace Connectivity

namespace ActiveRequest
variable {r : ActiveRequest} {candidates : List Candidate} {default : Option SupplierId}
  {scope : Scope}

theorem nextBinding_moved (own : r.kind ≠ .trackDefault)
    (moved : r.nextBinding candidates default scope ≠ r.bound) :
    (∀ x, r.bound = some x → stillServes candidates x r.specifier = false) ∧
      r.nextBinding candidates default scope = selectBest candidates r.specifier := by
  cases covered : scope.covers r with
  | false => exact absurd (nextBinding_aside own covered candidates) moved
  | true =>
    have next : r.nextBinding candidates default scope =
        if r.bound.any (stillServes candidates · r.specifier) = true then r.bound
        else selectBest candidates r.specifier := nextBinding_covered own covered candidates
    split at next
    · exact absurd next moved
    · rename_i unfit
      constructor
      · intro x bound
        simpa [bound] using unfit
      · exact next

end ActiveRequest

namespace Registry
variable {r s : Registry} {id : SupplierId}

theorem candidates_of_unavailable {e : SupplierEntry} (fresh : r.suppliers.contains id = false)
    (put : s.suppliers = r.suppliers.insert id e) (down : e.isAvailable = false) :
    s.candidates = r.candidates := by
  have same : s.suppliers.filter (fun _ e => e.isAvailable) =
      r.suppliers.filter (fun _ e => e.isAvailable) := by
    apply Table.ext_find?
    intro k
    rw [put, Table.find?_filter, Table.find?_filter, Table.find?_insert]
    split
    · rename_i here
      have absent : r.suppliers.find? k = none := by simpa [here, Table.contains] using fresh
      simp [absent, down, Option.filter_some]
    · rfl
  unfold candidates
  rw [same]

end Registry

/-- The input may change which suppliers there are to choose from, or how they compare. -/
def Input.isSupply : Input → Bool
  | .command (.unregisterSupplier ..) | .command (.updateInfo ..)
  | .command (.updateCapabilities ..) => true
  | .command _ | .death _ => false

namespace Broker
variable {b c d : Broker} {q : RequestId} {r s : ActiveRequest}

/-- Of `r` has come `s`: bound as before, or to what is found for `r` among the suppliers of `c`. -/
structure Rebound (c : Broker) (r s : ActiveRequest) : Prop where
  bare : s.bare = r.bare
  bound : s.bound = r.bound ∨ ∃ scope, s.bound =
    r.nextBinding c.registry.candidates (selectBest c.registry.candidates {}) scope

theorem Rebound.refl (c : Broker) (r : ActiveRequest) : c.Rebound r r := ⟨rfl, .inl rfl⟩

theorem Rebound.congr {u : ActiveRequest} (rebound : c.Rebound r u)
    (registry : d.registry = c.registry) (bare : s.bare = u.bare) (bound : s.bound = u.bound) :
    d.Rebound r s := by
  constructor
  · exact bare.trans rebound.bare
  · rw [registry, bound]
    exact rebound.bound

theorem rebound_announce {t : Turn} {who : ActiveRequest → Bool}
    (found : (t.announce who).broker.matcher.find? q = some s) :
    ∃ r, t.broker.matcher.find? q = some r ∧ s.bare = r.bare ∧ s.bound = r.bound := by
  rw [Turn.announce_find?, Option.map_eq_some_iff] at found
  obtain ⟨r, hr, rfl⟩ := found
  exact ⟨r, hr, rfl, rfl⟩

theorem rebound_equip {t : Turn} {id : SupplierId} {previous capabilities : Capabilities}
    {watching : List RequestId}
    (found : (t.equip id previous capabilities watching).broker.matcher.find? q = some s) :
    ∃ r, t.broker.matcher.find? q = some r ∧ s.bare = r.bare ∧ s.bound = r.bound := by
  unfold Turn.equip at found
  dsimp only at found
  split at found <;> split at found
  · exact ⟨s, found, rfl, rfl⟩
  · exact rebound_announce found
  · exact ⟨s, found, rfl, rfl⟩
  · exact rebound_announce found

theorem rebound_repoliced {t : Turn} (changed : b.Repoliced t)
    (found : t.broker.matcher.find? q = some s) :
    ∃ r, b.matcher.find? q = some r ∧ s.bare = r.bare ∧ s.bound = r.bound := by
  cases changed with
  | idle => exact ⟨s, found, rfl, rfl⟩
  | told =>
    unfold Matcher.find? at found
    rw [Turn.reelect_requests] at found
    exact rebound_announce found

theorem rebound_reevaluate {t : Turn} {scope : Scope} (keyed : t.broker.matcher.Keyed)
    (before : t.broker.matcher.find? q = some r)
    (after : (t.reevaluate scope).broker.matcher.find? q = some s) :
    (t.reevaluate scope).broker.Rebound r s := by
  rw [Turn.reevaluate_find? keyed, before] at after
  cases after
  constructor
  · rfl
  · rw [(t.reevaluate_kept scope).registry]
    exact .inr ⟨scope, rfl⟩

theorem Carried.rebound (orderly : b.Orderly) {command : Command} {a : Answer} {t : Turn}
    (carried : b.Carried command a t) (ends : b.Ends (.command command))
    (before : b.matcher.find? q = some r) (after : t.broker.matcher.find? q = some s) :
    t.broker.Rebound r s := by
  have kept (found : b.matcher.find? q = some s) : t.broker.Rebound r s := by
    cases before.symm.trans found
    exact .refl _ r
  cases carried with
  | registered | informed => exact rebound_reevaluate orderly.requests before after
  | @unregistered _ _ _ _ t _ _ _ _ cleared =>
    have matcher : t.broker.matcher = b.matcher := congrArg (·.matcher) (t.broker_of_called cleared)
    exact rebound_reevaluate (matcher ▸ orderly.requests) (matcher ▸ before) after
  | @equipped _ id capabilities e registry =>
    obtain ⟨u, there, bare, bound⟩ := rebound_equip after
    have moved : ({ b with registry }.begin.reevaluate (.supplier id e.netType)).broker.Rebound r u :=
      rebound_reevaluate orderly.requests before there
    exact moved.congr (Turn.equip_kept _ _ _ _ _).registry bare bound
  | @linked _ id link e registry =>
    have moved : (({ b with registry }.begin.callDevice (.apply id link)).reevaluate
        (.supplier id e.netType)).broker.Rebound r s :=
      rebound_reevaluate orderly.requests before after
    exact moved.congr (Turn.tell_kept _ _ _ _).registry rfl rfl
  | left there => exact kept ((orderly.find?_dropListener_iff there).1 after).1
  | @activated kind specifier l hub sound done =>
    have room := ends sound (Hub.attach_eq_ok done).1
    have here : (b.withRequest kind specifier l hub).matcher.find? q = some r := by
      rw [find?_withRequest, if_neg, before]
      rintro rfl
      rw [find?_fresh room] at before
      cases before
    exact rebound_reevaluate (t := (b.withRequest kind specifier l hub).begin)
      (orderly.activate room done).requests here after
  | deactivated => exact kept (Table.find?_erase_eq_some_iff.1 after).2
  | policed _ _ changed | restricted _ _ changed | grounded _ _ changed =>
    obtain ⟨u, there, bare, bound⟩ := rebound_repoliced changed after
    cases before.symm.trans there
    exact ⟨bare, .inl bound⟩
  | known | joined | looked | counted => exact kept after

theorem Reachable.rebound (reached : b.Reachable) {i : Input} (ends : b.Ends i)
    (before : b.matcher.find? q = some r)
    (after : (b.accept i).broker.matcher.find? q = some s) : (b.accept i).broker.Rebound r s := by
  have kept (found : b.matcher.find? q = some s) : (b.accept i).broker.Rebound r s := by
    cases before.symm.trans found
    exact .refl _ r
  rcases b.accept_cases i with same | ⟨command, a, rfl, carried, _⟩ | ⟨l, _, there, dropped⟩
  · rw [same] at after
    exact kept after
  · exact carried.rebound reached.orderly ends before after
  · rw [dropped] at after
    exact kept ((reached.orderly.find?_dropListener_iff there).1 after).1

/-- Who else comes and goes, what links look like and who may see what is of no matter to the choice. -/
theorem Carried.candidates {command : Command} {a : Answer} {t : Turn}
    (carried : b.Carried command a t) (ends : b.Ends (.command command))
    (aside : (Input.command command).isSupply = false) :
    t.broker.registry.candidates = b.registry.candidates := by
  cases carried with
  | registered system unnamed done drawn put =>
    have fresh := (b.registry.ids.take_fresh (ends system unnamed)).2
    rw [(Turn.reevaluate_kept _ _).registry]
    exact Registry.candidates_of_unavailable (drawn ▸ fresh) put rfl
  | unregistered | informed | equipped => cases aside
  | linked system done revised =>
    rw [((Turn.reevaluate_kept _ _).trans (Turn.tell_kept _ _ _ _)).registry]
    exact revised.candidates rfl rfl rfl
  | activated => exact congrArg Registry.candidates (Turn.reevaluate_kept _ _).registry
  | policed _ _ changed | restricted _ _ changed | grounded _ _ changed =>
    cases changed with
    | idle => rfl
    | told =>
      exact congrArg Registry.candidates ((Turn.announce_kept _ _).trans (Turn.reelect_kept _)).registry
  | known | joined | left | deactivated | looked | counted => rfl

theorem candidates_accept {i : Input} (ends : b.Ends i) (aside : i.isSupply = false) :
    (b.accept i).broker.registry.candidates = b.registry.candidates := by
  rcases b.accept_cases i with same | ⟨command, a, rfl, carried, _⟩ | ⟨l, _, there, dropped⟩
  · rw [same]
    rfl
  · exact carried.candidates ends aside
  · rw [dropped]
    rfl

/-- A request that holds a supplier of its own is moved only off one that is gone, unavailable or unfit
after the step, and only to the best of those that are available then. One that follows the default
network moves just when the default does. New suppliers and links, policies, and the coming and going
of listeners and other requests move nothing at all. -/
theorem Reachable.sticky (reached : b.Reachable) {i : Input} (ends : b.Ends i)
    (before : b.matcher.find? q = some r)
    (after : (b.accept i).broker.matcher.find? q = some s) :
    (r.kind ≠ .trackDefault → s.bound ≠ r.bound →
      (∀ x e, r.bound = some x → (b.accept i).broker.registry.find? x = some e →
        e.isAvailable = false ∨ r.specifier.isSatisfiedBy e.netType e.capabilities = false) ∧
      s.bound = selectBest (b.accept i).broker.registry.candidates r.specifier) ∧
    (r.kind = .trackDefault →
      (s.bound ≠ r.bound ↔ (b.accept i).broker.matcher.default ≠ b.matcher.default)) ∧
    (i.isSupply = false →
      s.bound = r.bound ∧ (b.accept i).broker.matcher.default = b.matcher.default) := by
  have next := reached.accept i ends
  have rebound := reached.rebound ends before after
  refine ⟨fun own moved => ?_, fun track => ?_, fun aside => ?_⟩
  · obtain same | ⟨scope, chosen⟩ := rebound.bound
    · exact absurd same moved
    · rw [chosen] at moved ⊢
      obtain ⟨unfit, best⟩ := ActiveRequest.nextBinding_moved own moved
      refine ⟨fun x e bound there => ?_, best⟩
      have unserved : ¬ (b.accept i).broker.registry.Serves x r.specifier := by
        rw [← Registry.stillServes_iff next.orderly.suppliers, unfit x bound]
        exact Bool.false_ne_true
      by_cases available : e.isAvailable = true
      · right
        rw [Bool.eq_false_iff]
        intro fits
        exact unserved ⟨e, there, available, Specifier.isSatisfiedBy_iff.1 fits⟩
      · exact .inl (Bool.eq_false_iff.2 available)
  · have kind := (ActiveRequest.bare_eq_iff.1 rebound.bare).2.1
    rw [(next.matched.settled q s after).follows (kind.trans track),
      (reached.matched.settled q r before).follows track]
  · have candidates := candidates_accept ends aside
    constructor
    · obtain same | ⟨scope, chosen⟩ := rebound.bound
      · exact same
      · -- Among the suppliers there were before, what is settled stays.
        rw [chosen, candidates, ← reached.matched.elected]
        exact (reached.matched.settled q r before).nextBinding reached.orderly.suppliers scope
    · rw [next.matched.elected, candidates, reached.matched.elected]

def twoNetworks : Broker := firstNetwork.after [
  .command (.registerSupplier 0 .wifi "mesh" ⟨0⟩),
  .command (.activate .trackDefault {} 1),
  .command (.updateInfo 0 2 { isAvailable := true, signalStrength := 90 })]

theorem twoNetworks_reachable : twoNetworks.Reachable :=
  Reachable.after firstNetwork_reachable (by decide)

/-- The stronger network has become the default and has not drawn the request away. Now the network
that serves the request goes down. -/
theorem sticky_twoNetworks :
    (∃ r s, twoNetworks.matcher.find? 1 = some r ∧ r.bound = some 1 ∧
      (twoNetworks.accept (.command (.updateInfo 0 1 {}))).broker.matcher.find? 1 = some s ∧
      s.bound = selectBest
        (twoNetworks.accept (.command (.updateInfo 0 1 {}))).broker.registry.candidates {} ∧
      s.bound = some 2) ∧
    ∃ r s, twoNetworks.matcher.find? 2 = some r ∧ r.bound = some 2 ∧
      (twoNetworks.accept (.command (.updateInfo 0 1 {}))).broker.matcher.find? 2 = some s ∧
      s.bound = r.bound := by
  let down : Input := .command (.updateInfo 0 1 {})
  have own : twoNetworks.matcher.find? 1 = some _ := rfl
  have moved : (twoNetworks.accept down).broker.matcher.find? 1 = some _ := rfl
  have follower : twoNetworks.matcher.find? 2 = some _ := rfl
  have stays : (twoNetworks.accept down).broker.matcher.find? 2 = some _ := rfl
  have first := (Reachable.sticky twoNetworks_reachable (by decide) own moved).1 (by decide) (by decide)
  have second := (Reachable.sticky twoNetworks_reachable (by decide) follower stays).2.1 rfl
  constructor
  · exact ⟨_, _, own, rfl, moved, first.2, rfl⟩
  · exact ⟨_, _, follower, rfl, stays, not_ne_iff.1 (mt second.1 (not_not_intro rfl))⟩

end Broker

end Connectivity
