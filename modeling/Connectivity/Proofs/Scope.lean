import Mathlib.Data.List.Basic
import Connectivity.Proofs.Matching
/-! Looking again at part of the requests does as much as looking at all of them. After a change to
one supplier, or with one new request, everything out of scope would be found settled. -/
namespace Connectivity

namespace Matcher
variable {m : Matcher} {registry : Registry}

/-- Looking at everything again finds nothing to do. -/
def Settled (m : Matcher) (registry : Registry) : Prop :=
  (m.reevaluate registry .all).transitions = [] ∧
    (m.reevaluate registry .all).defaultChange = none

theorem elect_change_eq_none_iff :
    (m.elect registry).1 = none ↔ m.default = selectBest registry.candidates {} := by
  unfold elect
  dsimp only
  split <;> simp_all [eq_comm]

theorem settled_iff (keyed : registry.Keyed) : m.Settled registry ↔
    m.default = selectBest registry.candidates {} ∧
      ∀ q r, m.find? q = some r → r.Settled registry (selectBest registry.candidates {}) := by
  have unmoved : (m.reevaluate registry .all).transitions = [] ↔ ∀ q r, m.find? q = some r →
      r.nextBinding registry.candidates (selectBest registry.candidates {}) .all = r.bound := by
    simp only [reevaluate, elect_requests, elect_default, List.filterMap_eq_nil_iff,
      Table.mem_values_iff]
    constructor
    · intro still q r found
      by_cases same : r.nextBinding registry.candidates (selectBest registry.candidates {}) .all =
          r.bound
      · exact same
      · exact absurd (still r ⟨q, found⟩) (by simp [same])
    · rintro same r ⟨q, found⟩
      exact if_pos (same q r found)
  unfold Settled
  rw [unmoved, and_comm]
  refine and_congr elect_change_eq_none_iff ⟨fun same q r found => ?_, fun settled q r found => ?_⟩
  · exact ActiveRequest.settled_nextBinding keyed (fun outside => Bool.noConfusion outside) rfl
      (same q r found).symm
  · exact (settled q r found).nextBinding keyed .all

theorem reevaluate_congr {s t : Scope} (same : ∀ q r, m.find? q = some r →
      r.nextBinding registry.candidates (selectBest registry.candidates {}) s =
        r.nextBinding registry.candidates (selectBest registry.candidates {}) t) :
    m.reevaluate registry s = m.reevaluate registry t := by
  unfold reevaluate
  simp only [elect_requests, elect_default, Reevaluation.mk.injEq, Matcher.mk.injEq, and_true]
  constructor
  · exact Table.mapValues_congr (fun q r found => by rw [same q r found])
  · refine List.filterMap_congr (fun r listed => ?_)
    obtain ⟨q, found⟩ := Table.mem_values_iff.1 listed
    rw [same q r found]

/-- A scope that leaves out only what is settled does as much as looking at everything. -/
theorem reevaluate_eq_all (keyed : registry.Keyed) {scope : Scope}
    (aside : ∀ q r, m.find? q = some r → scope.covers r = false → r.kind ≠ .trackDefault →
      r.Settled registry (selectBest registry.candidates {})) :
    m.reevaluate registry scope = m.reevaluate registry .all := by
  refine reevaluate_congr (fun q r found => ?_)
  by_cases track : r.kind = .trackDefault
  · rw [ActiveRequest.nextBinding_track track, ActiveRequest.nextBinding_track track]
  · cases covered : scope.covers r with
    | false =>
      have settled := aside q r found covered track
      rw [settled.nextBinding keyed scope, settled.nextBinding keyed .all]
    | true =>
      have all : Scope.all.covers r = true := rfl
      rw [ActiveRequest.nextBinding_covered track covered,
        ActiveRequest.nextBinding_covered track all]

end Matcher

theorem ActiveRequest.Settled.changedAt {r : ActiveRequest} {registry after : Registry}
    {default other : Option SupplierId} {id : SupplierId} {netType : NetType}
    (settled : r.Settled registry default) (changed : registry.ChangedAt after id netType)
    (own : r.kind ≠ .trackDefault) (aside : r.specifier.concerns netType = false) :
    r.Settled after other where
  follows := fun track => absurd track own
  served := fun own s bound => (changed.serves_iff aside s).2 (settled.served own s bound)
  waits := fun own bound s serves =>
    settled.waits own bound s ((changed.serves_iff aside s).1 serves)

namespace Broker
variable {b : Broker}

theorem Carried.registry {c : Command} {a : Answer} {t : Turn} (carried : b.Carried c a t)
    (ends : b.Ends (.command c)) : t.broker.registry = b.registry ∨
      ∃ id netType, b.registry.Altered id netType t.broker.registry := by
  have typed : ∀ {id : SupplierId} {e : SupplierEntry}, b.registry.find? id = some e →
      b.registry.netType? id = some e.netType := by
    intro id e found
    rw [Registry.netType?, found]
    rfl
  cases carried with
  | registered system unnamed done drawn put =>
    rw [(Turn.reevaluate_kept _ _).registry]
    exact .inr ⟨_, _, .register (fun _ => ends system unnamed) done⟩
  | @unregistered _ id e registry t system found done gone cleared =>
    have broker : t.broker.registry = registry := congrArg (·.registry) (t.broker_of_called cleared)
    rw [(Turn.reevaluate_kept _ _).registry, broker]
    exact .inr ⟨_, _, .unregister (typed found) done⟩
  | informed system done revised =>
    rw [(Turn.reevaluate_kept _ _).registry]
    exact .inr ⟨_, _, .updateInfo (typed revised.found) done⟩
  | equipped system done revised =>
    rw [((Turn.reevaluate_kept _ _).trans (Turn.equip_kept _ _ _ _ _)).registry]
    exact .inr ⟨_, _, .updateCapabilities (typed revised.found) done⟩
  | linked system done revised =>
    rw [((Turn.reevaluate_kept _ _).trans (Turn.tell_kept _ _ _ _)).registry]
    exact .inr ⟨_, _, .updateLink (typed revised.found) done⟩
  | activated => exact .inl (Turn.reevaluate_kept _ _).registry
  | policed _ _ changed | restricted _ _ changed | grounded _ _ changed =>
    exact .inl changed.registry
  | known | joined | left | deactivated | looked | counted => exact .inl rfl

theorem Reachable.registry (reached : b.Reachable) : b.registry.Reachable := by
  induction reached with
  | start settings keeps file => exact .new settings.duplicates
  | @accept b earlier i ends ih =>
    rcases b.accept_cases i with same | ⟨c, a, rfl, carried, _⟩ | ⟨l, _, there, dropped⟩
    · rw [same]
      exact ih
    · rcases carried.registry ends with same | ⟨id, netType, altered⟩
      · rw [same]
        exact ih
      · exact ih.altered altered
    · rw [dropped]
      exact ih
  | outlets _ _ ih => exact ih

theorem Reachable.settled (reached : b.Reachable) : b.matcher.Settled b.registry := by
  have matched := reached.matched
  refine (Matcher.settled_iff reached.orderly.suppliers).2 ⟨matched.elected, fun q r found => ?_⟩
  rw [← matched.elected]
  exact matched.settled q r found

end Broker

/-- Where everything is settled, one supplier changes or one request is new: then the scope that is
meant for that gives the same bindings, the same transitions and the same default as looking at
everything. -/
theorem Matcher.Settled.scope_suffices {r : Registry} (reached : r.Reachable) {m : Matcher}
    (settled : m.Settled r) :
    (∀ id netType s, r.Altered id netType s →
      m.reevaluate s (.supplier id netType) = m.reevaluate s .all) ∧
    ∀ kind specifier l,
      (m.activate kind specifier l).2.reevaluate r (.request (m.activate kind specifier l).1) =
        (m.activate kind specifier l).2.reevaluate r .all := by
  have each := ((Matcher.settled_iff reached.keyed).1 settled).2
  constructor
  · intro id netType s altered
    refine Matcher.reevaluate_eq_all (altered.keyed reached.keyed) (fun q x found outside own => ?_)
    -- Out of scope means asking for another type, whatever the request is bound to.
    have aside : x.specifier.concerns netType = false := (Bool.or_eq_false_iff.1 outside).2
    exact (each q x found).changedAt altered.changedAt own aside
  · intro kind specifier l
    refine Matcher.reevaluate_eq_all reached.keyed (fun q x found outside _ => ?_)
    have older : m.find? q = some x := by
      unfold Matcher.find? Matcher.activate at found
      rw [Table.find?_insert] at found
      split at found
      · cases found
        simp [Scope.covers, Matcher.activate] at outside
      · exact found
    exact each q x older

namespace Broker

def mixedRequests : Broker := firstNetwork.after [
  .command (.activate .listen { netType := some .cellular } 1),
  .command (.activate .trackDefault {} 1)]

theorem mixedRequests_reachable : mixedRequests.Reachable :=
  Reachable.after firstNetwork_reachable (by decide)

/-- The network goes down: the request for a cellular one is out of scope, the other two lose it. -/
theorem scope_suffices_mixedRequests :
    mixedRequests.registry.Reachable ∧ mixedRequests.matcher.Settled mixedRequests.registry ∧
      ∃ s, mixedRequests.registry.Altered 1 .wifi s ∧
        mixedRequests.matcher.reevaluate s (.supplier 1 .wifi) =
          mixedRequests.matcher.reevaluate s .all ∧
        (mixedRequests.matcher.reevaluate s (.supplier 1 .wifi)).transitions =
          [⟨1, some 1, none⟩, ⟨3, some 1, none⟩] := by
  have reached := mixedRequests_reachable.registry
  have settled := mixedRequests_reachable.settled
  have down : mixedRequests.registry.updateInfo 1 {} = .ok (⟨true, false⟩, _) := rfl
  have altered : mixedRequests.registry.Altered 1 .wifi _ := .updateInfo (by decide) down
  have enough := (Matcher.Settled.scope_suffices reached settled).1 1 .wifi _ altered
  exact ⟨reached, settled, _, altered, enough, by decide⟩

end Broker

end Connectivity
