import Connectivity.Proofs.Scope
import Connectivity.Registry.Step
/-! Looking again settles what it looks at in one pass. Whatever was looked at before, in parts and
in whatever order, looking at everything comes to the same bindings; and what is reported of a pass
is just what it changed. No matcher has to be settled for that, nor does a scope have to name a
supplier that there is. -/
namespace Connectivity

namespace ActiveRequest
variable {r : ActiveRequest} {candidates : List Candidate} {default : Option SupplierId}
  {scope : Scope}

def revisited (r : ActiveRequest) (candidates : List Candidate) (default : Option SupplierId)
    (scope : Scope) : ActiveRequest := { r with bound := r.nextBinding candidates default scope }

def Fixed (r : ActiveRequest) (candidates : List Candidate) (default : Option SupplierId) : Prop :=
  ∀ scope, r.nextBinding candidates default scope = r.bound

theorem fixed_of_track (track : r.kind = .trackDefault) (scope : Scope) :
    (r.revisited candidates default scope).Fixed candidates default := by
  intro again
  have same : r.nextBinding candidates default scope = default := nextBinding_track track candidates
  have follows : (r.revisited candidates default scope).kind = .trackDefault := track
  rw [nextBinding_track follows, revisited, same]

theorem fixed_of_covered (own : r.kind ≠ .trackDefault) (covered : scope.covers r = true) :
    (r.revisited candidates default scope).Fixed candidates default := by
  intro again
  have next : r.nextBinding candidates default scope = _ :=
    nextBinding_covered own covered candidates
  have same : (r.revisited candidates default scope).kind ≠ .trackDefault := own
  cases still : again.covers (r.revisited candidates default scope) with
  | false => exact nextBinding_aside same still candidates
  | true =>
    rw [nextBinding_covered same still]
    split
    · rfl
    · -- what does not serve after the pass was chosen by it, and is chosen again
      rename_i unfit
      simp only [revisited] at unfit ⊢
      rw [next] at unfit ⊢
      split
      · rename_i serves
        rw [if_pos serves] at unfit
        exact absurd serves unfit
      · rfl

/-- What a scope does not leave as it is, it brings to rest. -/
theorem revisited_cases (r : ActiveRequest) (candidates : List Candidate)
    (default : Option SupplierId) (scope : Scope) :
    r.revisited candidates default scope = r ∨
      (r.revisited candidates default scope).Fixed candidates default ∧
        r.revisited candidates default scope = r.revisited candidates default .all := by
  by_cases track : r.kind = .trackDefault
  · refine .inr ⟨fixed_of_track track scope, ?_⟩
    simp only [revisited, nextBinding_track track]
  · cases covered : scope.covers r with
    | false =>
      left
      rw [revisited, nextBinding_aside track covered]
    | true =>
      refine .inr ⟨fixed_of_covered track covered, ?_⟩
      have all : Scope.all.covers r = true := rfl
      simp only [revisited, nextBinding_covered track covered, nextBinding_covered track all]

theorem Fixed.revisited (fixed : r.Fixed candidates default) (scope : Scope) :
    r.revisited candidates default scope = r := by
  rw [ActiveRequest.revisited, fixed scope]

theorem revisited_again (r : ActiveRequest) (candidates : List Candidate)
    (default : Option SupplierId) (scope : Scope) :
    (r.revisited candidates default scope).revisited candidates default scope =
      r.revisited candidates default scope := by
  rcases r.revisited_cases candidates default scope with same | ⟨fixed, _⟩
  · rw [same, same]
  · exact fixed.revisited scope

/-- Whatever was looked at before, looking at everything comes to the same. -/
theorem revisited_all (r : ActiveRequest) (candidates : List Candidate)
    (default : Option SupplierId) (scope : Scope) :
    (r.revisited candidates default scope).revisited candidates default .all =
      r.revisited candidates default .all := by
  rcases r.revisited_cases candidates default scope with same | ⟨fixed, all⟩
  · rw [same]
  · rw [fixed.revisited .all, all]

end ActiveRequest

namespace Matcher
variable {m : Matcher}

theorem elect_change (m : Matcher) (registry : Registry) :
    (m.elect registry).1 = if (m.elect registry).2.default = m.default then none
      else some ⟨m.default, (m.elect registry).2.default⟩ := by
  rw [elect_default, elect, apply_ite Prod.fst]

theorem elect_ids (m : Matcher) (registry : Registry) : (m.elect registry).2.ids = m.ids := by
  unfold elect
  dsimp only
  split <;> rfl

theorem reevaluate_matcher (m : Matcher) (registry : Registry) (scope : Scope) :
    (m.reevaluate registry scope).matcher =
      { m with
        requests := m.requests.mapValues (fun _ r =>
          r.revisited registry.candidates (selectBest registry.candidates {}) scope)
        default := selectBest registry.candidates {} } := by
  simp only [reevaluate, elect_requests, elect_default, elect_ids, ActiveRequest.revisited]

theorem reevaluate_revisited (m : Matcher) (registry : Registry) (scope : Scope) (q : RequestId) :
    (m.reevaluate registry scope).matcher.find? q = (m.find? q).map (fun r =>
      r.revisited registry.candidates (selectBest registry.candidates {}) scope) :=
  m.reevaluate_find? registry scope q

theorem mem_transitions_iff (m : Matcher) (registry : Registry) (scope : Scope) (t : Transition) :
    t ∈ (m.reevaluate registry scope).transitions ↔
      ∃ q r s, m.find? q = some r ∧ (m.reevaluate registry scope).matcher.find? q = some s ∧
        s.bound ≠ r.bound ∧ t = ⟨r.id, r.bound, s.bound⟩ := by
  simp only [reevaluate_revisited]
  simp only [reevaluate, elect_requests, elect_default, List.mem_filterMap, Table.mem_values_iff]
  constructor
  · rintro ⟨r, ⟨q, found⟩, moved⟩
    split at moved
    · cases moved
    · rename_i differs
      have here : m.find? q = some r := found
      refine ⟨q, r, r.revisited registry.candidates _ scope, here, ?_, differs, ?_⟩
      · rw [here]
        rfl
      · exact (Option.some.inj moved).symm
  · rintro ⟨q, r, s, found, after, differs, rfl⟩
    rw [found] at after
    cases after
    exact ⟨r, ⟨q, found⟩, if_neg differs⟩

theorem transitions_ascending (keyed : m.Keyed) (registry : Registry) (scope : Scope) :
    (m.reevaluate registry scope).transitions.Pairwise (fun s t => s.request < t.request) := by
  have ids : (m.requests.values.map (·.id)).Pairwise (· < ·) := by
    rw [← Table.keys_eq_map keyed]
    exact m.requests.keys_ascending
  simp only [reevaluate, elect_requests, elect_default, List.pairwise_filterMap]
  refine (List.pairwise_map.1 ids).imp (fun {r s} less t ht u hu => ?_)
  split at ht
  · cases ht
  · split at hu
    · cases hu
    · cases ht
      cases hu
      exact less

/-- Where the default is the best there is and nothing moves, a pass does nothing and reports
nothing. -/
theorem reevaluate_of_still {registry : Registry} {scope : Scope}
    (elected : m.default = selectBest registry.candidates {})
    (still : ∀ q r, m.find? q = some r →
      r.revisited registry.candidates (selectBest registry.candidates {}) scope = r) :
    m.reevaluate registry scope = ⟨m, [], none⟩ := by
  have matcher : (m.reevaluate registry scope).matcher = m := by
    rw [reevaluate_matcher, Table.mapValues_eq_self still, ← elected]
  have transitions : (m.reevaluate registry scope).transitions = [] := by
    apply List.eq_nil_iff_forall_not_mem.2
    intro t listed
    obtain ⟨q, r, s, found, after, differs, _⟩ := (m.mem_transitions_iff registry scope t).1 listed
    rw [matcher] at after
    cases found.symm.trans after
    exact differs rfl
  have change : (m.reevaluate registry scope).defaultChange = none :=
    elect_change_eq_none_iff.2 elected
  calc m.reevaluate registry scope
    _ = ⟨(m.reevaluate registry scope).matcher, (m.reevaluate registry scope).transitions,
        (m.reevaluate registry scope).defaultChange⟩ := rfl
    _ = ⟨m, [], none⟩ := by rw [matcher, transitions, change]

theorem reevaluate_twice (m : Matcher) (registry : Registry) (scope : Scope) :
    (m.reevaluate registry scope).matcher.reevaluate registry scope =
      ⟨(m.reevaluate registry scope).matcher, [], none⟩ := by
  refine reevaluate_of_still (m.reevaluate_default registry scope) (fun q s found => ?_)
  rw [reevaluate_revisited, Option.map_eq_some_iff] at found
  obtain ⟨r, _, rfl⟩ := found
  exact r.revisited_again registry.candidates _ scope

theorem reevaluate_all_after (m : Matcher) (registry : Registry) (scope : Scope) :
    ((m.reevaluate registry scope).matcher.reevaluate registry .all).matcher =
      (m.reevaluate registry .all).matcher := by
  simp only [reevaluate_matcher, mk.injEq, and_true]
  apply Table.ext_find?
  intro q
  simp only [Table.find?_mapValues, Option.map_map, Function.comp_def, ActiveRequest.revisited_all]

def sweep (m : Matcher) (registry : Registry) (scopes : List Scope) : Matcher :=
  scopes.foldl (fun m scope => (m.reevaluate registry scope).matcher) m

theorem reevaluate_all_of_sweep (m : Matcher) (registry : Registry) (scopes : List Scope) :
    ((m.sweep registry scopes).reevaluate registry .all).matcher =
      (m.reevaluate registry .all).matcher := by
  induction scopes generalizing m with
  | nil => rfl
  | cons scope rest ih => exact (ih _).trans (m.reevaluate_all_after registry scope)

/-- A pass reports each binding that it moved once, ascending by request, and the default if that
moved; it leaves all else as it was; a second pass finds nothing to do; and after passes of any
scopes in any order, looking at everything comes to what it would have come to without them. -/
theorem reevaluate_converges (m : Matcher) (registry : Registry) (scope : Scope) :
    let pass := m.reevaluate registry scope
    ((∀ t, t ∈ pass.transitions ↔ ∃ q r s, m.find? q = some r ∧ pass.matcher.find? q = some s ∧
        s.bound ≠ r.bound ∧ t = ⟨r.id, r.bound, s.bound⟩) ∧
      (m.Keyed → pass.transitions.Pairwise (fun s t => s.request < t.request))) ∧
    (pass.defaultChange = if pass.matcher.default = m.default then none
      else some ⟨m.default, pass.matcher.default⟩) ∧
    (pass.matcher.ids = m.ids ∧ (∀ q, pass.matcher.find? q = none ↔ m.find? q = none) ∧
      ∀ q r s, m.find? q = some r → pass.matcher.find? q = some s →
        s = { r with bound := s.bound }) ∧
    pass.matcher.reevaluate registry scope = ⟨pass.matcher, [], none⟩ ∧
    ∀ scopes, ((m.sweep registry scopes).reevaluate registry .all).matcher =
      (m.reevaluate registry .all).matcher := by
  intro pass
  refine ⟨⟨m.mem_transitions_iff registry scope,
      fun keyed => transitions_ascending keyed registry scope⟩, m.elect_change registry,
    ⟨?_, fun q => ?_, fun q r s found after => ?_⟩, m.reevaluate_twice registry scope,
    m.reevaluate_all_of_sweep registry⟩
  · exact congrArg (·.ids) (m.reevaluate_matcher registry scope)
  · rw [m.reevaluate_revisited registry scope q, Option.map_eq_none_iff]
  · rw [m.reevaluate_revisited registry scope q, found] at after
    cases after
    rfl

/-- The first request is bound to a supplier that is gone, the second to one that is there and
serves it, and the third does not follow the default. -/
def unsettled : Matcher :=
  { requests := .ofList [
      (1, { id := 1, kind := .request, specifier := {}, listener := 1, bound := some 9 }),
      (2, { id := 2, kind := .listen, specifier := {}, listener := 1, bound := some 1 }),
      (3, { id := 3, kind := .trackDefault, specifier := {}, listener := 1, bound := some 9 })]
    default := some 9 }

/-- Looking for a supplier that is gone, of a type that it was not, moves what was bound to it and
what follows the default. The passes before make no difference to the last. -/
theorem reevaluate_converges_unsettled :
    let registry := ({} : Registry).run [
      .register .wifi "lan" ⟨0⟩,
      .updateInfo 1 { isAvailable := true }]
    unsettled.Keyed ∧
      (unsettled.reevaluate registry (.supplier 9 .vpn)).transitions.Pairwise
        (fun s t => s.request < t.request) ∧
      ⟨3, some 9, some 1⟩ ∈ (unsettled.reevaluate registry (.supplier 9 .vpn)).transitions ∧
      ((unsettled.sweep registry [.request 2, .supplier 9 .vpn]).reevaluate registry .all).matcher =
        (unsettled.reevaluate registry .all).matcher := by
  intro registry
  have each : ∀ e ∈ unsettled.requests.entries, e.2.id = e.1 := by decide
  have keyed : unsettled.Keyed := fun q r found => each (q, r) (Table.find?_eq_some_iff.1 found)
  obtain ⟨⟨moved, ascending⟩, _, _, _, converges⟩ :=
    unsettled.reevaluate_converges registry (.supplier 9 .vpn)
  exact ⟨keyed, ascending keyed, (moved _).2 ⟨3, _, _, rfl, rfl, by decide, rfl⟩, converges _⟩

end Matcher

end Connectivity
