import Connectivity.Proofs.Access
/-! Two answers about the background that are worked out apart. The last three of the rules are for it
alone: what they come to is what a uid's background policy says, and it decides wherever no rule before
them does. -/
namespace Connectivity

namespace PolicyBits
variable {p q mask : PolicyBits}

/-- The bits that settle what a uid may do on a metered network, wherever the uid is. -/
def decisive : PolicyBits :=
  rejectAll ||| allowAll ||| rejectMetered ||| allowMetered ||| temporaryAllowMetered

theorem hasAny_or (p mask other : PolicyBits) :
    p.hasAny (mask ||| other) = (p.hasAny mask || p.hasAny other) := by
  have spread : p &&& (mask ||| other) = p &&& mask ||| p &&& other :=
    UInt32.toBitVec_inj.1 (by simp only [UInt32.toBitVec_and, UInt32.toBitVec_or,
      BitVec.and_or_distrib_left])
  unfold hasAny
  rw [spread, Bool.eq_iff_iff]
  simp only [bne_iff_ne, ne_eq, UInt32.or_eq_zero_iff, Bool.or_eq_true,
    Classical.not_and_iff_not_or_not]

theorem hasAny_of_known (same : p &&& known = q &&& known) (part : known &&& mask = mask) :
    p.hasAny mask = q.hasAny mask := by
  unfold hasAny
  rw [and_of_known same part]

end PolicyBits

namespace Access

open PolicyBits
variable {a : Access}

def backgroundTier : List ((Access → Bool) × Bool) := rules.drop 7

theorem allowed_eq_verdict (a : Access) : a.allowed =
    if a.system then true
    else if a.policy.hasAny rejectAll then false
    else if a.policy.hasAny allowAll then true
    else if !a.metered then true
    else if a.policy.hasAny rejectMetered then false
    else if a.policy.hasAny (allowMetered ||| temporaryAllowMetered) then true
    else if !a.background then true
    else verdict backgroundTier a := by
  have tiers : a.allowed = verdict (rules.take 7 ++ backgroundTier) a := rfl
  simp only [tiers, rules, List.take_succ_cons, List.take_zero, List.cons_append, List.nil_append,
    verdict_cons]

theorem verdict_backgroundTier (a : Access) : verdict backgroundTier a =
    decide (BackgroundPolicy.ofPolicy a.policy a.restricted ≠ .enabled) := by
  have tier : verdict backgroundTier a =
      if a.policy.hasAny rejectMeteredBackground then false
      else if !a.restricted then true
      else if a.policy.hasAny allowMeteredBackground then true
      else false := by
    simp only [backgroundTier, rules, List.drop_succ_cons, List.drop_zero, verdict_cons]
    rfl
  rw [tier, BackgroundPolicy.ofPolicy]
  split
  · rfl
  · split
    · rfl
    · split <;> rfl

/-- What the policy says of all networks comes first, then whether this one is metered, then what the
policy says of those that are and where the uid is, and last its background policy. -/
theorem allowed_eq_tiers (ordinary : a.system = false) : a.allowed =
    if a.policy.hasAny rejectAll then false
    else if a.policy.hasAny allowAll || !a.metered || !a.policy.hasAny rejectMetered &&
        (a.policy.hasAny allowMetered || a.policy.hasAny temporaryAllowMetered || !a.background)
      then true
    else if a.policy.hasAny rejectMetered then false
    else decide (BackgroundPolicy.ofPolicy a.policy a.restricted ≠ .enabled) := by
  rw [allowed_eq_verdict, verdict_backgroundTier, hasAny_or, if_neg (by simp [ordinary])]
  by_cases barred : a.policy.hasAny rejectAll = true
  · rw [if_pos barred, if_pos barred]
  rw [if_neg barred, if_neg barred]
  by_cases free : a.policy.hasAny allowAll = true ∨ a.metered = false
  · rcases free with free | free <;> simp [free]
  simp only [not_or, Bool.not_eq_true, Bool.not_eq_false] at free
  by_cases rejected : a.policy.hasAny rejectMetered = true
  · simp [free, rejected]
  by_cases spared : a.policy.hasAny allowMetered = true ∨
      a.policy.hasAny temporaryAllowMetered = true ∨ a.background = false
  · rcases spared with spared | spared | spared <;> simp [free, rejected, spared]
  · simp only [not_or, Bool.not_eq_true, Bool.not_eq_false] at spared
    simp [free, rejected, spared]

/-- Only bits that have a name are looked at. -/
theorem allowed_of_known {q : PolicyBits} (same : q &&& known = a.policy &&& known) :
    { a with policy := q }.allowed = a.allowed := by
  have eases : a.Eases { a with policy := q } := ⟨rfl, relaxes_of_known same.symm, id, id, id⟩
  have eased : Eases { a with policy := q } a := ⟨rfl, relaxes_of_known same, id, id, id⟩
  exact Bool.eq_iff_iff.2 ⟨eased.allowed, eases.allowed⟩

end Access

theorem BackgroundPolicy.ofPolicy_of_known {p q : PolicyBits}
    (same : p &&& PolicyBits.known = q &&& PolicyBits.known) (restricted : Bool) :
    ofPolicy p restricted = ofPolicy q restricted := by
  unfold ofPolicy
  rw [PolicyBits.hasAny_of_known same rfl, PolicyBits.hasAny_of_known same rfl]

namespace Firewall

open PolicyBits
variable {f : Firewall} {uid : Uid}

/-- For a uid that is not the system's: a rejection or an allowance of everything decides first, then
what is said of metered networks, and a metered network in the background that nothing of this decides
is refused just when the background policy is enabled. Bits without a name are of no matter to either
answer. -/
theorem evaluators_agree (ordinary : f.isSystem uid = false) :
    let p := f.policy uid
    (∀ metered background, f.allowed uid metered background =
      if p.hasAny rejectAll then false
      else if p.hasAny allowAll || !metered || !p.hasAny rejectMetered &&
          (p.hasAny allowMetered || p.hasAny temporaryAllowMetered || !background) then true
      else if p.hasAny rejectMetered then false
      else decide (f.backgroundPolicy uid ≠ .enabled)) ∧
    (p.hasAny decisive = false →
      (f.backgroundPolicy uid = .enabled ↔ f.allowed uid true true = false)) ∧
    ∀ g : Firewall, g.isSystem uid = f.isSystem uid → g.restricted = f.restricted →
      g.policy uid &&& known = p &&& known →
      (∀ metered background, g.allowed uid metered background = f.allowed uid metered background) ∧
        g.backgroundPolicy uid = f.backgroundPolicy uid := by
  intro p
  have tiers : ∀ metered background, f.allowed uid metered background = _ :=
    fun metered background => Access.allowed_eq_tiers
      (a := ⟨f.isSystem uid, p, metered, background, f.restricted⟩) ordinary
  refine ⟨tiers, fun undecided => ?_, fun g system restricted same => ⟨?_, ?_⟩⟩
  · simp only [decisive, hasAny_or, Bool.or_eq_false_iff] at undecided
    rw [tiers]
    simp [undecided, backgroundPolicy, p]
  · intro metered background
    unfold allowed
    rw [system, restricted]
    exact Access.allowed_of_known (a := ⟨f.isSystem uid, p, metered, background, f.restricted⟩) same
  · unfold backgroundPolicy
    rw [restricted]
    exact BackgroundPolicy.ofPolicy_of_known same f.restricted

/-- Uid 10 is let use metered networks in the background and is not, and has a bit without a name. -/
def atOdds : Firewall := { policies := .ofList [(10, 133)] }

theorem evaluators_agree_atOdds :
    atOdds.isSystem 10 = false ∧ (atOdds.policy 10).hasAny decisive = false ∧
      atOdds.backgroundPolicy 10 = .enabled ∧ atOdds.allowed 10 true true = false ∧
      ∀ metered background, (atOdds.setPolicy 10 5).2.allowed 10 metered background =
        atOdds.allowed 10 metered background := by
  have ordinary : atOdds.isSystem 10 = false := by decide
  obtain ⟨-, enabled, unnamed⟩ := evaluators_agree ordinary
  have refused := (enabled (by decide)).1 (by decide)
  exact ⟨ordinary, by decide, by decide, refused,
    (unnamed (atOdds.setPolicy 10 5).2 (by decide) rfl (by decide)).1⟩

end Firewall

end Connectivity
