import Connectivity.Firewall.Table
import Connectivity.Proofs.Turn
/-! A policy that allows more and rejects less costs nobody access. Rules that allow and rules that
reject alternate, but each can only come to apply, or cease to, in the direction of its own verdict. -/
namespace Connectivity

namespace PolicyBits
variable {p q mask within : PolicyBits}

def allowing : PolicyBits :=
  allowAll ||| allowMetered ||| temporaryAllowMetered ||| allowMeteredBackground

def rejecting : PolicyBits := rejectAll ||| rejectMetered ||| rejectMeteredBackground

def known : PolicyBits := allowing ||| rejecting

/-- `q` allows all that `p` does and rejects nothing that `p` does not. Other bits may be anything. -/
structure Relaxes (p q : PolicyBits) : Prop where
  allows : q.hasAll (p &&& allowing) = true
  rejects : p.hasAll (q &&& rejecting) = true

instance (p q : PolicyBits) : Decidable (p.Relaxes q) :=
  decidable_of_iff (q.hasAll (p &&& allowing) = true ∧ p.hasAll (q &&& rejecting) = true)
    ⟨fun both => ⟨both.1, both.2⟩, fun relaxes => ⟨relaxes.allows, relaxes.rejects⟩⟩

theorem hasAny_of_hasAll (covered : q.hasAll (p &&& within) = true) (part : within &&& mask = mask)
    (has : p.hasAny mask = true) : q.hasAny mask = true := by
  have kept : q &&& (p &&& within) = p &&& within := eq_of_beq covered
  have carried : p &&& mask = p &&& (q &&& mask) := by
    calc p &&& mask = p &&& within &&& mask := by rw [UInt32.and_assoc, part]
      _ = q &&& (p &&& within) &&& mask := by rw [kept]
      _ = p &&& (q &&& (within &&& mask)) := by
        rw [← UInt32.and_assoc q, UInt32.and_comm q, UInt32.and_assoc, UInt32.and_assoc]
      _ = p &&& (q &&& mask) := by rw [part]
  unfold hasAny at has ⊢
  rw [bne_iff_ne] at has ⊢
  intro none
  rw [carried, none] at has
  exact has UInt32.and_zero

theorem Relaxes.hasAny (relaxes : p.Relaxes q) (allows : allowing &&& mask = mask)
    (has : p.hasAny mask = true) : q.hasAny mask = true :=
  hasAny_of_hasAll relaxes.allows allows has

theorem Relaxes.hadAny (relaxes : p.Relaxes q) (rejects : rejecting &&& mask = mask)
    (has : q.hasAny mask = true) : p.hasAny mask = true :=
  hasAny_of_hasAll relaxes.rejects rejects has

theorem and_of_known (same : p &&& known = q &&& known) (part : known &&& mask = mask) :
    p &&& mask = q &&& mask := by
  rw [← part, ← UInt32.and_assoc, ← UInt32.and_assoc, same]

theorem hasAll_of_known (same : p &&& known = q &&& known) (part : known &&& mask = mask) :
    q.hasAll (p &&& mask) = true := by
  unfold hasAll
  rw [and_of_known same part, ← UInt32.and_assoc, UInt32.and_self, beq_self_eq_true]

/-- Between policies with the same known bits there is nothing to choose. -/
theorem relaxes_of_known (same : p &&& known = q &&& known) : p.Relaxes q where
  allows := hasAll_of_known same rfl
  rejects := hasAll_of_known same.symm rfl

end PolicyBits

namespace Access
variable {a c : Access}

/-- The verdict of the first rule that applies; a refusal if none does. -/
def verdict (rules : List ((Access → Bool) × Bool)) (a : Access) : Bool :=
  ((rules.find? (fun r => r.1 a)).map (·.2)).getD false

theorem verdict_cons (r : (Access → Bool) × Bool) (rest : List ((Access → Bool) × Bool)) :
    verdict (r :: rest) a = if r.1 a then r.2 else verdict rest a := by
  unfold verdict
  rw [List.find?_cons]
  split <;> simp_all

/-- From `a` to `c` a rule that allows does not cease to apply, and one that rejects does not come to. -/
def Favoured (a c : Access) (r : (Access → Bool) × Bool) : Prop :=
  if r.2 then r.1 a = true → r.1 c = true else r.1 c = true → r.1 a = true

theorem verdict_mono {rules : List ((Access → Bool) × Bool)} (favoured : ∀ r ∈ rules, Favoured a c r)
    (allowed : verdict rules a = true) : verdict rules c = true := by
  induction rules with
  | nil => exact allowed
  | cons r rest ih =>
    have first := favoured r List.mem_cons_self
    have later := ih (fun s listed => favoured s (List.mem_cons_of_mem r listed))
    rw [verdict_cons] at allowed ⊢
    unfold Favoured at first
    cases here : r.2 with
    | true =>
      rw [if_pos here] at first
      by_cases applies : r.1 a = true
      · rw [if_pos (first applies)]
      · rw [if_neg applies] at allowed
        rw [later allowed, ite_self]
    | false =>
      rw [if_neg (by simp [here])] at first
      by_cases applies : r.1 a = true
      · rw [if_pos applies, here] at allowed
        cases allowed
      · rw [if_neg applies] at allowed
        rw [if_neg (mt first applies)]
        exact later allowed

/-- Less metered, less in the background, less restricted and under a looser policy. -/
structure Eases (a c : Access) : Prop where
  system : c.system = a.system
  policy : a.policy.Relaxes c.policy
  metered : c.metered = true → a.metered = true
  background : c.background = true → a.background = true
  restricted : c.restricted = true → a.restricted = true

theorem Eases.allowed (eases : a.Eases c) (allowed : a.allowed = true) : c.allowed = true := by
  have lifted {x y : Bool} (lower : y = true → x = true) (off : (!x) = true) : (!y) = true := by
    cases y with
    | false => rfl
    | true => simp [lower rfl] at off
  suffices favoured : ∀ r ∈ rules, Favoured a c r from verdict_mono favoured allowed
  intro r listed
  simp only [rules, List.mem_cons, List.not_mem_nil, or_false] at listed
  rcases listed with rfl | rfl | rfl | rfl | rfl | rfl | rfl | rfl | rfl | rfl
  · exact fun system => eases.system.trans system
  · exact eases.policy.hadAny rfl
  · exact eases.policy.hasAny rfl
  · exact lifted eases.metered
  · exact eases.policy.hadAny rfl
  · exact eases.policy.hasAny rfl
  · exact lifted eases.background
  · exact eases.policy.hadAny rfl
  · exact lifted eases.restricted
  · exact eases.policy.hasAny rfl

end Access

namespace Firewall
variable {f g : Firewall}

/-- Under `g` no uid has a stricter policy, or is more in the background, or more restricted there. -/
structure Eases (f g : Firewall) : Prop where
  system : g.system = f.system
  policy : ∀ u, (f.policy u).Relaxes (g.policy u)
  background : ∀ u, g.isBackground u = true → f.isBackground u = true
  restricted : g.restricted = true → f.restricted = true

theorem Eases.allowed (eases : f.Eases g) {u : Uid} {metered before after : Bool}
    (background : after = true → before = true) (allowed : f.allowed u metered before = true) :
    g.allowed u metered after = true := by
  have system : g.isSystem u = f.isSystem u := congrArg (·.contains u) eases.system
  have access : Access.Eases
      { system := f.isSystem u, policy := f.policy u, metered, background := before
        restricted := f.restricted }
      { system := g.isSystem u, policy := g.policy u, metered, background := after
        restricted := g.restricted } :=
    ⟨system, eases.policy u, id, background, eases.restricted⟩
  exact access.allowed allowed

theorem Eases.admits (eases : f.Eases g) {u : Uid} {metered : Bool}
    (admits : f.admits u metered = true) : g.admits u metered = true :=
  eases.allowed (eases.background u) admits

theorem Eases.antisymm (eases : f.Eases g) (back : g.Eases f) (u : Uid)
    (metered background : Bool) : g.allowed u metered background = f.allowed u metered background := by
  apply Bool.eq_iff_iff.2
  constructor
  · exact back.allowed id
  · exact eases.allowed id

end Firewall

end Connectivity
