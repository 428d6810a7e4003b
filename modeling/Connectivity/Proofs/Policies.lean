import Connectivity.Proofs.Turn
/-! What becomes of access when policies change. A policy or background state of one uid is of no
matter to any other, and setting what was set already is of no matter to anyone. -/
namespace Connectivity

namespace Firewall

theorem policy_setPolicy (f : Firewall) (uid : Uid) (policy : PolicyBits) (u : Uid) :
    (f.setPolicy uid policy).2.policy u = if u = uid then policy else f.policy u := by
  unfold setPolicy Firewall.policy
  dsimp only
  split
  · rename_i zero
    rw [Table.find?_erase]
    split <;> simp [zero]
  · rw [Table.find?_insert]
    split <;> rfl

theorem isBackground_setBackground (f : Firewall) (uid : Uid) (background : Bool) (u : Uid) :
    (f.setBackground uid background).2.isBackground u =
      if u = uid then background else f.isBackground u := by
  unfold setBackground isBackground
  dsimp only
  cases background with
  | true =>
    rw [if_pos rfl, IdSet.contains_insert]
    split <;> simp_all
  | false =>
    rw [if_neg (by decide), Table.contains_erase]
    split <;> simp_all

/-- Access is decided by the policy and the background state of the uid, and by the restriction. -/
theorem admits_congr {f g : Firewall} {u : Uid} (system : g.system = f.system)
    (policy : g.policy u = f.policy u) (background : g.isBackground u = f.isBackground u)
    (restricted : g.restricted = f.restricted) (metered : Bool) :
    g.admits u metered = f.admits u metered := by
  unfold admits allowed isSystem
  rw [system, policy, background, restricted]

end Firewall

theorem Hub.listenersOf_contains {h : Hub} {uid : Uid} {l : ListenerId} :
    (h.listenersOf uid).contains l = true ↔ h.uid? l = some uid := by
  rw [List.contains_iff_mem, listenersOf, Table.mem_keys_iff, Table.contains_eq_true_iff, uid?]
  simp only [Table.find?_filter, Option.filter_eq_some_iff, Option.map_eq_some_iff, beq_iff_eq]

namespace Broker
variable {b : Broker}

/-- A change of policies. It decides nothing about who may see what, or those are told for whom it
might. -/
inductive Repoliced (b : Broker) : Turn → Prop where
  | idle {store : PolicyStore}
      (access : ∀ u metered, store.firewall.admits u metered = b.firewall.admits u metered) :
      Repoliced b { b with store }.begin
  | told {store : PolicyStore} {who : ActiveRequest → Bool}
      (access : ∀ r, who r = false → ∀ u, b.hub.uid? r.listener = some u → ∀ metered,
        store.firewall.admits u metered = b.firewall.admits u metered) :
      Repoliced b ({ b with store }.begin.announce who).reelect

theorem Repoliced.registry {t : Turn} (changed : b.Repoliced t) :
    t.broker.registry = b.registry := by
  cases changed with
  | idle => rfl
  | told => exact ((Turn.announce_kept _ _).trans (Turn.reelect_kept _)).registry

theorem repoliced_refresh {store : PolicyStore} {uid : Uid}
    (access : ∀ u, u ≠ uid → ∀ metered,
      store.firewall.admits u metered = b.firewall.admits u metered) :
    b.Repoliced ({ b with store }.begin.refresh uid) := by
  refine .told (fun r foreign u owner => access u ?_)
  intro same
  have listed : (b.hub.listenersOf uid).contains r.listener = true :=
    Hub.listenersOf_contains.2 (same ▸ owner)
  exact Bool.noConfusion (foreign.symm.trans listed)

theorem repoliced_setUidPolicy (uid : Uid) (policy : PolicyBits) :
    b.Repoliced (b.setUidPolicy uid policy).2 := by
  have firewall := b.store.setPolicy_firewall uid policy
  have given : ∀ u, (b.store.setPolicy uid policy).2.firewall.policy u =
      if u = uid then policy else b.firewall.policy u := by
    intro u
    rw [firewall, Firewall.policy_setPolicy]
    rfl
  have access : ∀ u, (u = uid → policy = b.firewall.policy u) → ∀ metered,
      (b.store.setPolicy uid policy).2.firewall.admits u metered = b.firewall.admits u metered := by
    intro u agrees
    refine Firewall.admits_congr ?_ ?_ ?_ ?_
    · rw [firewall]; rfl
    · rw [given]
      split
      · rename_i here
        exact agrees here
      · rfl
    · rw [firewall]; rfl
    · rw [firewall]; rfl
  unfold setUidPolicy
  dsimp only
  split
  · exact repoliced_refresh (fun u other => access u (fun here => absurd here other))
  · rename_i unchanged
    have same : b.store.firewall.policy uid = policy := by
      simpa [PolicyStore.setPolicy, Firewall.setPolicy] using unchanged
    exact .idle (fun u => access u (fun here => here ▸ same.symm))

theorem repoliced_setUidBackground (uid : Uid) (background : Bool) :
    b.Repoliced (b.setUidBackground uid background).2 := by
  have known := b.firewall.isBackground_setBackground uid background
  unfold setUidBackground
  dsimp only
  split
  · refine repoliced_refresh (fun u other => Firewall.admits_congr rfl rfl ?_ rfl)
    exact (known u).trans (if_neg other)
  · rename_i unchanged
    have same : b.firewall.isBackground uid = background := by
      simpa [Firewall.setBackground] using unchanged
    refine .idle (fun u => Firewall.admits_congr rfl rfl ((known u).trans ?_) rfl)
    split
    · rename_i here
      rw [here, same]
    · rfl

theorem repoliced_setBackgroundPolicy (restricted : Bool) :
    b.Repoliced (b.setBackgroundPolicy restricted).2 := by
  unfold setBackgroundPolicy
  dsimp only
  split
  · exact .told (fun _ nobody => Bool.noConfusion nobody)
  · rename_i unchanged
    have same : b.firewall.restricted = restricted := by
      simpa [Firewall.setRestricted] using unchanged
    exact .idle (fun u => Firewall.admits_congr rfl rfl rfl same.symm)

end Broker

end Connectivity
