import Connectivity.Proofs.Durability
import Connectivity.Proofs.Policies
import Mathlib.Data.Finset.Card
/-! The policies are a function from uids, zero almost everywhere. Whatever was set and read, all that
can be asked of a firewall about policies is answered by that function, since zero is never stored. -/
namespace Connectivity

namespace Firewall

/-- The table shows the function: each uid's policy, how many are other than zero, and which of those
have all bits of a mask. -/
structure Tabulates (f : Firewall) (P : Uid → PolicyBits) : Prop where
  policy : ∀ u, f.policy u = P u
  support : ∃ uids : Finset Uid, (∀ u, u ∈ uids ↔ P u ≠ 0) ∧ f.policies.size = uids.card ∧
    (f.policies.isEmpty = true ↔ uids = ∅)
  ascending : ∀ mask, (f.uidsWith mask).Pairwise (· < ·)
  mem_uidsWith : ∀ mask u, u ∈ f.uidsWith mask ↔ P u ≠ 0 ∧ P u &&& mask = mask

variable {f : Firewall} (nonzero : ∀ u, f.policies.find? u ≠ some 0)
include nonzero

theorem find?_eq_some_iff_policy {u : Uid} {p : PolicyBits} :
    f.policies.find? u = some p ↔ p ≠ 0 ∧ f.policy u = p := by
  unfold policy
  cases found : f.policies.find? u with
  | none =>
    simp only [reduceCtorEq, Option.getD_none, false_iff, not_and]
    exact fun some zero => some zero.symm
  | some q =>
    simp only [Option.some.injEq, Option.getD_some]
    refine ⟨?_, And.right⟩
    rintro rfl
    exact ⟨fun zero => nonzero u (found.trans (congrArg some zero)), rfl⟩

theorem mem_keys_iff_policy {u : Uid} : u ∈ f.policies.keys ↔ f.policy u ≠ 0 := by
  rw [Table.mem_keys_iff, Table.contains_eq_true_iff]
  simp only [find?_eq_some_iff_policy nonzero]
  exact ⟨fun ⟨_, other, same⟩ => same ▸ other, fun other => ⟨_, other, rfl⟩⟩

theorem mem_uidsWith_iff {mask : PolicyBits} {u : Uid} :
    u ∈ f.uidsWith mask ↔ f.policy u ≠ 0 ∧ f.policy u &&& mask = mask := by
  rw [uidsWith, Table.mem_keys_iff, Table.contains_eq_true_iff]
  simp only [Table.find?_filter, Option.filter_eq_some_iff, find?_eq_some_iff_policy nonzero,
    PolicyBits.hasAll, beq_iff_eq]
  constructor
  · rintro ⟨_, ⟨other, rfl⟩, all⟩
    exact ⟨other, all⟩
  · exact fun ⟨other, all⟩ => ⟨_, ⟨other, rfl⟩, all⟩

theorem tabulates : f.Tabulates f.policy where
  policy _ := rfl
  support := by
    refine ⟨f.policies.keys.toFinset, fun u => ?_, ?_, ?_⟩
    · rw [List.mem_toFinset, mem_keys_iff_policy nonzero]
    · rw [List.toFinset_card_of_nodup f.policies.keys_nodup, Table.length_keys]
    · simp [Table.isEmpty, Table.keys]
  ascending _ := Table.keys_ascending _
  mem_uidsWith _ _ := mem_uidsWith_iff nonzero

end Firewall

namespace PolicyStore

/-- A store as it comes about: opened without policies, and then changed by setting and reading. The
file may be another's to change as well. -/
inductive Kept : PolicyStore → Prop where
  | opened {s : PolicyStore} (empty : s.firewall.policies = .empty) : Kept s
  | setPolicy {s : PolicyStore} (uid : Uid) (policy : PolicyBits) :
      Kept s → Kept (s.setPolicy uid policy).2
  | load {s : PolicyStore} : Kept s → Kept s.load.2
  | reopen {s : PolicyStore} (restricted : Bool) : Kept s → Kept (s.reopen restricted).2
  | rewritten {s : PolicyStore} (file : PolicyFile) : Kept s → Kept { s with file }

variable {s : PolicyStore}

theorem load_nonzero (nonzero : ∀ u, s.firewall.policies.find? u ≠ some 0) (u : Uid) :
    s.load.2.firewall.policies.find? u ≠ some 0 := by
  cases keeps : s.keeps with
  | true =>
    rw [load_policies keeps]
    exact PolicyFile.enteredInto_nonzero nonzero u
  | false =>
    have unread : s.load = (0, s) := by simp [PolicyStore.load, keeps]
    rw [unread]
    exact nonzero u

theorem Kept.nonzero (kept : Kept s) (u : Uid) : s.firewall.policies.find? u ≠ some 0 := by
  induction kept generalizing u with
  | opened empty => simp [empty, Table.find?_empty]
  | @setPolicy s uid policy kept ih =>
    rw [setPolicy_firewall]
    exact Firewall.setPolicy_nonzero ih uid policy u
  | load kept ih => exact load_nonzero ih u
  | reopen restricted kept ih =>
    exact load_nonzero (fun _ => by simp [Table.find?_empty]) u
  | rewritten file kept ih => exact ih u

/-- A file that says what it pleases is written only when the policy changes, and then it says what
the table does. -/
theorem file_setPolicy (s : PolicyStore) (uid : Uid) (policy : PolicyBits) :
    (s.firewall.policy uid = policy ∨ s.keeps = false ∨ s.file = .unusable →
      (s.setPolicy uid policy).2.file = s.file) ∧
    (s.firewall.policy uid ≠ policy → s.keeps = true → s.file ≠ .unusable →
      ∃ text, (s.setPolicy uid policy).2.file = .holds text ∧
        PolicyText.Written (s.setPolicy uid policy).2.firewall.policies text) := by
  constructor
  · rintro (same | unkept | unusable)
    · have unchanged : (s.setPolicy uid policy).1 = false := by
        simp [PolicyStore.setPolicy, Firewall.setPolicy, same]
      rw [setPolicy_unchanged uid policy unchanged]
    · simp only [PolicyStore.setPolicy]
      split <;> simp [save, unkept]
    · simp only [PolicyStore.setPolicy]
      split
      · cases s.keeps <;> simp [save, unusable]
      · rfl
  · intro other keeps usable
    have changed : (s.setPolicy uid policy).1 = true := bne_iff_ne.2 other
    rw [setPolicy_changed keeps usable uid policy changed]
    exact ⟨_, rfl, PolicyText.written_ofPolicies _⟩

/-- However a store has come about, its policies are a function: all that is asked about policies is
answered by it. Setting changes it at one uid, says truly whether it did, and only then writes the
file. Which uids are the system's is of no matter to any of this. -/
theorem policy_function (kept : Kept s) :
    ∃ P : Uid → PolicyBits, s.firewall.Tabulates P ∧ ∀ uid policy,
      ((s.setPolicy uid policy).1 = true ↔ P uid ≠ policy) ∧
      (s.setPolicy uid policy).2.firewall.Tabulates (Function.update P uid policy) ∧
      (P uid = policy ∨ s.keeps = false ∨ s.file = .unusable →
        (s.setPolicy uid policy).2.file = s.file) ∧
      (P uid ≠ policy → s.keeps = true → s.file ≠ .unusable →
        ∃ text, (s.setPolicy uid policy).2.file = .holds text ∧
          PolicyText.Written (s.setPolicy uid policy).2.firewall.policies text) ∧
      ∀ ids, (PolicyStore.setPolicy { s with firewall := { s.firewall with system := ids } }
          uid policy).2.firewall.policies = (s.setPolicy uid policy).2.firewall.policies := by
  refine ⟨s.firewall.policy, Firewall.tabulates kept.nonzero, fun uid policy => ?_⟩
  have updated : (s.setPolicy uid policy).2.firewall.policy =
      Function.update s.firewall.policy uid policy := by
    funext u
    rw [setPolicy_firewall, Firewall.policy_setPolicy, Function.update_apply]
  refine ⟨bne_iff_ne, ?_, (file_setPolicy s uid policy).1, (file_setPolicy s uid policy).2,
    fun ids => ?_⟩
  · rw [← updated]
    exact Firewall.tabulates (kept.setPolicy uid policy).nonzero
  · rw [setPolicy_firewall, setPolicy_firewall]
    rfl

/-- A store that read what could be read in a patchwork, with one policy set, taken back, and one for
a uid of the system. -/
def tended : PolicyStore :=
  (((patchworkLoaded.setPolicy 12 6).2.setPolicy 12 0).2.setPolicy 0 5).2

theorem kept_tended : Kept tended :=
  (((Kept.opened rfl).load.setPolicy 12 6).setPolicy 12 0).setPolicy 0 5

theorem tended_firewall : tended.firewall = { policies := .ofList [(0, 5), (1, 4)] } := by
  rw [tended, setPolicy_firewall, setPolicy_firewall, setPolicy_firewall, patchworkLoaded_firewall]
  rfl

theorem policy_function_tended :
    Kept tended ∧ ∃ P : Uid → PolicyBits, tended.firewall.Tabulates P ∧
      P 0 = 5 ∧ P 1 = 4 ∧ P 12 = 0 ∧ tended.firewall.uidsWith 0 = [0, 1] ∧
      tended.firewall.uidsWith 1 = [0] := by
  obtain ⟨P, shows, -⟩ := policy_function kept_tended
  refine ⟨kept_tended, P, shows, ?_⟩
  simp only [← shows.policy, tended_firewall]
  decide +kernel

end PolicyStore

end Connectivity
