import Connectivity.IdSource
import Connectivity.Table.Lemmas
/-! The search for a fresh id succeeds whenever there is one. The ids looked at are distinct, and
one more than there are used ones and the zero. -/
namespace Connectivity

/-- Some id is free: zero is none, so there are 2^32 - 1 ids. -/
def Table.HasRoom {α : Type} (t : Table α) : Prop := t.size < 0xFFFFFFFF

instance {α : Type} (t : Table α) : Decidable t.HasRoom :=
  inferInstanceAs (Decidable (t.size < 0xFFFFFFFF))

namespace IdSource
variable {α : Type}

/-- Where nothing usable is met, every id looked at before the last one is zero or used. -/
theorem seek_stopped (used : UInt32 → Bool) (tries : Nat) (id : UInt32)
    (unusable : seek used tries id = 0 ∨ used (seek used tries id) = true) :
    ∀ i, i ≤ tries → id + UInt32.ofNat i = 0 ∨ used (id + UInt32.ofNat i) = true := by
  induction tries generalizing id with
  | zero =>
    intro i hi
    have start : i = 0 := Nat.le_zero.1 hi
    subst start
    simpa [seek] using unusable
  | succ tries ih =>
    unfold seek at unusable
    split at unusable
    · rename_i usable
      simp_all
    · rename_i taken
      intro i hi
      cases i with
      | zero =>
        have looked : id = 0 ∨ used id = true := by
          by_cases zero : id = 0
          · exact .inl zero
          · exact .inr (by simpa [zero] using taken)
        simpa using looked
      | succ i =>
        have later := ih (id + 1) unusable i (Nat.le_of_succ_le_succ hi)
        have next : id + UInt32.ofNat (i + 1) = id + 1 + UInt32.ofNat i := by
          rw [UInt32.ofNat_add, UInt32.add_comm (UInt32.ofNat i), UInt32.add_assoc]; rfl
        rwa [next]

theorem offset_injective (id : UInt32) {i j : Nat} (hi : i < UInt32.size) (hj : j < UInt32.size)
    (same : id + UInt32.ofNat i = id + UInt32.ofNat j) : i = j := by
  have offsets : UInt32.ofNat i = UInt32.ofNat j := by
    have := congrArg (fun x => x - id) same
    simpa only [UInt32.add_comm id, UInt32.add_sub_cancel] using this
  have values := congrArg UInt32.toNat offsets
  rwa [UInt32.toNat_ofNat_of_lt' hi, UInt32.toNat_ofNat_of_lt' hj] at values

theorem seek_usable {used : Table α} (room : used.HasRoom) (id : UInt32) :
    seek used.contains (used.size + 1) id ≠ 0 ∧
      used.contains (seek used.contains (used.size + 1) id) = false := by
  apply Classical.byContradiction
  intro unusable
  have stopped := seek_stopped used.contains (used.size + 1) id
    (by simpa [Classical.or_iff_not_imp_left] using unusable)
  let seen := (List.range (used.size + 2)).map (fun i => id + UInt32.ofNat i)
  have small : used.size + 2 ≤ UInt32.size := Nat.succ_le_succ room
  have distinct : seen.Nodup := by
    refine List.pairwise_map.2 (List.nodup_range.imp_of_mem ?_)
    intro i j hi hj different same
    have hi := List.mem_range.1 hi
    have hj := List.mem_range.1 hj
    exact different
      (offset_injective id (Nat.lt_of_lt_of_le hi small) (Nat.lt_of_lt_of_le hj small) same)
  have covered : seen ⊆ 0 :: used.keys := by
    intro k hk
    obtain ⟨i, hi, rfl⟩ := List.mem_map.1 hk
    rcases stopped i (Nat.le_of_lt_succ (List.mem_range.1 hi)) with zero | taken
    · exact zero ▸ List.mem_cons_self
    · exact List.mem_cons_of_mem 0 (Table.mem_keys_iff.2 taken)
  have count := distinct.length_le_of_subset covered
  simp only [seen, List.length_map, List.length_range, List.length_cons, Table.length_keys] at count
  omega

theorem take_fresh (s : IdSource) {used : Table α} (room : used.HasRoom) :
    (s.take used).1 ≠ 0 ∧ used.contains (s.take used).1 = false := seek_usable room s.next

end IdSource

end Connectivity
