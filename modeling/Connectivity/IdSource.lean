import Connectivity.Table
/-! Fresh ids. Ids are handed out in counting order; zero is never an id, and an id still in use is
passed over, which happens only once the count has run through all ids and started again. -/
namespace Connectivity

abbrev SupplierId := UInt32
abbrev RequestId := UInt32
abbrev ListenerId := UInt32
abbrev Uid := UInt32

structure IdSource where
  next : UInt32 := 1
  deriving DecidableEq, Inhabited

namespace IdSource

/-- The first usable id from `id` on, looking at no more than `tries` of them. -/
def seek (used : UInt32 → Bool) : Nat → UInt32 → UInt32
  | 0, id => id
  | tries + 1, id => if id ≠ 0 ∧ used id = false then id else seek used tries (id + 1)

/-- Among one more id than there are used ones and the zero, one is usable. -/
def take {α : Type} (s : IdSource) (used : Table α) : UInt32 × IdSource :=
  let id := seek used.contains (used.size + 1) s.next
  (id, ⟨id + 1⟩)

theorem take_of_fresh {α : Type} {s : IdSource} {used : Table α}
    (nonzero : s.next ≠ 0) (unused : used.contains s.next = false) :
    s.take used = (s.next, ⟨s.next + 1⟩) := by
  simp [take, seek, nonzero, unused]

end IdSource

end Connectivity
