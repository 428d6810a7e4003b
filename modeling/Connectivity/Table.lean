/-! Tables from ids to values, kept ascending by id. The order is part of the type, so a table is
determined by what it holds under each id. -/
namespace Connectivity

structure Table (α : Type) where
  entries : List (UInt32 × α)
  ascending : entries.Pairwise (fun a b => a.1 < b.1)

namespace Table

variable {α β : Type}

instance [DecidableEq α] : DecidableEq (Table α) := fun s t =>
  if h : s.entries = t.entries then
    .isTrue (by cases s; cases t; simp_all)
  else
    .isFalse (fun e => h (congrArg entries e))

def empty : Table α := ⟨[], .nil⟩

instance : Inhabited (Table α) := ⟨empty⟩

def find? (t : Table α) (k : UInt32) : Option α := t.entries.lookup k
def contains (t : Table α) (k : UInt32) : Bool := (t.find? k).isSome
def keys (t : Table α) : List UInt32 := t.entries.map (·.1)
def values (t : Table α) : List α := t.entries.map (·.2)
def size (t : Table α) : Nat := t.entries.length
def isEmpty (t : Table α) : Bool := t.entries.isEmpty

/-- Puts `v` under `k`, in front of the first larger key. -/
def place (k : UInt32) (v : α) : List (UInt32 × α) → List (UInt32 × α)
  | [] => [(k, v)]
  | e :: rest =>
    if k < e.1 then (k, v) :: e :: rest
    else if e.1 < k then e :: place k v rest
    else (k, v) :: rest

theorem mem_place {k : UInt32} {v : α} {es : List (UInt32 × α)} {e : UInt32 × α}
    (h : e ∈ place k v es) : e = (k, v) ∨ e ∈ es := by
  induction es with
  | nil => simpa [place] using h
  | cons d rest ih =>
    simp only [place] at h
    split at h
    · simpa using h
    · split at h
      · rcases List.mem_cons.1 h with rfl | h
        · simp
        · rcases ih h with rfl | h <;> simp_all
      · rcases List.mem_cons.1 h with rfl | h <;> simp_all

theorem place_ascending (k : UInt32) (v : α) {es : List (UInt32 × α)}
    (h : es.Pairwise (fun a b => a.1 < b.1)) :
    (place k v es).Pairwise (fun a b => a.1 < b.1) := by
  induction es with
  | nil => simp [place]
  | cons d rest ih =>
    obtain ⟨first, others⟩ := List.pairwise_cons.1 h
    simp only [place]
    split
    · rename_i below
      refine List.pairwise_cons.2 ⟨fun e he => ?_, h⟩
      rcases List.mem_cons.1 he with rfl | he
      · exact below
      · exact UInt32.lt_trans below (first e he)
    · split
      · rename_i above
        refine List.pairwise_cons.2 ⟨fun e he => ?_, ih others⟩
        rcases mem_place he with rfl | he
        · exact above
        · exact first e he
      · rename_i low high
        have same : k = d.1 := UInt32.le_antisymm (UInt32.not_lt.1 high) (UInt32.not_lt.1 low)
        exact List.pairwise_cons.2 ⟨fun e he => same ▸ first e he, others⟩

def insert (t : Table α) (k : UInt32) (v : α) : Table α :=
  ⟨place k v t.entries, place_ascending k v t.ascending⟩

def erase (t : Table α) (k : UInt32) : Table α :=
  ⟨t.entries.filter (fun e => e.1 != k), t.ascending.filter _⟩

def filter (p : UInt32 → α → Bool) (t : Table α) : Table α :=
  ⟨t.entries.filter (fun e => p e.1 e.2), t.ascending.filter _⟩

def mapValues (f : UInt32 → α → β) (t : Table α) : Table β :=
  ⟨t.entries.map (fun e => (e.1, f e.1 e.2)), List.pairwise_map.2 t.ascending⟩

/-- Changes the value under `k`, if there is one. -/
def modify (t : Table α) (k : UInt32) (f : α → α) : Table α :=
  t.mapValues (fun j v => if j = k then f v else v)

def ofList (es : List (UInt32 × α)) : Table α :=
  es.foldl (fun t e => t.insert e.1 e.2) empty

end Table

/-- A set of ids. -/
abbrev IdSet := Table Unit

namespace IdSet

def insert (s : IdSet) (k : UInt32) : IdSet := Table.insert s k ()
def toList (s : IdSet) : List UInt32 := Table.keys s
def ofList (ks : List UInt32) : IdSet := ks.foldl insert Table.empty

end IdSet

end Connectivity
