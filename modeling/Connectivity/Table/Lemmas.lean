import Connectivity.Lookup
import Connectivity.Table
/-! What each operation on a table does to what is found under a key. Nothing else about a table can be
seen, since its entries are in the order of their keys. -/
namespace Connectivity.Table
variable {α β : Type}

theorem lookup_place (k j : UInt32) (v : α) (es : List (UInt32 × α)) :
    (place k v es).lookup j = if j = k then some v else es.lookup j := by
  induction es with
  | nil => simp only [place, lookup_first]
  | cons d rest ih =>
    simp only [place]
    split
    · simp only [lookup_first]
    · split
      · rename_i above
        have other : k ≠ d.1 := fun e => UInt32.lt_irrefl k (e ▸ above)
        rw [lookup_first, lookup_first, ih]
        grind
      · rename_i low high
        have same : k = d.1 := UInt32.le_antisymm (UInt32.not_lt.1 high) (UInt32.not_lt.1 low)
        rw [lookup_first, lookup_first, ← same]
        split <;> simp_all

theorem find?_insert (t : Table α) (k j : UInt32) (v : α) :
    (t.insert k v).find? j = if j = k then some v else t.find? j := lookup_place k j v t.entries

theorem find?_erase (t : Table α) (k j : UInt32) :
    (t.erase k).find? j = if j = k then none else t.find? j := lookup_without k j t.entries

theorem find?_erase_eq_some_iff {t : Table α} {k j : UInt32} {v : α} :
    (t.erase k).find? j = some v ↔ j ≠ k ∧ t.find? j = some v := by
  rw [find?_erase]
  split <;> simp_all

theorem find?_mapValues (f : UInt32 → α → β) (t : Table α) (k : UInt32) :
    (t.mapValues f).find? k = (t.find? k).map (f k) := lookup_mapped f k t.entries

theorem find?_modify (t : Table α) (k j : UInt32) (f : α → α) :
    (t.modify k f).find? j = if j = k then (t.find? j).map f else t.find? j := by
  rw [modify, find?_mapValues]
  split <;> simp_all

theorem keys_nodup (t : Table α) : t.keys.Nodup :=
  List.pairwise_map.2 (t.ascending.imp UInt32.ne_of_lt)

theorem find?_eq_some_iff {t : Table α} {k : UInt32} {v : α} :
    t.find? k = some v ↔ (k, v) ∈ t.entries := lookup_eq_some_iff_of_nodup t.keys_nodup

theorem find?_filter (p : UInt32 → α → Bool) (t : Table α) (k : UInt32) :
    (t.filter p).find? k = (t.find? k).filter (p k) := by
  apply Option.ext
  intro v
  rw [find?_eq_some_iff, Option.filter_eq_some_iff, find?_eq_some_iff]
  simp [filter]

/-- A key that is there already keeps its place. -/
theorem place_of_mem {k : UInt32} {v w : α} {es : List (UInt32 × α)}
    (h : es.Pairwise (fun a b => a.1 < b.1)) (there : (k, v) ∈ es) :
    place k w es = es.map (fun e => (e.1, if e.1 = k then w else e.2)) := by
  induction es with
  | nil => cases there
  | cons d rest ih =>
    obtain ⟨first, others⟩ := List.pairwise_cons.1 h
    simp only [place, List.map_cons]
    rcases List.mem_cons.1 there with rfl | later
    · have apart : ∀ e ∈ rest, (e.1, if e.1 = k then w else e.2) = e := by
        intro e he
        rw [if_neg (UInt32.ne_of_lt (first e he)).symm]
      rw [if_neg (UInt32.lt_irrefl k), if_neg (UInt32.lt_irrefl k), if_pos rfl,
        List.map_congr_left apart, List.map_id']
    · have above : d.1 < k := first (k, v) later
      rw [if_neg (UInt32.not_lt.2 (UInt32.le_of_lt above)), if_pos above,
        if_neg (UInt32.ne_of_lt above), ih others later]

theorem contains_eq_true_iff {t : Table α} {k : UInt32} :
    t.contains k = true ↔ ∃ v, t.find? k = some v := Option.isSome_iff_exists

theorem ne_of_contains_eq_false {t : Table α} {k j : UInt32} {v : α} (absent : t.contains k = false)
    (found : t.find? j = some v) : j ≠ k := by
  intro same
  rw [← same, contains, found] at absent
  cases absent

theorem contains_insert (t : Table α) (k j : UInt32) (v : α) :
    (t.insert k v).contains j = (decide (j = k) || t.contains j) := by
  rw [contains, find?_insert]
  split <;> simp_all [contains]

theorem contains_erase (t : Table α) (k j : UInt32) :
    (t.erase k).contains j = (decide (j ≠ k) && t.contains j) := by
  rw [contains, find?_erase]
  split <;> simp_all [contains]

theorem contains_modify (t : Table α) (k j : UInt32) (f : α → α) :
    (t.modify k f).contains j = t.contains j := by
  rw [contains, find?_modify]
  split
  · exact Option.isSome_map
  · rfl

theorem mem_values_iff {t : Table α} {v : α} : v ∈ t.values ↔ ∃ k, t.find? k = some v := by
  simp only [find?_eq_some_iff, values, List.mem_map, Prod.exists, exists_eq_right]

theorem mem_keys_iff {t : Table α} {k : UInt32} : k ∈ t.keys ↔ t.contains k = true := by
  simp only [contains_eq_true_iff, find?_eq_some_iff, keys, List.mem_map, Prod.exists,
    exists_and_right, exists_eq_right]

theorem length_keys (t : Table α) : t.keys.length = t.size := List.length_map _

theorem keys_ascending (t : Table α) : t.keys.Pairwise (· < ·) := List.pairwise_map.2 t.ascending

theorem values_filter (t : Table α) (p : α → Bool) :
    (t.filter (fun _ v => p v)).values = t.values.filter p := by
  simp only [values, filter, List.filter_map]
  rfl

theorem length_values (t : Table α) : t.values.length = t.size := List.length_map _

/-- Where values bear their keys, these can be read off them. -/
theorem keys_eq_map {t : Table α} {key : α → UInt32}
    (keyed : ∀ k v, t.find? k = some v → key v = k) : t.keys = t.values.map key := by
  rw [keys, values, List.map_map]
  exact List.map_congr_left (fun e listed => (keyed e.1 e.2 (find?_eq_some_iff.2 listed)).symm)

theorem mapValues_congr {f g : UInt32 → α → β} {t : Table α}
    (same : ∀ k v, t.find? k = some v → f k v = g k v) : t.mapValues f = t.mapValues g := by
  simp only [mapValues, mk.injEq]
  refine List.map_congr_left (fun e he => ?_)
  rw [same e.1 e.2 (find?_eq_some_iff.2 he)]

theorem mapValues_eq_self {f : UInt32 → α → α} {t : Table α}
    (same : ∀ k v, t.find? k = some v → f k v = v) : t.mapValues f = t :=
  (mapValues_congr same).trans (by simp [mapValues])

theorem modify_congr {t : Table α} {k : UInt32} {v : α} {f g : α → α} (found : t.find? k = some v)
    (same : f v = g v) : t.modify k f = t.modify k g := by
  refine mapValues_congr (fun j w listed => ?_)
  split
  · rename_i here
    subst here
    rw [Option.some.inj (listed.symm.trans found), same]
  · rfl

theorem modify_eq_self {t : Table α} {k : UInt32} {v : α} {f : α → α} (found : t.find? k = some v)
    (same : f v = v) : t.modify k f = t :=
  (modify_congr (g := id) found same).trans (mapValues_eq_self (fun _ _ _ => ite_self _))

theorem erase_of_absent {t : Table α} {k : UInt32} (absent : t.find? k = none) : t.erase k = t := by
  have kept : t.entries.filter (fun e => e.1 != k) = t.entries := by
    refine List.filter_eq_self.2 (fun e listed => ?_)
    have found : t.find? e.1 = some e.2 := find?_eq_some_iff.2 listed
    have other : e.1 ≠ k := by
      intro same
      rw [same, absent] at found
      cases found
    simpa using other
  simp [erase, kept]

theorem foldl_erase (t : Table α) (ks : List UInt32) :
    ks.foldl erase t = t.filter (fun k _ => !ks.contains k) := by
  induction ks generalizing t with
  | nil =>
    have kept : t.entries.filter (fun _ => true) = t.entries := List.filter_eq_self.2 (by simp)
    simp [filter, kept]
  | cons k ks ih =>
    rw [List.foldl_cons, ih]
    simp only [filter, erase, mk.injEq, List.filter_filter]
    refine List.filter_congr (fun e _ => ?_)
    by_cases same : e.1 = k <;> simp [same]

/-- What a table's values give in turn, cut down to what bears one key, comes from that key alone. -/
theorem flatMap_values_of_key {γ : Type} {t : Table α} {f : α → List γ} {key : γ → UInt32}
    (keyed : ∀ k v, t.find? k = some v → ∀ x ∈ f v, key x = k) (k : UInt32) :
    (t.values.flatMap f).filter (fun x => key x == k) = ((t.find? k).map f).getD [] := by
  have bears : ∀ e ∈ t.entries, ∀ x ∈ f e.2, key x = e.1 := fun e he =>
    keyed e.1 e.2 (find?_eq_some_iff.2 he)
  obtain ⟨es, ascending⟩ := t
  clear keyed
  simp only [values, find?]
  induction es with
  | nil => rfl
  | cons d rest ih =>
    obtain ⟨first, others⟩ := List.pairwise_cons.1 ascending
    have here : ∀ x ∈ f d.2, key x = d.1 := bears d List.mem_cons_self
    have tail := ih others (fun e he => bears e (List.mem_cons_of_mem d he))
    rw [List.map_cons, List.flatMap_cons, List.filter_append, tail, lookup_first]
    by_cases same : k = d.1
    · have absent : rest.lookup k = none := lookup_eq_none_iff_ne.2 (fun e he =>
        (UInt32.ne_of_lt (same ▸ first e he)).symm)
      have all : (f d.2).filter (fun x => key x == k) = f d.2 :=
        List.filter_eq_self.2 (fun x hx => by simp [here x hx, same])
      simp [if_pos same, absent, all]
    · have none : (f d.2).filter (fun x => key x == k) = [] :=
        List.filter_eq_nil_iff.2 (fun x hx => by simp [here x hx, Ne.symm same])
      simp [if_neg same, none]

theorem entries_nodup (t : Table α) : t.entries.Nodup := by
  refine t.ascending.imp ?_
  rintro e d below rfl
  exact UInt32.lt_irrefl e.1 below

theorem ext_find? {s t : Table α} (same : ∀ k, s.find? k = t.find? k) : s = t := by
  have listed : ∀ e, e ∈ s.entries ↔ e ∈ t.entries := by
    intro e
    rw [← find?_eq_some_iff (t := s), ← find?_eq_some_iff (t := t), same]
  have perm : s.entries.Perm t.entries :=
    (List.perm_ext_iff_of_nodup s.entries_nodup t.entries_nodup).2 listed
  have equal : s.entries = t.entries :=
    perm.eq_of_pairwise (fun a b _ _ below above =>
      absurd (UInt32.lt_trans below above) (UInt32.lt_irrefl a.1)) s.ascending t.ascending
  cases s
  cases t
  cases equal
  rfl

theorem find?_empty (k : UInt32) : (empty : Table α).find? k = none := rfl

theorem find?_foldl_insert (es : List (UInt32 × α)) (t : Table α) (k : UInt32) :
    (es.foldl (fun t e => t.insert e.1 e.2) t).find? k = (es.reverse.lookup k).or (t.find? k) := by
  induction es generalizing t with
  | nil => rfl
  | cons e es ih =>
    rw [List.foldl_cons, ih, List.reverse_cons, List.lookup_append, find?_insert, lookup_first]
    cases es.reverse.lookup k with
    | some v => rfl
    | none =>
      split <;> simp

/-- A table is what its entries are put together to, in whatever order. -/
theorem foldl_insert_of_perm {es : List (UInt32 × α)} {t : Table α} (h : es.Perm t.entries) :
    es.foldl (fun t e => t.insert e.1 e.2) empty = t := by
  refine ext_find? (fun k => Option.ext (fun v => ?_))
  have distinct : (es.reverse.map (·.1)).Nodup := by
    have all : es.reverse.Perm t.entries := (List.reverse_perm es).trans h
    exact (all.map Prod.fst).nodup_iff.2 t.keys_nodup
  rw [find?_foldl_insert, find?_empty, Option.or_none, lookup_eq_some_iff_of_nodup distinct,
    List.mem_reverse, h.mem_iff, find?_eq_some_iff]

theorem modify_modify_comm {t : Table α} {j k : UInt32} {f g : α → α}
    (comm : j = k → ∀ v, f (g v) = g (f v)) :
    (t.modify j f).modify k g = (t.modify k g).modify j f := by
  refine ext_find? (fun i => ?_)
  simp only [find?_modify]
  by_cases here : i = j
  · by_cases there : i = k
    · have same := comm (here.symm.trans there)
      simp only [if_pos here, if_pos there, Option.map_map]
      cases t.find? i with
      | none => rfl
      | some v => exact congrArg some (same v).symm
    · simp only [if_pos here, if_neg there]
  · simp only [if_neg here]

theorem modify_insert (t : Table α) (k : UInt32) (v : α) (f : α → α) :
    (t.insert k v).modify k f = t.insert k (f v) := by
  refine ext_find? (fun i => ?_)
  rw [find?_modify, find?_insert, find?_insert]
  split <;> rfl

theorem erase_insert {t : Table α} {k : UInt32} (absent : t.find? k = none) (v : α) :
    (t.insert k v).erase k = t := by
  refine ext_find? (fun i => ?_)
  rw [find?_erase, find?_insert]
  split
  · rename_i here
    rw [here, absent]
  · rfl

theorem filter_eq_self {t : Table α} {p : UInt32 → α → Bool}
    (all : ∀ k v, t.find? k = some v → p k v = true) : t.filter p = t := by
  refine ext_find? (fun i => ?_)
  rw [find?_filter]
  cases found : t.find? i with
  | none => rfl
  | some v => rw [Option.filter_some, if_pos (all i v found)]

/-- What is put in place of a value hides what was done to that value. -/
theorem modify_insert_modify {t : Table α} {j k : UInt32} {f : α → α} {v : α}
    (idem : ∀ v, f (f v) = f v) :
    ((t.modify j f).insert k v).modify j f = (t.insert k v).modify j f := by
  refine ext_find? (fun i => ?_)
  simp only [find?_modify, find?_insert]
  by_cases here : i = j
  · simp only [if_pos here]
    split
    · rfl
    · cases t.find? i with
      | none => rfl
      | some w => exact congrArg some (idem w)
  · simp only [if_neg here]

theorem modify_modify_absorb {t : Table α} {k : UInt32} {f g : α → α}
    (hides : ∀ v, f (g v) = f v) : (t.modify k g).modify k f = t.modify k f := by
  refine ext_find? (fun i => ?_)
  simp only [find?_modify]
  split
  · cases t.find? i with
    | none => rfl
    | some v => exact congrArg some (hides v)
  · rfl

/-- What is kept of a table at one key. -/
theorem keys_filter_at (t : Table α) (k : UInt32) (p : α → Bool) :
    (t.filter (fun j v => decide (j = k) && p v)).keys = if (t.find? k).any p then [k] else [] := by
  have listed (j : UInt32) : j ∈ (t.filter (fun j v => decide (j = k) && p v)).keys ↔
      j = k ∧ (t.find? k).any p = true := by
    rw [mem_keys_iff, contains, find?_filter]
    by_cases here : j = k
    · subst here
      cases t.find? j <;> simp [Option.filter]
    · cases t.find? j <;> simp [Option.filter, here]
  split
  · rename_i found
    refine List.perm_singleton.1 ((List.perm_ext_iff_of_nodup (keys_nodup _)
      (by simp)).2 (fun j => ?_))
    rw [listed j, List.mem_singleton]
    exact and_iff_left found
  · rename_i absent
    exact List.eq_nil_iff_forall_not_mem.2 (fun j there => absent ((listed j).1 there).2)

end Connectivity.Table

namespace Connectivity.IdSet

theorem contains_insert (s : IdSet) (k j : UInt32) :
    (s.insert k).contains j = (decide (j = k) || s.contains j) := Table.contains_insert s k j ()

theorem contains_foldl_insert (ks : List UInt32) (s : IdSet) (j : UInt32) :
    (ks.foldl insert s).contains j = (ks.contains j || s.contains j) := by
  induction ks generalizing s with
  | nil => simp
  | cons k rest ih =>
    rw [List.foldl_cons, ih, contains_insert, List.contains_cons]
    rw [← Bool.or_assoc, Bool.or_comm (rest.contains j)]
    rfl

theorem contains_ofList (ks : List UInt32) (j : UInt32) :
    (ofList ks).contains j = ks.contains j := by
  rw [ofList, contains_foldl_insert]
  exact Bool.or_false _

end Connectivity.IdSet
