/-! What is found under a key in a list of pairs, for keys of any kind. -/
namespace Connectivity
variable {κ α β : Type} [BEq κ] [LawfulBEq κ] {k : κ} {v : α} {es : List (κ × α)}

theorem lookup_eq_none_iff_ne : es.lookup k = none ↔ ∀ e ∈ es, e.1 ≠ k := by
  simp only [List.lookup_eq_none_iff, bne_iff_ne, ne_comm]

theorem lookup_eq_some_iff_of_nodup (distinct : (es.map (·.1)).Nodup) :
    es.lookup k = some v ↔ (k, v) ∈ es := by
  induction es with
  | nil => simp
  | cons d rest ih =>
    obtain ⟨i, w⟩ := d
    rw [List.map_cons, List.nodup_cons] at distinct
    rw [List.lookup_cons, List.mem_cons]
    cases same : k == i with
    | true =>
      obtain rfl : k = i := eq_of_beq same
      have absent : (k, v) ∉ rest := fun listed => distinct.1 (List.mem_map.2 ⟨_, listed, rfl⟩)
      simp [absent, eq_comm]
    | false =>
      have other : k ≠ i := ne_of_beq_false same
      simp [other, ih distinct.2]

variable [DecidableEq κ]

theorem lookup_first (k : κ) (e : κ × α) (rest : List (κ × α)) :
    (e :: rest).lookup k = if k = e.1 then some e.2 else rest.lookup k := by
  obtain ⟨i, v⟩ := e
  by_cases h : k = i
  · simp [h]
  · simp [List.lookup_cons, beq_false_of_ne h, h]

theorem lookup_without (k j : κ) (es : List (κ × α)) :
    (es.filter (fun e => e.1 != k)).lookup j = if j = k then none else es.lookup j := by
  induction es with
  | nil => simp
  | cons d rest ih =>
    rw [List.filter_cons]
    split <;> simp only [lookup_first, ih] <;> grind

theorem lookup_mapped (f : κ → α → β) (k : κ) (es : List (κ × α)) :
    (es.map (fun e => (e.1, f e.1 e.2))).lookup k = (es.lookup k).map (f k) := by
  induction es with
  | nil => rfl
  | cons d rest ih =>
    rw [List.map_cons, lookup_first, lookup_first, ih]
    split <;> simp_all

end Connectivity
