import Connectivity.Matcher
import Connectivity.Table.Lemmas
/-! The choice of a supplier, told without candidate lists: the one chosen is registered, available
and does what the specifier asks for, and none is chosen only where no registered supplier would do. -/
namespace Connectivity

/-- Available, and all that the specifier asks for. -/
def SupplierEntry.Qualifies (e : SupplierEntry) (s : Specifier) : Prop :=
  e.isAvailable = true ∧ (∀ t, s.netType = some t → e.netType = t) ∧
    e.capabilities.contains s.required = true

namespace Specifier

theorem concerns_iff {s : Specifier} {t : NetType} :
    s.concerns t = true ↔ ∀ u, s.netType = some u → u = t := by
  unfold concerns
  cases s.netType <;> simp

theorem isSatisfiedBy_iff {s : Specifier} {t : NetType} {c : Capabilities} :
    s.isSatisfiedBy t c = true ↔
      (∀ u, s.netType = some u → t = u) ∧ c.contains s.required = true := by
  unfold isSatisfiedBy
  cases s.netType with
  | none => simp
  | some u => simp [eq_comm (a := u) (b := t)]

end Specifier

theorem foldl_better_mem {cs : List Candidate} {best : Option Candidate} {c : Candidate}
    (chosen : cs.foldl Candidate.better best = some c) : best = some c ∨ c ∈ cs := by
  induction cs generalizing best with
  | nil => exact .inl chosen
  | cons d rest ih =>
    rcases ih chosen with kept | later
    · cases best with
      | none => simp_all [Candidate.better]
      | some b =>
        simp only [Candidate.better] at kept
        split at kept <;> simp_all
    · exact .inr (List.mem_cons_of_mem d later)

theorem foldl_better_isSome (cs : List Candidate) (best : Option Candidate)
    (held : best.isSome = true) : (cs.foldl Candidate.better best).isSome = true := by
  induction cs generalizing best with
  | nil => exact held
  | cons d rest ih =>
    apply ih
    cases best with
    | none => cases held
    | some b =>
      simp only [Candidate.better]
      split <;> rfl

theorem selectBest_mem {cs : List Candidate} {s : Specifier} {id : SupplierId}
    (chosen : selectBest cs s = some id) : ∃ c ∈ cs, c.satisfies s = true ∧ c.supplier = id := by
  obtain ⟨c, best, same⟩ := Option.map_eq_some_iff.1 chosen
  rcases foldl_better_mem best with impossible | listed
  · cases impossible
  · exact ⟨c, (List.mem_filter.1 listed).1, (List.mem_filter.1 listed).2, same⟩

theorem selectBest_eq_none_iff {cs : List Candidate} {s : Specifier} :
    selectBest cs s = none ↔ ∀ c ∈ cs, c.satisfies s = false := by
  have listed : selectBest cs s = none ↔ cs.filter (·.satisfies s) = [] := by
    unfold selectBest
    cases cs.filter (·.satisfies s) with
    | nil => simp
    | cons c rest =>
      have held := foldl_better_isSome rest (Candidate.better none c) rfl
      rw [Option.isSome_iff_exists] at held
      obtain ⟨d, best⟩ := held
      simp [best]
  rw [listed, List.filter_eq_nil_iff]
  simp

namespace Registry

/-- Every entry stands under the id it was given. -/
def Keyed (r : Registry) : Prop := ∀ id e, r.find? id = some e → e.descriptor.id = id

/-- The supplier is registered and qualifies. -/
def Serves (r : Registry) (id : SupplierId) (s : Specifier) : Prop :=
  ∃ e, r.find? id = some e ∧ e.Qualifies s

variable {r : Registry} {id : SupplierId} {s : Specifier}

theorem exists_candidate_iff (keyed : r.Keyed) :
    (∃ c ∈ r.candidates, c.satisfies s = true ∧ c.supplier = id) ↔ r.Serves id s := by
  constructor
  · rintro ⟨c, listed, fits, same⟩
    obtain ⟨e, he, rfl⟩ := List.mem_map.1 listed
    obtain ⟨key, found⟩ := Table.mem_values_iff.1 he
    rw [Table.find?_filter, Option.filter_eq_some_iff] at found
    have under : key = id := (keyed key e found.1).symm.trans same
    exact ⟨e, under ▸ found.1, found.2, Specifier.isSatisfiedBy_iff.1 fits⟩
  · rintro ⟨e, found, available, fits⟩
    have listed : (r.suppliers.filter (fun _ e => e.isAvailable)).find? id = some e := by
      rw [Table.find?_filter, Option.filter_eq_some_iff]
      exact ⟨found, available⟩
    exact ⟨_, List.mem_map.2 ⟨e, Table.mem_values_iff.2 ⟨id, listed⟩, rfl⟩,
      Specifier.isSatisfiedBy_iff.2 fits, keyed id e found⟩

theorem serves_of_selectBest (keyed : r.Keyed) (chosen : selectBest r.candidates s = some id) :
    r.Serves id s := (exists_candidate_iff keyed).1 (selectBest_mem chosen)

theorem selectBest_eq_none_iff_serves (keyed : r.Keyed) :
    selectBest r.candidates s = none ↔ ∀ id, ¬ r.Serves id s := by
  rw [selectBest_eq_none_iff]
  constructor
  · intro unfit id serves
    obtain ⟨c, listed, fits, _⟩ := (exists_candidate_iff keyed).2 serves
    exact Bool.noConfusion ((unfit c listed).symm.trans fits)
  · intro nobody c listed
    cases fits : c.satisfies s with
    | false => rfl
    | true => exact absurd ((exists_candidate_iff keyed).1 ⟨c, listed, fits, rfl⟩) (nobody _)

/-- Candidates bear distinct ids, so the first one of an id is the only one. -/
theorem stillServes_iff (keyed : r.Keyed) :
    stillServes r.candidates id s = true ↔ r.Serves id s := by
  unfold stillServes
  constructor
  · intro still
    cases first : r.candidates.find? (·.supplier == id) with
    | none => simp [first] at still
    | some c =>
      have same : c.supplier = id := by simpa using List.find?_some first
      exact (exists_candidate_iff keyed).1
        ⟨c, List.mem_of_find?_eq_some first, by simpa [first] using still, same⟩
  · intro serves
    obtain ⟨e, found, qualifies⟩ := serves
    obtain ⟨c, listed, fits, same⟩ := (exists_candidate_iff keyed).2 ⟨e, found, qualifies⟩
    cases first : r.candidates.find? (·.supplier == id) with
    | none => exact absurd same (by simpa using List.find?_eq_none.1 first c listed)
    | some d =>
      obtain ⟨f, hf, rfl⟩ := List.mem_map.1 (List.mem_of_find?_eq_some first)
      obtain ⟨key, under⟩ := Table.mem_values_iff.1 hf
      rw [Table.find?_filter, Option.filter_eq_some_iff] at under
      have sameId : f.descriptor.id = id := by simpa using List.find?_some first
      have here : key = id := (keyed key f under.1).symm.trans sameId
      have only : f = e := Option.some.inj ((here ▸ under.1).symm.trans found)
      exact only ▸ Specifier.isSatisfiedBy_iff.2 qualifies.2

end Registry

end Connectivity
