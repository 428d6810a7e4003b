import Connectivity.Proofs.Selection
/-! Which candidate is chosen. Candidates are ranked by signal, then by how lately they became
available, then by the smaller id; the one chosen is the first of those that would do, whatever the
order they are listed in and whoever else is listed below it. -/
namespace Connectivity

namespace Candidate
variable {c d e : Candidate}

def Tops (c d : Candidate) : Prop :=
  d.signalStrength < c.signalStrength ∨
    d.signalStrength = c.signalStrength ∧ (d.availableSeq < c.availableSeq ∨
      d.availableSeq = c.availableSeq ∧ c.supplier ≤ d.supplier)

theorem tops_iff : c.Tops d ↔ d.precedes c = false := by
  unfold Tops precedes
  grind

theorem Tops.refl (c : Candidate) : c.Tops c := .inr ⟨rfl, .inr ⟨rfl, UInt32.le_refl _⟩⟩

theorem Tops.trans (first : c.Tops d) (second : d.Tops e) : c.Tops e := by
  unfold Tops at *
  grind

theorem tops_of_precedes (above : c.precedes d = true) : c.Tops d := by
  unfold Tops
  unfold precedes at above
  grind

theorem Tops.supplier_eq (first : c.Tops d) (second : d.Tops c) : c.supplier = d.supplier := by
  unfold Tops at *
  grind

/-- `c` is listed, would do, and ranks no lower than any other that is listed and would do. -/
structure Heads (c : Candidate) (cs : List Candidate) (s : Specifier) : Prop where
  listed : c ∈ cs
  fits : c.satisfies s = true
  tops : ∀ d ∈ cs, d.satisfies s = true → c.Tops d

end Candidate

theorem foldl_better_tops {cs : List Candidate} {best : Option Candidate} {c : Candidate}
    (chosen : cs.foldl Candidate.better best = some c) :
    (∀ b, best = some b → c.Tops b) ∧ ∀ d ∈ cs, c.Tops d := by
  induction cs generalizing best with
  | nil =>
    refine ⟨fun b held => ?_, nofun⟩
    cases held.symm.trans chosen
    exact .refl c
  | cons d rest ih =>
    obtain ⟨above, others⟩ := ih chosen
    cases best with
    | none => exact ⟨nofun, List.forall_mem_cons.2 ⟨above d rfl, others⟩⟩
    | some b =>
      cases first : d.precedes b with
      | true =>
        have topsNew := above d (by simp [Candidate.better, first])
        refine ⟨fun a held => ?_, List.forall_mem_cons.2 ⟨topsNew, others⟩⟩
        cases held
        exact topsNew.trans (Candidate.tops_of_precedes first)
      | false =>
        have topsOld := above b (by simp [Candidate.better, first])
        refine ⟨fun a held => ?_, List.forall_mem_cons.2 ⟨?_, others⟩⟩
        · cases held
          exact topsOld
        · exact topsOld.trans (Candidate.tops_iff.2 first)

variable {cs ds : List Candidate} {s : Specifier} {id : SupplierId}

theorem exists_heads_of_selectBest (chosen : selectBest cs s = some id) :
    ∃ c : Candidate, c.Heads cs s ∧ c.supplier = id := by
  obtain ⟨c, best, same⟩ := Option.map_eq_some_iff.1 chosen
  rcases foldl_better_mem best with impossible | listed
  · cases impossible
  · obtain ⟨there, fits⟩ := List.mem_filter.1 listed
    have tops := (foldl_better_tops best).2
    exact ⟨c, ⟨there, fits, fun d listed fits => tops d (List.mem_filter.2 ⟨listed, fits⟩)⟩, same⟩

theorem selectBest_eq_some_iff :
    selectBest cs s = some id ↔ ∃ c : Candidate, c.Heads cs s ∧ c.supplier = id := by
  constructor
  · exact exists_heads_of_selectBest
  · rintro ⟨c, heads, rfl⟩
    cases chosen : selectBest cs s with
    | none =>
      have unfit := selectBest_eq_none_iff.1 chosen c heads.listed
      exact Bool.noConfusion (unfit.symm.trans heads.fits)
    | some k =>
      obtain ⟨d, other, rfl⟩ := exists_heads_of_selectBest chosen
      have above := other.tops c heads.listed heads.fits
      have below := heads.tops d other.listed other.fits
      rw [above.supplier_eq below]

/-- Where no two of one signal have one number, the id decides nothing. -/
theorem selectBest_eq_some_iff_of_distinct
    (distinct : ∀ c ∈ cs, ∀ d ∈ cs, c.signalStrength = d.signalStrength →
      c.availableSeq = d.availableSeq → c = d) :
    selectBest cs s = some id ↔ ∃ c ∈ cs, c.satisfies s = true ∧ c.supplier = id ∧
      ∀ d ∈ cs, d.satisfies s = true → d ≠ c → d.signalStrength < c.signalStrength ∨
        d.signalStrength = c.signalStrength ∧ d.availableSeq < c.availableSeq := by
  rw [selectBest_eq_some_iff]
  constructor
  · rintro ⟨c, heads, same⟩
    refine ⟨c, heads.listed, heads.fits, same, fun d listed fits other => ?_⟩
    rcases heads.tops d listed fits with weaker | ⟨level, older | ⟨alike, _⟩⟩
    · exact .inl weaker
    · exact .inr ⟨level, older⟩
    · exact absurd (distinct d listed c heads.listed level alike) other
  · rintro ⟨c, listed, fits, same, above⟩
    refine ⟨c, ⟨listed, fits, fun d there would => ?_⟩, same⟩
    by_cases own : d = c
    · exact own ▸ .refl d
    · rcases above d there would own with weaker | ⟨level, older⟩
      · exact .inl weaker
      · exact .inr ⟨level, .inl older⟩

/-- The choice goes by what is listed and would do, and by nothing else. -/
theorem selectBest_congr (same : ∀ c : Candidate, c.Heads cs s ↔ c.Heads ds s) :
    selectBest cs s = selectBest ds s := by
  apply Option.ext
  intro id
  simp only [selectBest_eq_some_iff, same]

theorem selectBest_perm (order : cs.Perm ds) : selectBest cs s = selectBest ds s :=
  selectBest_congr (fun c => by
    constructor
    · rintro ⟨listed, fits, tops⟩
      exact ⟨order.mem_iff.1 listed, fits, fun d there => tops d (order.mem_iff.2 there)⟩
    · rintro ⟨listed, fits, tops⟩
      exact ⟨order.mem_iff.2 listed, fits, fun d there => tops d (order.mem_iff.1 there)⟩)

theorem Candidate.Heads.of_subset {c : Candidate} (heads : c.Heads cs s) (part : ds ⊆ cs)
    (listed : c ∈ ds) : c.Heads ds s :=
  ⟨listed, heads.fits, fun d there => heads.tops d (part there)⟩

/-- The choice from more candidates is one of those that came, or the choice there was. -/
theorem selectBest_of_append (cs added : List Candidate) (s : Specifier) :
    selectBest (cs ++ added) s = selectBest cs s ∨
      ∃ d ∈ added, selectBest (cs ++ added) s = some d.supplier := by
  cases chosen : selectBest (cs ++ added) s with
  | none =>
    rw [selectBest_eq_none_iff] at chosen
    have before : selectBest cs s = none :=
      selectBest_eq_none_iff.2 (fun c listed => chosen c (List.mem_append_left added listed))
    exact .inl before.symm
  | some k =>
    obtain ⟨c, heads, rfl⟩ := selectBest_eq_some_iff.1 chosen
    rcases List.mem_append.1 heads.listed with old | new
    · have still := heads.of_subset (List.subset_append_left cs added) old
      exact .inl (selectBest_eq_some_iff.2 ⟨c, still, rfl⟩).symm
    · exact .inr ⟨c, new, rfl⟩

theorem selectBest_without {before after : List Candidate} {c : Candidate}
    (other : selectBest (before ++ c :: after) s ≠ some c.supplier) :
    selectBest (before ++ after) s = selectBest (before ++ c :: after) s := by
  have moved : (before ++ c :: after).Perm (before ++ after ++ [c]) :=
    List.perm_middle.trans (List.perm_append_singleton c (before ++ after)).symm
  rw [selectBest_perm moved] at other ⊢
  rcases selectBest_of_append (before ++ after) [c] s with same | ⟨d, listed, chosen⟩
  · exact same.symm
  · rw [List.mem_singleton.1 listed] at chosen
    exact absurd chosen other

/-- None is chosen just where none would do. Else the one chosen has, among those that would do, the
strongest signal, then the latest start, then the smallest id. Neither the order nor one more or
less of those that are not chosen matters, and what is added displaces the choice only by itself. -/
theorem selectBest_lexicographic (cs : List Candidate) (s : Specifier) :
    (selectBest cs s = none ↔ ∀ c ∈ cs, c.satisfies s = false) ∧
    (∀ id, selectBest cs s = some id ↔ ∃ c ∈ cs, c.satisfies s = true ∧ c.supplier = id ∧
      ∀ d ∈ cs, d.satisfies s = true → d.signalStrength < c.signalStrength ∨
        d.signalStrength = c.signalStrength ∧ (d.availableSeq < c.availableSeq ∨
          d.availableSeq = c.availableSeq ∧ c.supplier ≤ d.supplier)) ∧
    (∀ ds, ds.Perm cs → selectBest ds s = selectBest cs s) ∧
    (∀ before c after, cs = before ++ c :: after → selectBest cs s ≠ some c.supplier →
      selectBest (before ++ after) s = selectBest cs s) ∧
    (∀ added ds, ds.Perm (cs ++ added) → selectBest ds s = selectBest cs s ∨
      ∃ d ∈ added, selectBest ds s = some d.supplier) := by
  refine ⟨selectBest_eq_none_iff, fun id => ?_, fun ds order => selectBest_perm order,
    fun before c after same other => ?_, fun added ds order => ?_⟩
  · rw [selectBest_eq_some_iff]
    constructor
    · rintro ⟨c, heads, same⟩
      exact ⟨c, heads.listed, heads.fits, same, heads.tops⟩
    · rintro ⟨c, listed, fits, same, tops⟩
      exact ⟨c, ⟨listed, fits, tops⟩, same⟩
  · subst same
    exact selectBest_without other
  · rw [selectBest_perm order]
    exact selectBest_of_append cs added s

def rivals : List Candidate :=
  [⟨1, .wifi, .none, 50, 1⟩, ⟨2, .wifi, .none, 50, 3⟩, ⟨3, .cellular, .none, 90, 2⟩]

/-- In any order it is the second, without the strongest one too; a stronger one displaces it. -/
theorem selectBest_lexicographic_rivals :
    selectBest rivals { netType := some .wifi } = some 2 ∧
    selectBest rivals.reverse { netType := some .wifi } = some 2 ∧
    selectBest (rivals.take 2) { netType := some .wifi } = some 2 ∧
    ∃ d ∈ [(⟨4, .wifi, .none, 51, 4⟩ : Candidate)],
      selectBest (rivals ++ [⟨4, .wifi, .none, 51, 4⟩]) { netType := some .wifi } =
        some d.supplier := by
  obtain ⟨_, best, order, without, added⟩ :=
    selectBest_lexicographic rivals { netType := some .wifi }
  have second : selectBest rivals { netType := some .wifi } = some 2 :=
    (best 2).2 ⟨⟨2, .wifi, .none, 50, 3⟩, by decide, rfl, rfl, by decide⟩
  refine ⟨second, (order _ (List.reverse_perm rivals)).trans second, ?_, ?_⟩
  · exact (without (rivals.take 2) ⟨3, .cellular, .none, 90, 2⟩ [] rfl (by decide)).trans second
  · exact (added [⟨4, .wifi, .none, 51, 4⟩] _ (.refl _)).resolve_left (by decide)

end Connectivity
