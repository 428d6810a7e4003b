import Connectivity.Proofs.Ranking
import Connectivity.Proofs.Registrations
/-! The number an available supplier bears tells when it last became available: in a run of a
registry, a later moment has a larger number and no two moments have the same. So two suppliers that
can be chosen never rank alike, and the smaller id never decides. -/
namespace Connectivity

/-- Suppliers neither come nor go at an update. -/
def RegistryStep.isUpdate : RegistryStep → Bool
  | .updateInfo .. | .updateCapabilities .. | .updateLink .. => true
  | .register .. | .unregister _ => false

namespace Registry
variable {r s : Registry} {k : SupplierId} {e : SupplierEntry} {steps : List RegistryStep}

/-- A new supplier finds an id that is free. -/
def HasIds (r : Registry) : RegistryStep → Prop
  | .register netType identity _ => r.named? netType identity = none → r.suppliers.HasRoom
  | _ => True

/-- Neither the ids run out at this step nor does the count of availabilities come round. -/
def Roomy (r : Registry) (step : RegistryStep) : Prop :=
  r.HasIds step ∧ r.availableCount ≤ (r.act step).availableCount

def RoomyAll (r : Registry) : List RegistryStep → Prop
  | [] => True
  | step :: rest => r.Roomy step ∧ (r.act step).RoomyAll rest

instance (r : Registry) : (step : RegistryStep) → Decidable (r.HasIds step)
  | .register netType identity _ =>
    inferInstanceAs (Decidable (r.named? netType identity = none → r.suppliers.HasRoom))
  | .unregister _ | .updateInfo .. | .updateCapabilities .. | .updateLink .. => .isTrue trivial

instance (r : Registry) (step : RegistryStep) : Decidable (r.Roomy step) :=
  inferInstanceAs (Decidable (_ ∧ _))

instance decidableRoomyAll : (r : Registry) → (steps : List RegistryStep) →
    Decidable (r.RoomyAll steps)
  | _, [] => .isTrue trivial
  | r, step :: rest =>
    have := decidableRoomyAll (r.act step) rest
    inferInstanceAs (Decidable (r.Roomy step ∧ (r.act step).RoomyAll rest))

/-! What a step does to the numbers. -/

/-- From `r` to `s` supplier `k` becomes available, which it was not. -/
def Rises (r s : Registry) (k : SupplierId) : Prop :=
  (∃ d, r.find? k = some d ∧ d.isAvailable = false) ∧
    ∃ e, s.find? k = some e ∧ e.isAvailable = true

/-- Either nobody becomes available and every number stays, or one supplier does and bears the next
number of the count. -/
inductive Moved (r s : Registry) : Prop where
  | rests (count : s.availableCount = r.availableCount)
      (kept : ∀ k e, s.find? k = some e →
        (∃ d, r.find? k = some d ∧ e.availableSeq = d.availableSeq ∧
          (e.isAvailable = true → d.isAvailable = true)) ∨
        r.find? k = none ∧ e.availableSeq = 0 ∧ e.isAvailable = false)
  | rises (k : SupplierId) (d e : SupplierEntry) (found : r.find? k = some d)
      (down : d.isAvailable = false) (up : e.isAvailable = true)
      (count : s.availableCount = r.availableCount + 1) (seq : e.availableSeq = s.availableCount)
      (suppliers : s.suppliers = r.suppliers.insert k e)

theorem Moved.refl (r : Registry) : r.Moved r :=
  .rests rfl (fun _ e found => .inl ⟨e, found, rfl, id⟩)

theorem Revised.moved {d e : SupplierEntry} (revised : r.Revised s k d e)
    (count : s.availableCount = r.availableCount) (seq : e.availableSeq = d.availableSeq)
    (up : e.isAvailable = true → d.isAvailable = true) : r.Moved s := by
  refine .rests count (fun j f found => ?_)
  rw [find?_of_insert revised.suppliers] at found
  split at found
  · rename_i here
    cases found
    exact .inl ⟨d, here ▸ revised.found, seq, up⟩
  · exact .inl ⟨f, found, rfl, id⟩

theorem moved_act (r : Registry) {step : RegistryStep} (ids : r.HasIds step) :
    r.Moved (r.act step) := by
  cases step with
  | register netType identity capabilities =>
    cases named : r.named? netType identity with
    | some k =>
      rw [(act_of_named named capabilities).1]
      exact .refl r
    | none =>
      have fresh := (r.ids.take_fresh (ids named)).2
      simp only [act, register_of_unnamed named]
      refine .rests rfl (fun j f found => ?_)
      rw [find?_of_insert rfl] at found
      split at found
      · rename_i here
        cases found
        have absent : r.suppliers.find? j = none := by simpa [here, Table.contains] using fresh
        exact .inr ⟨absent, rfl, rfl⟩
      · exact .inl ⟨f, found, rfl, id⟩
  | unregister k =>
    simp only [act]
    split
    · rename_i done
      obtain ⟨d, _, same⟩ := bind_eq_ok_iff.1 done
      cases same
      refine .rests rfl (fun j f found => ?_)
      rw [find?_of_erase rfl] at found
      split at found
      · cases found
      · exact .inl ⟨f, found, rfl, id⟩
    · exact .refl r
  | updateInfo k info =>
    simp only [act]
    split
    · rename_i done
      obtain ⟨d, there, same⟩ := bind_eq_ok_iff.1 done
      have found := entry_eq_ok_iff.1 there
      dsimp only at same
      split at same
      · rename_i flip
        rw [Bool.and_eq_true, Bool.not_eq_true'] at flip
        cases same
        exact .rises k d { d with info, availableSeq := r.availableCount + 1 } found flip.2 flip.1
          rfl rfl rfl
      · rename_i still
        cases same
        refine Revised.moved (e := { d with info }) ⟨found, rfl, rfl, rfl⟩ rfl rfl (fun up => ?_)
        simpa [SupplierEntry.isAvailable, show info.isAvailable = true from up] using still
    · exact .refl r
  | updateCapabilities k capabilities =>
    simp only [act]
    split
    · rename_i done
      obtain ⟨d, there, same⟩ := bind_eq_ok_iff.1 done
      cases same
      exact Revised.moved (e := { d with descriptor := { d.descriptor with capabilities } })
        ⟨entry_eq_ok_iff.1 there, rfl, rfl, rfl⟩ rfl rfl id
    · exact .refl r
  | updateLink k link =>
    simp only [act]
    split
    · rename_i done
      obtain ⟨d, there, same⟩ := bind_eq_ok_iff.1 done
      cases same
      exact Revised.moved (e := { d with link := some link })
        ⟨entry_eq_ok_iff.1 there, rfl, rfl, rfl⟩ rfl rfl id
    · exact .refl r

theorem Moved.at_rise (moved : r.Moved s) (rises : r.Rises s k) :
    s.availableCount = r.availableCount + 1 ∧ (∀ j, r.Rises s j → j = k) ∧
      ∀ e, s.find? k = some e → e.availableSeq = s.availableCount := by
  cases moved with
  | rests _ kept =>
    obtain ⟨⟨d, before, down⟩, e, after, up⟩ := rises
    rcases kept k e after with ⟨c, there, _, was⟩ | ⟨absent, _⟩
    · cases before.symm.trans there
      exact Bool.noConfusion (down.symm.trans (was up))
    · cases absent.symm.trans before
  | rises i _ f _ _ _ count seq suppliers =>
    have only : ∀ j, r.Rises s j → j = i := by
      rintro j ⟨⟨d, before, down⟩, e, after, up⟩
      apply Classical.byContradiction
      intro other
      rw [find?_of_insert suppliers, if_neg other, before] at after
      cases after
      exact Bool.noConfusion (down.symm.trans up)
    have here := only k rises
    refine ⟨count, fun j other => (only j other).trans here.symm, fun e after => ?_⟩
    rw [find?_of_insert suppliers, if_pos here] at after
    cases after
    exact seq

/-- Whoever does not become available keeps the number, or is new and has none. -/
theorem Moved.kept (moved : r.Moved s) (still : ¬ r.Rises s k) (found : s.find? k = some e) :
    (∃ d, r.find? k = some d ∧ e.availableSeq = d.availableSeq ∧
      (e.isAvailable = true → d.isAvailable = true)) ∨
    r.find? k = none ∧ e.availableSeq = 0 ∧ e.isAvailable = false := by
  cases moved with
  | rests _ kept => exact kept k e found
  | rises i d f before down up _ _ suppliers =>
    by_cases here : k = i
    · have after : s.find? k = some f := by rw [find?_of_insert suppliers, if_pos here]
      exact absurd ⟨⟨d, here ▸ before, down⟩, f, after, up⟩ still
    · rw [find?_of_insert suppliers, if_neg here] at found
      exact .inl ⟨e, found, rfl, id⟩

theorem Moved.count_of_still (moved : r.Moved s) (still : ∀ k, ¬ r.Rises s k) :
    s.availableCount = r.availableCount := by
  cases moved with
  | rests count => exact count
  | rises k d e found down up _ _ suppliers =>
    have after : s.find? k = some e := by rw [find?_of_insert suppliers, if_pos rfl]
    exact absurd ⟨⟨d, found, down⟩, e, after, up⟩ (still k)

/-! Runs. -/

def after (r : Registry) (steps : List RegistryStep) (n : Nat) : Registry := r.run (steps.take n)

def RisesAt (r : Registry) (steps : List RegistryStep) (k : SupplierId) (n : Nat) : Prop :=
  (r.after steps n).Rises (r.after steps (n + 1)) k

/-- The supplier registered under `k` after `n` steps has last become available at step `i`. -/
structure RoseLast (r : Registry) (steps : List RegistryStep) (n : Nat) (k : SupplierId) (i : Nat) :
    Prop where
  before : i < n
  rises : r.RisesAt steps k i
  last : ∀ j, i < j → j < n → ¬ r.RisesAt steps k j
  stays : ∀ j, i < j → j ≤ n → ∃ e, (r.after steps j).find? k = some e

theorem after_length (r : Registry) (steps : List RegistryStep) :
    r.after steps steps.length = r.run steps := by
  unfold after
  rw [List.take_length]

theorem after_succ (roomy : r.RoomyAll steps) (n : Nat) :
    r.after steps (n + 1) = r.after steps n ∨
      ∃ step, (r.after steps n).Roomy step ∧
        r.after steps (n + 1) = (r.after steps n).act step := by
  induction steps generalizing r n with
  | nil => exact .inl (by simp [after])
  | cons step rest ih =>
    cases n with
    | zero => exact .inr ⟨step, roomy.1, rfl⟩
    | succ n => exact ih roomy.2 n

theorem moved_after (roomy : r.RoomyAll steps) (n : Nat) :
    (r.after steps n).Moved (r.after steps (n + 1)) := by
  rcases after_succ roomy n with same | ⟨step, fits, acted⟩
  · exact same.symm ▸ .refl _
  · exact acted.symm ▸ moved_act _ fits.1

theorem count_le_succ (roomy : r.RoomyAll steps) (n : Nat) :
    (r.after steps n).availableCount ≤ (r.after steps (n + 1)).availableCount := by
  rcases after_succ roomy n with same | ⟨step, fits, acted⟩
  · exact same.symm ▸ UInt64.le_refl _
  · exact acted.symm ▸ fits.2

theorem count_le {m n : Nat} (roomy : r.RoomyAll steps) (earlier : m ≤ n) :
    (r.after steps m).availableCount ≤ (r.after steps n).availableCount := by
  induction earlier with
  | refl => exact UInt64.le_refl _
  | step _ ih => exact UInt64.le_trans ih (count_le_succ roomy _)

theorem count_lt_of_risesAt {n : Nat} (roomy : r.RoomyAll steps) (rises : r.RisesAt steps k n) :
    (r.after steps n).availableCount < (r.after steps (n + 1)).availableCount := by
  have next := ((moved_after roomy n).at_rise rises).1
  have above := count_le_succ roomy n
  rw [next] at above ⊢
  exact UInt64.lt_of_le_of_ne above (by simp)

theorem count_lt {m n : Nat} (roomy : r.RoomyAll steps)
    (rises : r.RisesAt steps k n) (earlier : m < n) :
    (r.after steps (m + 1)).availableCount < (r.after steps (n + 1)).availableCount :=
  UInt64.lt_of_le_of_lt (count_le roomy earlier) (count_lt_of_risesAt roomy rises)

namespace RoseLast
variable {m n i j : Nat}

theorem unique (rose : r.RoseLast steps n k i) (other : r.RoseLast steps n k j) : i = j := by
  rcases Nat.lt_trichotomy i j with less | same | more
  · exact absurd other.rises (rose.last j less other.before)
  · exact same
  · exact absurd rose.rises (other.last i more rose.before)

theorem earlier (rose : r.RoseLast steps n k i) (before : i < m) (within : m ≤ n) :
    r.RoseLast steps m k i where
  before := before
  rises := rose.rises
  last := fun j later less => rose.last j later (Nat.lt_of_lt_of_le less within)
  stays := fun j later less => rose.stays j later (Nat.le_trans less within)

theorem later (rose : r.RoseLast steps n k i) (still : ¬ r.RisesAt steps k n)
    (found : (r.after steps (n + 1)).find? k = some e) : r.RoseLast steps (n + 1) k i where
  before := Nat.lt_succ_of_lt rose.before
  rises := rose.rises
  last := fun j later less => by
    rcases Nat.lt_succ_iff_lt_or_eq.1 less with less | rfl
    · exact rose.last j later less
    · exact still
  stays := fun j later less => by
    rcases Nat.le_succ_iff.1 less with less | rfl
    · exact rose.stays j later less
    · exact ⟨e, found⟩

/-- A last rise is no later than the step before last, if nothing rises at the last step. -/
theorem before_still (rose : r.RoseLast steps (n + 1) k i) (still : ¬ r.RisesAt steps k n) :
    r.RoseLast steps n k i := by
  have other : i ≠ n := fun same => still (same ▸ rose.rises)
  exact rose.earlier (Nat.lt_of_le_of_ne (Nat.le_of_lt_succ rose.before) other) (Nat.le_succ n)

end RoseLast

/-- A supplier has a number once it has become available, and then that of the last such moment. -/
theorem numbered (roomy : r.RoomyAll steps) (empty : ∀ k, r.find? k = none) (n : Nat)
    (found : (r.after steps n).find? k = some e) :
    (e.availableSeq = 0 ∧ e.isAvailable = false ∧ ∀ i, ¬ r.RoseLast steps n k i) ∨
      ∃ i, r.RoseLast steps n k i ∧ e.availableSeq = (r.after steps (i + 1)).availableCount := by
  induction n generalizing k e with
  | zero => cases (empty k).symm.trans found
  | succ n ih =>
    by_cases rises : r.RisesAt steps k n
    · have number := ((moved_after roomy n).at_rise rises).2.2 e found
      refine .inr ⟨n, ⟨Nat.lt_succ_self n, rises, ?_, ?_⟩, number⟩
      · intro j later less
        omega
      · intro j later less
        exact (Nat.le_antisymm less later) ▸ ⟨e, found⟩
    · -- no rise here: the number is the one of before, or the supplier is new and has none
      rcases (moved_after roomy n).kept rises found with ⟨d, old, same, was⟩ | ⟨absent, zero, down⟩
      · rcases ih old with ⟨zero, down, never⟩ | ⟨i, rose, number⟩
        · refine .inl ⟨same.trans zero, ?_, fun i rose => never i (rose.before_still rises)⟩
          exact Bool.eq_false_iff.2 (fun up => Bool.noConfusion (down.symm.trans (was up)))
        · exact .inr ⟨i, rose.later rises found, same.trans number⟩
      · refine .inl ⟨zero, down, fun i rose => ?_⟩
        obtain ⟨d, there⟩ :=
          rose.stays n (rose.before_still rises).before (Nat.le_succ n)
        cases absent.symm.trans there

section numbers
variable {m n i j : Nat} (roomy : r.RoomyAll steps) (empty : ∀ k, r.find? k = none)
include roomy empty

theorem RoseLast.number (rose : r.RoseLast steps n k i)
    (found : (r.after steps n).find? k = some e) :
    e.availableSeq = (r.after steps (i + 1)).availableCount := by
  rcases numbered roomy empty n found with ⟨_, _, never⟩ | ⟨j, other, number⟩
  · exact absurd rose (never i)
  · exact rose.unique other ▸ number

theorem number_ne_zero_iff (found : (r.after steps n).find? k = some e) :
    e.availableSeq ≠ 0 ↔ ∃ i, r.RoseLast steps n k i := by
  constructor
  · intro borne
    rcases numbered roomy empty n found with ⟨zero, _⟩ | ⟨i, rose, _⟩
    · exact absurd zero borne
    · exact ⟨i, rose⟩
  · rintro ⟨i, rose⟩ zero
    have above := count_lt_of_risesAt roomy rose.rises
    rw [← rose.number roomy empty found, zero] at above
    exact UInt64.not_lt_zero above

theorem exists_roseLast (found : (r.after steps n).find? k = some e) (up : e.isAvailable = true) :
    ∃ i, r.RoseLast steps n k i := by
  rcases numbered roomy empty n found with ⟨_, down, _⟩ | ⟨i, rose, _⟩
  · exact Bool.noConfusion (down.symm.trans up)
  · exact ⟨i, rose⟩

theorem RoseLast.number_lt_iff {d : SupplierEntry} {l : SupplierId} (rose : r.RoseLast steps m k i)
    (found : (r.after steps m).find? k = some d) (other : r.RoseLast steps n l j)
    (there : (r.after steps n).find? l = some e) : d.availableSeq < e.availableSeq ↔ i < j := by
  rw [rose.number roomy empty found, other.number roomy empty there]
  constructor
  · intro less
    apply Classical.byContradiction
    intro notEarlier
    exact UInt64.not_lt.2 (count_le roomy (Nat.succ_le_succ (Nat.not_lt.1 notEarlier))) less
  · exact count_lt roomy other.rises

/-- A number belongs to one supplier: who bears it at two moments has been there all the time
between them, and has borne it. -/
theorem same_of_number_eq {d : SupplierEntry} {l : SupplierId}
    (found : (r.after steps m).find? k = some d) (there : (r.after steps n).find? l = some e)
    (borne : d.availableSeq ≠ 0) (same : d.availableSeq = e.availableSeq) :
    k = l ∧ ∀ x, m ≤ x → x ≤ n → ∃ f, (r.after steps x).find? l = some f ∧
      f.availableSeq = e.availableSeq := by
  obtain ⟨i, rose⟩ := (number_ne_zero_iff roomy empty found).1 borne
  obtain ⟨j, other⟩ := (number_ne_zero_iff roomy empty there).1 (same ▸ borne)
  have step : i = j := by
    rcases Nat.lt_trichotomy i j with less | same | more
    · exact absurd ((rose.number_lt_iff roomy empty found other there).2 less) (by simp [same])
    · exact same
    · exact absurd ((other.number_lt_iff roomy empty there rose found).2 more) (by simp [same])
  subst step
  refine ⟨((moved_after roomy i).at_rise other.rises).2.1 k rose.rises, fun x late early => ?_⟩
  have begun : i < x := Nat.lt_of_lt_of_le rose.before late
  obtain ⟨f, here⟩ := other.stays x begun early
  have borne := (other.earlier begun early).number roomy empty here
  exact ⟨f, here, borne.trans (other.number roomy empty there).symm⟩

theorem number_of_available (found : (r.after steps n).find? k = some e)
    (up : e.isAvailable = true) :
    1 ≤ e.availableSeq ∧ e.availableSeq ≤ (r.after steps n).availableCount := by
  obtain ⟨i, rose⟩ := exists_roseLast roomy empty found up
  have borne := (number_ne_zero_iff roomy empty found).2 ⟨i, rose⟩
  refine ⟨UInt64.pos_iff_ne_zero.2 borne, ?_⟩
  rw [rose.number roomy empty found]
  exact count_le roomy rose.before

end numbers

theorem mem_candidates {c : Candidate} (listed : c ∈ r.candidates) :
    ∃ k e, r.find? k = some e ∧ e.isAvailable = true ∧ c =
      { supplier := e.descriptor.id
        netType := e.netType
        capabilities := e.capabilities
        signalStrength := e.info.signalStrength
        availableSeq := e.availableSeq } := by
  obtain ⟨e, among, same⟩ := List.mem_map.1 listed
  obtain ⟨k, found⟩ := Table.mem_values_iff.1 among
  rw [Table.find?_filter, Option.filter_eq_some_iff] at found
  exact ⟨k, e, found.1, found.2, same.symm⟩

/-- Of the candidates no two bear one number. -/
theorem candidate_eq_of_number_eq (roomy : r.RoomyAll steps) (empty : ∀ k, r.find? k = none)
    {n : Nat} {c d : Candidate} (listed : c ∈ (r.after steps n).candidates)
    (among : d ∈ (r.after steps n).candidates) (same : c.availableSeq = d.availableSeq) :
    c = d := by
  obtain ⟨k, e, found, up, rfl⟩ := mem_candidates listed
  obtain ⟨l, f, there, _, rfl⟩ := mem_candidates among
  have borne := (number_ne_zero_iff roomy empty found).2 (exists_roseLast roomy empty found up)
  obtain ⟨one, _⟩ := same_of_number_eq roomy empty found there borne same
  subst one
  cases found.symm.trans there
  rfl

theorem number_of_still {step : RegistryStep} {d : SupplierEntry} (ids : r.HasIds step)
    (still : ¬ r.Rises (r.act step) k) (found : r.find? k = some d)
    (there : (r.act step).find? k = some e) : e.availableSeq = d.availableSeq := by
  rcases (moved_act r ids).kept still there with ⟨c, was, same, _⟩ | ⟨absent, _⟩
  · cases found.symm.trans was
    exact same
  · cases absent.symm.trans found

theorem act_update (step : RegistryStep) (update : step.isUpdate = true) (k : SupplierId) :
    ((r.act step).find? k).isSome = (r.find? k).isSome := by
  have acted := r.acted step
  generalize r.act step = s at acted ⊢
  cases acted with
  | stays => rfl
  | enters | leaves => cases update
  | revised _ revised =>
    rw [find?_of_insert revised.suppliers]
    split
    · rename_i here
      rw [here, revised.found]
      rfl
    · rfl

/-- In a run from the first registration on, as long as ids do not run out and the count of
availabilities does not come round: the number of an available supplier is among those counted; a
supplier has a number once it has become available; a number belongs to one supplier for good; and
of two numbers the larger belongs to the supplier that has last become available at the later step.
Where nobody becomes available, the numbers and the count stay. So no two candidates of one signal
bear one number, and the one chosen comes before all others by signal and number alone. -/
theorem recency_law (duplicates : DuplicatePolicy) {steps : List RegistryStep}
    (roomy : ({ duplicates } : Registry).RoomyAll steps) :
    let start : Registry := { duplicates }
    let r := start.run steps
    (∀ k e, r.find? k = some e → e.isAvailable = true →
      1 ≤ e.availableSeq ∧ e.availableSeq ≤ r.availableCount) ∧
    (∀ k e, r.find? k = some e →
      (e.availableSeq ≠ 0 ↔ ∃ i, start.RoseLast steps steps.length k i)) ∧
    (∀ m n k l d e, (start.after steps m).find? k = some d →
      (start.after steps n).find? l = some e →
      d.availableSeq ≠ 0 → d.availableSeq = e.availableSeq →
      k = l ∧ ∀ x, m ≤ x → x ≤ n → ∃ f, (start.after steps x).find? l = some f ∧
        f.availableSeq = e.availableSeq) ∧
    (∀ k l d e i j, r.find? k = some d → r.find? l = some e →
      start.RoseLast steps steps.length k i → start.RoseLast steps steps.length l j →
      (d.availableSeq < e.availableSeq ↔ i < j)) ∧
    (∀ step, r.HasIds step → (∀ k, ¬ r.Rises (r.act step) k) →
      (r.act step).availableCount = r.availableCount ∧
      (∀ k d e, r.find? k = some d → (r.act step).find? k = some e →
        e.availableSeq = d.availableSeq) ∧
      (step.isUpdate = true → ∀ k, ((r.act step).find? k).isSome = (r.find? k).isSome)) ∧
    (∀ c ∈ r.candidates, ∀ d ∈ r.candidates, c.signalStrength = d.signalStrength →
      c.availableSeq = d.availableSeq → c = d) ∧
    ∀ s id, selectBest r.candidates s = some id ↔
      ∃ c ∈ r.candidates, c.satisfies s = true ∧ c.supplier = id ∧
        ∀ d ∈ r.candidates, d.satisfies s = true → d ≠ c → d.signalStrength < c.signalStrength ∨
          d.signalStrength = c.signalStrength ∧ d.availableSeq < c.availableSeq := by
  intro start r
  have empty : ∀ k, start.find? k = none := fun _ => rfl
  have here : start.after steps steps.length = r := after_length start steps
  have distinct : ∀ c ∈ r.candidates, ∀ d ∈ r.candidates, c.signalStrength = d.signalStrength →
      c.availableSeq = d.availableSeq → c = d := by
    intro c listed d among _ same
    rw [← here] at listed among
    exact candidate_eq_of_number_eq roomy empty listed among same
  refine ⟨fun k e found up => here ▸ number_of_available roomy empty (here ▸ found) up,
    fun k e found => number_ne_zero_iff roomy empty (here ▸ found),
    fun m n k l d e found there => same_of_number_eq roomy empty found there,
    fun k l d e i j found there rose other =>
      rose.number_lt_iff roomy empty (here ▸ found) other (here ▸ there),
    fun step ids still => ⟨(moved_act r ids).count_of_still still,
      fun k d e found there => number_of_still ids (still k) found there, act_update step⟩,
    distinct, fun s id => selectBest_eq_some_iff_of_distinct distinct⟩

/-- Both networks come up; the first goes down and up again, the second leaves and comes back. -/
def flapping : List RegistryStep := [
  .register .wifi "lan" ⟨0⟩,
  .register .cellular "modem" ⟨0⟩,
  .updateInfo 1 { isAvailable := true, signalStrength := 50 },
  .updateInfo 2 { isAvailable := true, signalStrength := 50 },
  .updateInfo 1 {},
  .updateInfo 1 { isAvailable := true, signalStrength := 50 },
  .unregister 2,
  .register .cellular "modem" ⟨0⟩,
  .updateInfo 3 { isAvailable := true, signalStrength := 50 }]

/-- The one that has come back bears the larger number, has risen later in the run and is chosen. -/
theorem recency_law_flapping :
    ({} : Registry).RoomyAll flapping ∧
      (∃ d e, (({} : Registry).run flapping).find? 1 = some d ∧ d.availableSeq = 3 ∧
        (({} : Registry).run flapping).find? 3 = some e ∧ e.availableSeq = 4) ∧
      (∃ i j, ({} : Registry).RoseLast flapping 9 1 i ∧ ({} : Registry).RoseLast flapping 9 3 j ∧
        i < j) ∧
      selectBest (({} : Registry).run flapping).candidates {} = some 3 := by
  have roomy : ({} : Registry).RoomyAll flapping := by decide
  obtain ⟨_, borne, _, order, _, _, chosen⟩ := recency_law .reject roomy
  have first : (({} : Registry).run flapping).find? 1 = some _ := rfl
  have second : (({} : Registry).run flapping).find? 3 = some _ := rfl
  obtain ⟨i, rose⟩ := (borne 1 _ first).1 (by decide)
  obtain ⟨j, other⟩ := (borne 3 _ second).1 (by decide)
  refine ⟨roomy, ⟨_, _, first, rfl, second, rfl⟩, ⟨i, j, rose, other, ?_⟩, ?_⟩
  · exact (order 1 3 _ _ i j first second rose other).1 (by decide)
  · exact (chosen {} 3).2 ⟨⟨3, .cellular, ⟨0⟩, 50, 4⟩, by decide, rfl, rfl, by decide⟩

end Registry

end Connectivity
