import Connectivity.Proofs.RecordForms
/-! Data that comes before the type of its event is kept until the type is known. What a form shows is
kept as it is if it has no strange members, and what is flawed stays so. -/
namespace Connectivity

open Json

/-! Numbers of 64 bits. -/

namespace DoublePrecision

theorem round_le (n : Nat) : round n ≤ 2 * n := by
  unfold round
  dsimp only
  split
  · omega
  · rename_i large
    -- Rounding up adds one unit, and a number has at least that.
    have positive : n ≠ 0 := by
      rintro rfl
      exact large rfl
    have unit : Nat.pow 2 (n.log2 + 1 - 53) ≤ n :=
      Nat.le_trans (Nat.pow_le_pow_right (by decide) (by omega)) (Nat.log2_self_le positive)
    have kept := Nat.div_mul_le_self n (Nat.pow 2 (n.log2 + 1 - 53))
    split
    · rw [Nat.add_mul, Nat.one_mul]
      omega
    · omega

end DoublePrecision

namespace Json

theorem le_ofDigitChars (ds : List Char) (n : Nat) : n ≤ Nat.ofDigitChars 10 ds n := by
  induction ds generalizing n with
  | nil => exact Nat.le_refl n
  | cons d ds ih =>
    rw [Nat.ofDigitChars_cons]
    exact Nat.le_trans (by omega) (ih _)

theorem significand_eq {ds : List Char} {n : Nat}
    (small : Nat.ofDigitChars 10 ds n < 0x10000000000000000) :
    Number.significand n ds = (Nat.ofDigitChars 10 ds n, 0) := by
  induction ds generalizing n with
  | nil => rfl
  | cons d ds ih =>
    rw [Nat.ofDigitChars_cons, Nat.mul_comm] at small ⊢
    have next := Nat.lt_of_le_of_lt (le_ofDigitChars ds _) small
    rw [Number.significand, if_pos next, ih small]

theorem parts_digits {ds : List Char} (digits : ∀ d ∈ ds, d.isDigit = true) :
    Number.parts ds = { whole := ds, fraction := [], exponent := 0 } := by
  have apart : ∀ c : Char, c.isDigit = false → ∀ d ∈ ds, d ≠ c := by
    rintro c dark d there rfl
    exact Bool.noConfusion (dark.symm.trans (digits d there))
  have unsigned : ds.head? ≠ some '-' := fun first =>
    apart '-' rfl '-' (List.mem_of_mem_head? first) rfl
  have unmarked : ∀ d ∈ ds, (!(d == 'e' || d == 'E')) = true := by
    intro d there
    simp [apart 'e' rfl d there, apart 'E' rfl d there]
  have pointless : ∀ d ∈ ds, (d != '.') = true := fun d there =>
    bne_iff_ne.2 (apart '.' rfl d there)
  unfold Number.parts
  simp only [if_neg unsigned, List.takeWhile_eq_self_iff.2 unmarked,
    List.dropWhile_eq_nil_iff.2 unmarked, List.takeWhile_eq_self_iff.2 pointless,
    List.dropWhile_eq_nil_iff.2 pointless]
  rfl

theorem overflows_digits {n : Nat} (small : n ≤ 0xFFFFFFFFFFFFFFFF) :
    Number.overflows (Decimal.digits n) = false := by
  have value : Nat.ofDigitChars 10 (Decimal.digits n) 0 = n := Decimal.value_digits n
  have whole : Number.significand 0 (Decimal.digits n) = (n, 0) := by
    rw [significand_eq (by rw [value]; omega), value]
  have bound := DoublePrecision.round_le n
  have finite : ¬ DoublePrecision.infinite ≤
      DoublePrecision.round n * DoublePrecision.round (Nat.pow 10 0) := by
    have far : 2 * 0xFFFFFFFFFFFFFFFF < DoublePrecision.infinite := by decide +kernel
    have unscaled : DoublePrecision.round (Nat.pow 10 0) = 1 := by decide
    rw [unscaled]
    omega
  unfold Number.overflows
  rw [parts_digits (fun d there => Decimal.isDigit_of_mem_digits there)]
  simp only [whole, Number.significand]
  split
  · rfl
  · rw [if_neg (by decide)]
    exact decide_eq_false finite

/-! Arrays and objects that are kept. -/

theorem canKeep_array {depth : Nat} {vs : List Json} :
    (Json.array vs).canKeep depth = true ↔ 0 < depth ∧ ∀ v ∈ vs, v.canKeep (depth - 1) = true := by
  have each : allCanKeep (depth - 1) vs = true ↔ ∀ v ∈ vs, v.canKeep (depth - 1) = true := by
    induction vs with
    | nil => simp [allCanKeep]
    | cons v vs ih => simp [allCanKeep, ih]
  rw [canKeep, Bool.and_eq_true, decide_eq_true_eq, each]

theorem canKeep_object {depth : Nat} {ms : List (Option String × Json)} :
    (Json.object ms).canKeep depth = true ↔
      0 < depth ∧ ∀ m ∈ ms, m.1.isSome = true ∧ m.2.canKeep (depth - 1) = true := by
  have each : membersCanKeep (depth - 1) ms = true ↔
      ∀ m ∈ ms, m.1.isSome = true ∧ m.2.canKeep (depth - 1) = true := by
    induction ms with
    | nil => simp [membersCanKeep]
    | cons m ms ih => simp [membersCanKeep, ih]
  rw [canKeep, Bool.and_eq_true, decide_eq_true_eq, each]

theorem kept_array (vs : List Json) : (Json.array vs).kept = .array (vs.map kept) := by
  rw [kept]
  congr 1
  induction vs with
  | nil => rfl
  | cons v vs ih => rw [keptItems, ih, List.map_cons]

theorem kept_object {ms : List (Option String × Json)} (some : ms ≠ []) :
    (Json.object ms).kept = .object (ms.map (fun m => (m.1, m.2.kept))) := by
  have each : keptMembers ms = ms.map (fun m => (m.1, m.2.kept)) := by
    clear some
    induction ms with
    | nil => rfl
    | cons m ms ih => rw [keptMembers, ih, List.map_cons]
  rw [kept, each]
  simp [some]

theorem eq_number_of_kept {v : Json} {literal : List Char} (same : v.kept = .number literal) :
    v = .number literal := by
  cases v with
  | number => exact same
  | object members =>
    rw [kept] at same
    split at same <;> cases same
  | _ => cases same

end Json

/-- Kept as it is, with room for this many levels. -/
def Json.Stays (v : Json) (levels : Nat) : Prop :=
  v.kept = v ∧ ∀ depth, levels ≤ depth → v.canKeep depth = true

/-- What is shown is kept as it is, and a flaw stays one. -/
structure Form.Keeps {α : Type} (form : Form α) (levels : Nat) : Prop where
  shown : ∀ {a v}, form.Shows false a v → v.Stays levels
  flawed : ∀ {v}, form.Flawed v → form.Flawed v.kept

namespace Form
variable {α β : Type} {form : Form α} {levels : Nat}

theorem keeps_bool : bool.Keeps 0 where
  shown := by
    rintro b _ rfl
    exact ⟨rfl, fun _ _ => rfl⟩
  flawed := by
    rintro _ rfl
    rfl

theorem keeps_text : text.Keeps 0 where
  shown := by
    rintro s _ rfl
    exact ⟨rfl, fun _ _ => rfl⟩
  flawed := by
    rintro _ rfl
    rfl

theorem keeps_name (written : α → String) : (name written).Keeps 0 where
  shown := by
    rintro a _ rfl
    exact ⟨rfl, fun _ _ => rfl⟩
  flawed := by
    rintro _ rfl
    rfl

theorem keeps_number {limit : Nat} {count : α → Nat} (small : ∀ a, count a ≤ 0xFFFFFFFFFFFFFFFF) :
    (number limit count).Keeps 0 where
  shown := by
    rintro a _ rfl
    refine ⟨rfl, fun _ _ => ?_⟩
    rw [natural, canKeep, overflows_digits (small a)]
    rfl
  flawed := by
    rintro v (other | ⟨n, large, rfl⟩ | ⟨literal, odd, rfl⟩)
    · exact .inl (fun literal same => other literal (eq_number_of_kept same))
    · exact .inr (.inl ⟨n, large, rfl⟩)
    · exact .inr (.inr ⟨literal, odd, rfl⟩)

theorem keeps_word8 : word8.Keeps 0 :=
  keeps_number (fun n => Nat.le_trans (Nat.le_of_lt n.toNat_lt) (by decide))

theorem keeps_word16 : word16.Keeps 0 :=
  keeps_number (fun n => Nat.le_trans (Nat.le_of_lt n.toNat_lt) (by decide))

theorem keeps_word32 : word32.Keeps 0 :=
  keeps_number (fun n => Nat.le_trans (Nat.le_of_lt n.toNat_lt) (by decide))

theorem keeps_word64 : word64.Keeps 0 := keeps_number (fun n => Nat.le_of_lt_succ n.toNat_lt)

theorem Keeps.map (keeps : form.Keeps levels) (make : α → β) : (form.map make).Keeps levels where
  shown := by
    rintro _ v ⟨a, -, shows⟩
    exact keeps.shown shows
  flawed := keeps.flawed

theorem Keeps.mono (keeps : form.Keeps levels) {more : Nat} (le : levels ≤ more) : form.Keeps more where
  shown shows := ⟨(keeps.shown shows).1, fun depth room =>
    (keeps.shown shows).2 depth (Nat.le_trans le room)⟩
  flawed := keeps.flawed

theorem stays_array {vs : List Json} (each : ∀ v ∈ vs, v.Stays levels) :
    (Json.array vs).Stays (levels + 1) := by
  have same : vs.map kept = vs :=
    (List.map_congr_left (fun v there => (each v there).1)).trans (List.map_id vs)
  refine ⟨by rw [kept_array, same], fun depth room => canKeep_array.2 ⟨by omega, fun v there => ?_⟩⟩
  exact (each v there).2 _ (by omega)

theorem stays_object {ms : List (Option String × Json)} (some : ms ≠ [])
    (each : ∀ m ∈ ms, m.1.isSome = true ∧ m.2.Stays levels) :
    (Json.object ms).Stays (levels + 1) := by
  have same : ms.map (fun m => (m.1, m.2.kept)) = ms := by
    refine (List.map_congr_left (fun m there => ?_)).trans (List.map_id ms)
    rw [(each m there).2.1]
    rfl
  refine ⟨by rw [kept_object some, same], fun depth room => canKeep_object.2 ⟨by omega, ?_⟩⟩
  exact fun m there => ⟨(each m there).1, (each m there).2.2 _ (by omega)⟩

theorem Keeps.list (keeps : form.Keeps levels) : form.list.Keeps (levels + 1) where
  shown := by
    rintro as _ ⟨vs, rfl, shows⟩
    refine stays_array ?_
    induction shows with
    | nil => exact fun _ there => nomatch there
    | cons first _ ih => exact List.forall_mem_cons.2 ⟨keeps.shown first, ih⟩
  flawed := by
    rintro _ (rfl | ⟨vs, rfl, w, there, flawed⟩)
    · exact .inl rfl
    · rw [kept_array]
      exact .inr ⟨_, rfl, w.kept, List.mem_map_of_mem there, keeps.flawed flawed⟩

end Form

namespace Slot
variable {ρ : Type} {slots : List (Slot ρ)} {r : ρ} {levels : Nat}

structure Keeps (slot : Slot ρ) (levels : Nat) : Prop where
  shown : ∀ {r v}, slot.Shows false r v → v.Stays levels
  flawed : ∀ {v}, slot.Flawed v → slot.Flawed v.kept

/-- Something is said of a record that has a field without a default. -/
theorem Named.ne_nil {named : List (String × Json)} (said : Named false r slots named) {slot : Slot ρ}
    (field : slot ∈ slots) (needed : ¬ slot.MayLack r) : named ≠ [] := by
  induction said with
  | nil => cases field
  | said => exact List.cons_ne_nil _ _
  | left lacks _ ih =>
    rcases List.mem_cons.1 field with rfl | later
    · exact absurd lacks needed
    · exact ih later

theorem Listed.checked {items : List Json} (said : Listed false r slots items) :
    ∀ v ∈ items, ∃ slot ∈ slots, slot.Shows false r v := by
  induction said with
  | @said slot _ _ _ shows _ ih =>
    refine List.forall_mem_cons.2 ⟨⟨slot, List.mem_cons_self, shows⟩, fun v there => ?_⟩
    obtain ⟨later, field, shows⟩ := ih v there
    exact ⟨later, List.mem_cons_of_mem _ field, shows⟩
  | ended => exact fun _ there => nomatch there

theorem stays_of_presents {v : Json} (each : ∀ slot ∈ slots, slot.Keeps levels)
    (needed : ∃ slot ∈ slots, ¬ slot.MayLack r) (presents : Presents slots false r v) :
    v.Stays (levels + 1) := by
  cases presents with
  | @object named others ms said strange permitted order =>
    -- Strange members could have numbers or depth that cannot be kept.
    have alone : others = [] := by
      by_contra more
      cases permitted more
    rw [alone, List.append_nil] at order
    obtain ⟨slot, field, asked⟩ := needed
    refine Form.stays_object ?_ (fun m there => ?_)
    · rintro rfl
      exact said.ne_nil field asked (by simpa using order)
    · obtain ⟨n, listed, rfl⟩ := List.mem_map.1 (order.mem_iff.1 there)
      obtain ⟨slot, field, -, shows⟩ := said.checked listed
      exact ⟨rfl, (each slot field).shown shows⟩
  | array said =>
    refine Form.stays_array (fun v there => ?_)
    obtain ⟨slot, field, shows⟩ := said.checked v there
    exact (each slot field).shown shows

/-- An empty object is kept as null, which is as flawed. -/
theorem spoils_kept {v : Json} (each : ∀ slot ∈ slots, slot.Keeps levels) (spoils : Spoils slots v) :
    Spoils slots v.kept := by
  have keys (ms : List (Option String × Json)) :
      (ms.map (fun m => (m.1, m.2.kept))).map (·.1) = ms.map (·.1) := by
    rw [List.map_map]
    rfl
  cases spoils with
  | null => exact .null
  | @twice slot ms field again =>
    have some : ms ≠ [] := by
      rintro rfl
      cases again
    rw [kept_object some]
    exact .twice field (by rw [keys]; exact again)
  | @missing slot ms field needed absent =>
    by_cases some : ms = []
    · subst some
      exact .null
    · rw [kept_object some]
      exact .missing field needed (List.forall_mem_map.2 absent)
  | @member slot ms v field said flawed =>
    rw [kept_object (List.ne_nil_of_mem said)]
    exact .member field (List.mem_map.2 ⟨_, said, rfl⟩) ((each slot field).flawed flawed)
  | long more =>
    rw [kept_array]
    exact .long (by rw [List.length_map]; exact more)
  | short field needed ended =>
    rw [kept_array]
    exact .short field needed (by rw [List.length_map]; exact ended)
  | @item slot items v i field said flawed =>
    rw [kept_array]
    refine .item field (v := v.kept) ?_ ((each slot (List.mem_of_getElem? field)).flawed flawed)
    rw [List.getElem?_map, said]
    rfl

end Slot

namespace Form
variable {α ρ : Type} {form : Form α} {levels : Nat}

theorem Keeps.required (keeps : form.Keeps levels) (name : String) (get : ρ → α) :
    (Slot.required name form get).Keeps levels := ⟨keeps.shown, keeps.flawed⟩

theorem Keeps.defaulted (keeps : form.Keeps levels) (name : String) (get : ρ → α) (default : α) :
    (Slot.defaulted name form get default).Keeps levels := ⟨keeps.shown, keeps.flawed⟩

theorem keeps_record {slots : List (Slot ρ)} (each : ∀ slot ∈ slots, slot.Keeps levels)
    (needed : ∃ slot ∈ slots, ∀ r, ¬ slot.MayLack r) : (record slots).Keeps (levels + 1) where
  shown presents := by
    obtain ⟨slot, field, asked⟩ := needed
    exact Slot.stays_of_presents each ⟨slot, field, asked _⟩ presents
  flawed := Slot.spoils_kept each

end Form

end Connectivity
