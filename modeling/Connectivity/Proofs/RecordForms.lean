import Mathlib.Data.List.Nodup
import Connectivity.Proofs.Forms
import Connectivity.Table.Lemmas
/-! Records in all their presentations. However its members are ordered and whatever stands between
them, what is met says the same of every field; and where a field is spoilt the record is refused. -/
namespace Connectivity

open Json

namespace Json

/-! What is met of a record. -/

variable {fields : List Field} {met out : List (String × Json)}

/-- The members whose keys are fields, in the order of the text. -/
def known (fields : List Field) (ms : List (Option String × Json)) : List (String × Json) :=
  ms.filterMap (fun m => m.1.bind (fun key =>
    (fields.find? (·.name == key)).map (fun _ => (key, m.2))))

theorem known_cons_of_found {field : Field} {key : String} {v : Json}
    {ms : List (Option String × Json)} (found : fields.find? (·.name == key) = some field) :
    known fields ((some key, v) :: ms) = (key, v) :: known fields ms := by
  simp [known, found]

theorem known_cons_of_absent {key : String} {v : Json} {ms : List (Option String × Json)}
    (absent : fields.find? (·.name == key) = none) :
    known fields ((some key, v) :: ms) = known fields ms := by
  simp [known, absent]

theorem meetMembers_eq_ok {ms : List (Option String × Json)}
    (done : meetMembers fields met ms = .ok out) :
    out = met ++ known fields ms ∧ ((met.map (·.1)).Nodup → (out.map (·.1)).Nodup) ∧
      ∀ m ∈ known fields ms, ∃ field, fields.find? (·.name == m.1) = some field ∧
        field.check m.2 = .ok () := by
  induction ms generalizing met with
  | nil =>
    cases done
    exact ⟨by simp [known], id, fun _ there => nomatch there⟩
  | cons m ms ih =>
    obtain ⟨_ | key, v⟩ := m
    · cases done
    · rw [meetMembers] at done
      cases found : fields.find? (·.name == key) with
      | none =>
        simp only [found] at done
        split at done
        · rw [known_cons_of_absent found]
          exact ih done
        · cases done
      | some field =>
        simp only [found] at done
        split at done
        · cases done
        · rename_i fresh
          obtain ⟨_, passes, done⟩ := bind_eq_ok_iff.1 done
          obtain ⟨shape, distinct, others⟩ := ih done
          rw [known_cons_of_found found]
          refine ⟨by simp [shape], fun once => distinct ?_,
            List.forall_mem_cons.2 ⟨⟨field, found, passes⟩, others⟩⟩
          rw [List.map_append, List.nodup_append]
          refine ⟨once, List.nodup_singleton _, ?_⟩
          rintro _ earlier _ later rfl
          obtain ⟨n, there, same⟩ := List.mem_map.1 earlier
          obtain rfl : n.1 = key := same.trans (List.mem_singleton.1 later)
          refine fresh ?_
          cases absent : met.lookup n.1 with
          | none => exact absurd rfl (lookup_eq_none_iff_ne.1 absent n there)
          | some _ => rfl

theorem meetMembers_of_known {ms : List (Option String × Json)}
    (keys : ∀ m ∈ ms, ∃ key, m.1 = some key) (whole : ∀ m ∈ ms, m.2.isWhole = true)
    (passes : ∀ m ∈ known fields ms, ∃ field, fields.find? (·.name == m.1) = some field ∧
      field.check m.2 = .ok ())
    (distinct : ((met ++ known fields ms).map (·.1)).Nodup) :
    meetMembers fields met ms = .ok (met ++ known fields ms) := by
  induction ms generalizing met with
  | nil => simp [meetMembers, known]
  | cons m ms ih =>
    obtain ⟨key, v⟩ := m
    obtain ⟨⟨key, rfl⟩, named⟩ := List.forall_mem_cons.1 keys
    obtain ⟨sound, whole⟩ := List.forall_mem_cons.1 whole
    rw [meetMembers]
    cases found : fields.find? (·.name == key) with
    | none =>
      rw [known_cons_of_absent found] at passes distinct ⊢
      simp only [sound, if_true]
      exact ih named whole passes distinct
    | some field =>
      rw [known_cons_of_found found] at passes distinct ⊢
      obtain ⟨⟨checked, same, passed⟩, passes⟩ := List.forall_mem_cons.1 passes
      cases found.symm.trans same
      have apart := (List.nodup_append.1 (List.map_append ▸ distinct)).2.2
      have fresh : met.lookup key = none := lookup_eq_none_iff_ne.2 (fun n there =>
        apart n.1 (List.mem_map_of_mem there) key List.mem_cons_self)
      have later : meetMembers fields (met ++ [(key, v)]) ms =
          .ok (met ++ [(key, v)] ++ known fields ms) :=
        ih named whole passes (by simpa using distinct)
      simp only [fresh, Option.isSome_none, Bool.false_eq_true, if_false, passed, ok_bind]
      simpa using later

theorem meetItems_eq_ok {items : List Json} (done : meetItems fields items = .ok out) :
    items.length ≤ fields.length ∧ out.map (·.1) = (fields.map (·.name)).take items.length ∧
      ∀ (i : Nat) field v, fields[i]? = some field → items[i]? = some v → field.check v = .ok () := by
  induction items generalizing fields out with
  | nil =>
    have empty : out = [] := by cases fields <;> cases done <;> rfl
    simp [empty]
  | cons v items ih =>
    cases fields with
    | nil => cases done
    | cons field fields =>
      obtain ⟨_, passes, done⟩ := bind_eq_ok_iff.1 done
      obtain ⟨others, later, same⟩ := bind_eq_ok_iff.1 done
      cases same
      obtain ⟨length, names, checks⟩ := ih later
      refine ⟨Nat.succ_le_succ length, by simp [names], ?_⟩
      rintro (_ | i) checked w
      · rintro ⟨⟩ ⟨⟩
        exact passes
      · exact checks i checked w

end Json

/-- The field checks what the slot says of it. -/
structure Json.Field.Fits {ρ : Type} (field : Field) (slot : Slot ρ) : Prop where
  name : field.name = slot.name
  shown : ∀ {extra r v}, slot.Shows extra r v → v.isWhole = true → field.check v = .ok ()
  flawed : ∀ {v}, slot.Flawed v → field.check v ≠ .ok ()

namespace Form
variable {α ρ : Type} {form : Form α} {d : Decoder α}

theorem Fits.required (fits : form.Fits d) (name : String) (get : ρ → α) :
    (Field.of name d).Fits (Slot.required name form get) where
  name := rfl
  shown shows whole := by
    simp only [Field.of, fits.shown shows whole]
    rfl
  flawed flawed := by
    obtain ⟨fault, refused⟩ := fits.flawed flawed
    simp only [Field.of, refused]
    exact nofun

theorem Fits.defaulted (fits : form.Fits d) (name : String) (get : ρ → α) (default : α) :
    (Field.of name d).Fits (Slot.defaulted name form get default) :=
  ⟨rfl, (fits.required name get).shown, (fits.required name get).flawed⟩

end Form

namespace Slot
variable {α ρ : Type} {slots : List (Slot ρ)} {extra : Bool} {r : ρ}

/-- What was met says of every field what `r` has there, or says nothing where that is the default. -/
def Conveys (slots : List (Slot ρ)) (extra : Bool) (r : ρ) (met : List (String × Json)) : Prop :=
  ∀ slot ∈ slots, (∃ v, met.lookup slot.name = some v ∧ slot.Shows extra r v ∧ v.isWhole = true) ∨
    (met.lookup slot.name = none ∧ slot.MayLack r)

theorem Conveys.needed {met : List (String × Json)} (conveys : Conveys slots extra r met)
    {name : String} {form : Form α} {d : Decoder α} (get : ρ → α) (fits : form.Fits d)
    (field : required name form get ∈ slots) : Json.needed met name d = .ok (get r) := by
  rcases conveys _ field with ⟨v, said, shows, whole⟩ | ⟨-, lacks⟩
  · change met.lookup name = some v at said
    rw [Json.needed, said]
    exact fits.shown shows whole
  · cases lacks

theorem Conveys.optional {met : List (String × Json)} (conveys : Conveys slots extra r met)
    {name : String} {form : Form α} {default : α} {d : Decoder α} (get : ρ → α) (fits : form.Fits d)
    (field : defaulted name form get default ∈ slots) :
    Json.optional met name d default = .ok (get r) := by
  rcases conveys _ field with ⟨v, said, shows, whole⟩ | ⟨unsaid, lacks⟩
  · change met.lookup name = some v at said
    rw [Json.optional, said]
    exact fits.shown shows whole
  · change met.lookup name = none at unsaid
    change get r = default at lacks
    rw [Json.optional, unsaid, lacks]

theorem Named.keys {named : List (String × Json)} (said : Named extra r slots named) :
    (named.map (·.1)).Sublist (slots.map (·.name)) := by
  induction said with
  | nil => exact .slnil
  | said _ _ ih => exact ih.cons_cons _
  | left _ _ ih => exact ih.cons _

/-- Names being distinct, a field is said by its own member or left out. -/
theorem Named.mem_cases {named : List (String × Json)} (said : Named extra r slots named)
    (distinct : (slots.map (·.name)).Nodup) {slot : Slot ρ} (field : slot ∈ slots) :
    (∃ v, (slot.name, v) ∈ named ∧ slot.Shows extra r v) ∨
      (slot.name ∉ named.map (·.1) ∧ slot.MayLack r) := by
  induction said with
  | nil => cases field
  | @said first slots v named shows more ih =>
    obtain ⟨fresh, distinct⟩ := List.nodup_cons.1 distinct
    rcases List.mem_cons.1 field with rfl | later
    · exact .inl ⟨v, List.mem_cons_self, shows⟩
    · have other : slot.name ≠ first.name := fun same =>
        fresh (List.mem_map.2 ⟨slot, later, same⟩)
      rcases ih distinct later with ⟨w, there, shows⟩ | ⟨absent, lacks⟩
      · exact .inl ⟨w, List.mem_cons_of_mem _ there, shows⟩
      · exact .inr ⟨by simpa [other] using absent, lacks⟩
  | @left first slots named lacks more ih =>
    obtain ⟨fresh, distinct⟩ := List.nodup_cons.1 distinct
    rcases List.mem_cons.1 field with rfl | later
    · exact .inr ⟨fun there => fresh (more.keys.subset there), lacks⟩
    · exact ih distinct later

/-- Members in any order say what the fields in order do. -/
theorem Named.conveys {named met : List (String × Json)} (said : Named extra r slots named)
    (distinct : (slots.map (·.name)).Nodup) (order : met.Perm named)
    (whole : ∀ m ∈ met, m.2.isWhole = true) : Conveys slots extra r met := by
  intro slot field
  have keys : (met.map (·.1)).Nodup :=
    (order.map _).nodup_iff.2 (said.keys.nodup distinct)
  rcases said.mem_cases distinct field with ⟨v, there, shows⟩ | ⟨absent, lacks⟩
  · have there := order.mem_iff.2 there
    exact .inl ⟨v, (lookup_eq_some_iff_of_nodup keys).2 there, shows, whole _ there⟩
  · refine .inr ⟨lookup_eq_none_iff_ne.2 (fun m there same => absent ?_), lacks⟩
    rw [← same]
    exact List.mem_map_of_mem (order.mem_iff.1 there)

variable {fields : List Field}

theorem find?_of_fits (fits : List.Forall₂ Field.Fits fields slots) (distinct : (slots.map (·.name)).Nodup)
    {slot : Slot ρ} (there : slot ∈ slots) :
    ∃ field, fields.find? (·.name == slot.name) = some field ∧ field.Fits slot := by
  induction fits with
  | nil => cases there
  | @cons field first fields slots fit _ ih =>
    obtain ⟨fresh, distinct⟩ := List.nodup_cons.1 distinct
    rcases List.mem_cons.1 there with rfl | later
    · exact ⟨field, by simp [fit.name], fit⟩
    · have other : first.name ≠ slot.name := fun same =>
        fresh (List.mem_map.2 ⟨slot, later, same.symm⟩)
      obtain ⟨found, here, fits⟩ := ih distinct later
      exact ⟨found, by simpa [fit.name, other] using here, fits⟩

theorem find?_of_strange (fits : List.Forall₂ Field.Fits fields slots) {key : String}
    (strange : ∀ slot ∈ slots, slot.name ≠ key) : fields.find? (·.name == key) = none := by
  induction fits with
  | nil => rfl
  | cons fit _ ih =>
    obtain ⟨other, others⟩ := List.forall_mem_cons.1 strange
    simpa [fit.name, other] using ih others

theorem Named.checked {named : List (String × Json)} (said : Named extra r slots named) {m : String × Json}
    (there : m ∈ named) : ∃ slot ∈ slots, slot.name = m.1 ∧ slot.Shows extra r m.2 := by
  induction said with
  | nil => cases there
  | @said first slots v named shows _ ih =>
    rcases List.mem_cons.1 there with rfl | later
    · exact ⟨first, List.mem_cons_self, rfl, shows⟩
    · obtain ⟨slot, field, found⟩ := ih later
      exact ⟨slot, List.mem_cons_of_mem _ field, found⟩
  | left _ _ ih =>
    obtain ⟨slot, field, found⟩ := ih there
    exact ⟨slot, List.mem_cons_of_mem _ field, found⟩

theorem keys_of_order {named : List (String × Json)} {others ms : List (Option String × Json)}
    (strange : ∀ m ∈ others, ∃ key, m.1 = some key ∧ ∀ slot ∈ slots, slot.name ≠ key)
    (order : ms.Perm (named.map (fun m => (some m.1, m.2)) ++ others)) :
    ∀ m ∈ ms, ∃ key, m.1 = some key := by
  intro m there
  rcases List.mem_append.1 (order.mem_iff.1 there) with own | foreign
  · obtain ⟨n, -, rfl⟩ := List.mem_map.1 own
    exact ⟨n.1, rfl⟩
  · obtain ⟨key, same, -⟩ := strange m foreign
    exact ⟨key, same⟩

/-- Of an object's members the strange ones are passed over. -/
theorem known_of_order {named : List (String × Json)} {others ms : List (Option String × Json)}
    (fits : List.Forall₂ Field.Fits fields slots) (distinct : (slots.map (·.name)).Nodup)
    (said : Named extra r slots named)
    (strange : ∀ m ∈ others, ∃ key, m.1 = some key ∧ ∀ slot ∈ slots, slot.name ≠ key)
    (order : ms.Perm (named.map (fun m => (some m.1, m.2)) ++ others)) :
    (known fields ms).Perm named := by
  have apart : known fields (named.map (fun m => (some m.1, m.2)) ++ others) = named := by
    have own : named.filterMap (fun m => (fields.find? (·.name == m.1)).map (fun _ => (m.1, m.2))) =
        named := by
      have each : ∀ m ∈ named, (fields.find? (·.name == m.1)).map (fun _ => (m.1, m.2)) = some m := by
        intro m there
        obtain ⟨slot, field, same, -⟩ := said.checked there
        obtain ⟨_, found, -⟩ := find?_of_fits fits distinct field
        rw [← same, found]
        exact congrArg some (Prod.ext same rfl)
      rw [List.filterMap_congr each, List.filterMap_some]
    have foreign : known fields others = [] := by
      refine List.filterMap_eq_nil_iff.2 (fun m there => ?_)
      obtain ⟨key, same, other⟩ := strange m there
      rw [same, Option.bind_some, find?_of_strange fits other]
      rfl
    rw [known, List.filterMap_append, ← known, ← known, foreign, known, List.filterMap_map]
    simpa [Function.comp_def] using own
  exact apart ▸ order.filterMap _

theorem meet_object {ms : List (Option String × Json)} {named : List (String × Json)}
    {others : List (Option String × Json)} (fits : List.Forall₂ Field.Fits fields slots)
    (distinct : (slots.map (·.name)).Nodup) (said : Named extra r slots named)
    (strange : ∀ m ∈ others, ∃ key, m.1 = some key ∧ ∀ slot ∈ slots, slot.name ≠ key)
    (order : ms.Perm (named.map (fun m => (some m.1, m.2)) ++ others))
    (whole : ∀ m ∈ ms, m.2.isWhole = true) :
    ∃ met, meet fields (.object ms) = .ok met ∧ Conveys slots extra r met := by
  have same := known_of_order fits distinct said strange order
  have sound : ∀ m ∈ known fields ms, m.2.isWhole = true := by
    intro m there
    obtain ⟨n, listed, from_n⟩ := List.mem_filterMap.1 there
    obtain ⟨key, -, kept⟩ := Option.bind_eq_some_iff.1 from_n
    obtain ⟨_, -, rfl⟩ := Option.map_eq_some_iff.1 kept
    exact whole n listed
  refine ⟨known fields ms, ?_, said.conveys distinct same sound⟩
  change meetMembers fields [] ms = .ok ([] ++ known fields ms)
  refine meetMembers_of_known (keys_of_order strange order) whole (fun m there => ?_) ?_
  · obtain ⟨slot, field, name, shows⟩ := said.checked (same.mem_iff.1 there)
    obtain ⟨checked, found, fit⟩ := find?_of_fits fits distinct field
    exact ⟨checked, name ▸ found, fit.shown shows (sound m there)⟩
  · exact (same.map _).nodup_iff.2 (said.keys.nodup distinct)

theorem named_of_lack {slots : List (Slot ρ)} (lack : ∀ slot ∈ slots, slot.MayLack r) :
    Named extra r slots [] := by
  induction slots with
  | nil => exact .nil
  | cons slot slots ih =>
    obtain ⟨first, others⟩ := List.forall_mem_cons.1 lack
    exact .left first (ih others)

theorem meet_array {items : List Json} (fits : List.Forall₂ Field.Fits fields slots)
    (said : Listed extra r slots items) (whole : ∀ v ∈ items, v.isWhole = true) :
    ∃ met, meetItems fields items = .ok met ∧ Named extra r slots met ∧
      ∀ m ∈ met, m.2.isWhole = true := by
  induction said generalizing fields with
  | @said slot slots v items shows more ih =>
    obtain ⟨sound, whole⟩ := List.forall_mem_cons.1 whole
    obtain ⟨field, fields, fit, later, rfl⟩ := List.forall₂_cons_right_iff.1 fits
    obtain ⟨met, done, named, each⟩ := ih later whole
    refine ⟨(field.name, v) :: met, ?_, ?_, List.forall_mem_cons.2 ⟨sound, each⟩⟩
    · rw [meetItems, fit.shown shows sound, ok_bind, done]
      rfl
    · rw [fit.name]
      exact .said shows named
  | @ended slots lack =>
    refine ⟨[], ?_, named_of_lack lack, fun _ there => nomatch there⟩
    cases fields <;> rfl

theorem meet_of_presents {v : Json} (fits : List.Forall₂ Field.Fits fields slots)
    (distinct : (slots.map (·.name)).Nodup) (presents : Presents slots extra r v)
    (whole : v.isWhole = true) : ∃ met, meet fields v = .ok met ∧ Conveys slots extra r met := by
  cases presents with
  | object said strange permitted order =>
    exact meet_object fits distinct said strange order (isWhole_object.1 whole)
  | array said =>
    obtain ⟨met, done, named, sound⟩ := meet_array fits said (isWhole_array.1 whole)
    exact ⟨met, done, named.conveys distinct (.refl _) sound⟩

/-! What is spoilt is not met, or something is missing in what was met. -/

/-- A key is met as often as it is written. -/
theorem count_known {field : Field} {key : String} (found : fields.find? (·.name == key) = some field)
    (ms : List (Option String × Json)) :
    ((known fields ms).map (·.1)).count key = (ms.map (·.1)).count (some key) := by
  induction ms with
  | nil => rfl
  | cons m ms ih =>
    obtain ⟨_ | other, v⟩ := m
    · simpa [known] using ih
    · cases here : fields.find? (·.name == other) with
      | none =>
        have apart : other ≠ key := by
          rintro rfl
          cases here.symm.trans found
        rw [known_cons_of_absent here, ih]
        simp [apart]
      | some _ =>
        rw [known_cons_of_found here, List.map_cons, List.map_cons, List.count_cons, List.count_cons, ih]
        simp

theorem mem_known {field : Field} {key : String} (found : fields.find? (·.name == key) = some field)
    {ms : List (Option String × Json)} {v : Json} :
    (key, v) ∈ known fields ms ↔ (some key, v) ∈ ms := by
  simp only [known, List.mem_filterMap, Option.bind_eq_some_iff, Option.map_eq_some_iff]
  constructor
  · rintro ⟨⟨_, _⟩, there, other, rfl, _, -, same⟩
    cases same
    exact there
  · exact fun there => ⟨_, there, key, rfl, field, found, rfl⟩

theorem names_of_fits (fits : List.Forall₂ Field.Fits fields slots) :
    fields.map (·.name) = slots.map (·.name) := by
  induction fits with
  | nil => rfl
  | cons fit _ ih => rw [List.map_cons, List.map_cons, fit.name, ih]

theorem getElem?_of_fits (fits : List.Forall₂ Field.Fits fields slots) {i : Nat} {slot : Slot ρ}
    (there : slots[i]? = some slot) : ∃ field, fields[i]? = some field ∧ field.Fits slot := by
  induction fits generalizing i with
  | nil => cases there
  | @cons field _ _ _ fit _ ih =>
    cases i with
    | zero =>
      cases there
      exact ⟨field, rfl, fit⟩
    | succ i => exact ih there

/-- What is met of a spoilt record lacks a field that is needed. Most flaws leave nothing to be met. -/
theorem unmet_of_spoils {v : Json} {met : List (String × Json)}
    (fits : List.Forall₂ Field.Fits fields slots) (distinct : (slots.map (·.name)).Nodup)
    (spoils : Spoils slots v) (done : meet fields v = .ok met) :
    ∃ slot ∈ slots, slot.needed = true ∧ met.lookup slot.name = none := by
  cases spoils with
  | null => cases done
  | @twice slot ms field again =>
    obtain ⟨shape, once, -⟩ := meetMembers_eq_ok done
    obtain ⟨_, found, -⟩ := find?_of_fits fits distinct field
    rw [List.nil_append] at shape
    have single := List.nodup_iff_count_le_one.1 (once List.nodup_nil) slot.name
    rw [shape, count_known found] at single
    omega
  | @missing slot ms field needed absent =>
    obtain ⟨shape, -, -⟩ := meetMembers_eq_ok done
    obtain ⟨_, found, -⟩ := find?_of_fits fits distinct field
    refine ⟨slot, field, needed, lookup_eq_none_iff_ne.2 (fun m there same => ?_)⟩
    rw [shape, List.nil_append] at there
    have said : (slot.name, m.2) ∈ known fields ms := same ▸ there
    exact absent _ ((mem_known found).1 said) rfl
  | @member slot ms v field said flawed =>
    obtain ⟨-, -, passes⟩ := meetMembers_eq_ok done
    obtain ⟨_, found, fit⟩ := find?_of_fits fits distinct field
    obtain ⟨checked, same, passed⟩ := passes _ ((mem_known found).2 said)
    cases found.symm.trans same
    exact absurd passed (fit.flawed flawed)
  | long more =>
    obtain ⟨length, -, -⟩ := meetItems_eq_ok done
    have same := fits.length_eq
    omega
  | @short slot items i field needed ended =>
    obtain ⟨-, names, -⟩ := meetItems_eq_ok done
    rw [names_of_fits fits] at names
    -- The field comes after those that are said.
    have later : slot.name ∈ (slots.map (·.name)).drop items.length := by
      refine List.mem_of_getElem? (i := i - items.length) ?_
      rw [List.getElem?_drop, Nat.add_sub_cancel' ended, List.getElem?_map, field]
      rfl
    have apart := List.disjoint_take_drop distinct (Nat.le_refl items.length)
    refine ⟨slot, List.mem_of_getElem? field, needed,
      lookup_eq_none_iff_ne.2 (fun m there same => apart ?_ later)⟩
    rw [← names, ← same]
    exact List.mem_map_of_mem there
  | @item slot items v i field said flawed =>
    obtain ⟨-, -, checks⟩ := meetItems_eq_ok done
    obtain ⟨_, found, fit⟩ := getElem?_of_fits fits field
    exact absurd (checks i _ v found said) (fit.flawed flawed)

end Slot

namespace Slot
variable {α ρ : Type} {slots : List (Slot ρ)} {known : ρ → Prop} {form : Form α} {d : Decoder α}
  {get : ρ → α} {next : α → List (String × Json) → Except Fault ρ}

/-- From what conveys these fields of a record of which this is known already the record is built, and
none is built without the fields that are needed. -/
structure Builds (slots : List (Slot ρ)) (known : ρ → Prop)
    (build : List (String × Json) → Except Fault ρ) : Prop where
  built : ∀ {extra r met}, known r → Conveys slots extra r met → build met = .ok r
  asked : ∀ {met r}, build met = .ok r →
    ∀ slot ∈ slots, slot.needed = true → met.lookup slot.name ≠ none

theorem Builds.nil {made : ρ} (all : ∀ r, known r → made = r) :
    Builds [] known (fun _ => pure made) where
  built is _ := congrArg Except.ok (all _ is)
  asked _ _ field := nomatch field

theorem Builds.needed {name : String} (fits : form.Fits d)
    (builds : ∀ a, Builds slots (fun r => known r ∧ get r = a) (next a)) :
    Builds (required name form get :: slots) known
      (fun met => Json.needed met name d >>= fun a => next a met) where
  built is conveys := by
    rw [conveys.needed get fits List.mem_cons_self, ok_bind]
    exact (builds _).built ⟨is, rfl⟩ (fun slot field => conveys slot (List.mem_cons_of_mem _ field))
  asked {met r} done := by
    obtain ⟨a, found, later⟩ := bind_eq_ok_iff.1 done
    refine List.forall_mem_cons.2 ⟨fun _ absent => ?_, (builds a).asked later⟩
    change met.lookup name = none at absent
    rw [Json.needed, absent] at found
    cases found

theorem Builds.optional {name : String} {default : α} (fits : form.Fits d)
    (builds : ∀ a, Builds slots (fun r => known r ∧ get r = a) (next a)) :
    Builds (defaulted name form get default :: slots) known
      (fun met => Json.optional met name d default >>= fun a => next a met) where
  built is conveys := by
    rw [conveys.optional get fits List.mem_cons_self, ok_bind]
    exact (builds _).built ⟨is, rfl⟩ (fun slot field => conveys slot (List.mem_cons_of_mem _ field))
  asked done := by
    obtain ⟨a, -, later⟩ := bind_eq_ok_iff.1 done
    exact List.forall_mem_cons.2 ⟨nofun, (builds a).asked later⟩

end Slot

/-- A decoder that meets the fields of a record and builds it from them. -/
theorem Form.fits_record {ρ : Type} {slots : List (Slot ρ)} {fields : List Field}
    {build : List (String × Json) → Except Fault ρ} (fits : List.Forall₂ Field.Fits fields slots)
    (distinct : (slots.map (·.name)).Nodup) (builds : Slot.Builds slots (fun _ => True) build) :
    (record slots).Fits (fun v => meet fields v >>= build) where
  shown := by
    intro extra r v presents whole
    obtain ⟨met, done, conveys⟩ := Slot.meet_of_presents fits distinct presents whole
    rw [done, ok_bind, builds.built trivial conveys]
  flawed := by
    intro v spoils
    refine exists_error (fun r decoded => ?_)
    obtain ⟨met, done, whole⟩ := bind_eq_ok_iff.1 decoded
    obtain ⟨slot, field, needed, absent⟩ := Slot.unmet_of_spoils fits distinct spoils done
    exact builds.asked whole slot field needed absent

end Connectivity
