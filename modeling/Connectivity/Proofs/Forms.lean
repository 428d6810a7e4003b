import Connectivity.Proofs.JsonPrint
import Connectivity.Proofs.Outcome
import Connectivity.Wire.Form
/-! Decoders that take every way a form has of writing a value, and nothing that the form calls flawed. -/
namespace Connectivity

open Json

namespace Json

/-! Values in which nothing is broken. -/

theorem isWhole_array {vs : List Json} :
    (Json.array vs).isWhole = true ↔ ∀ v ∈ vs, v.isWhole = true := by
  rw [isWhole]
  induction vs with
  | nil => simp [allWhole]
  | cons v vs ih => simp [allWhole, ih]

theorem isWhole_object {ms : List (Option String × Json)} :
    (Json.object ms).isWhole = true ↔ ∀ m ∈ ms, m.2.isWhole = true := by
  rw [isWhole]
  induction ms with
  | nil => simp [allMembersWhole]
  | cons m ms ih => simp [allMembersWhole, ih]

def Part.Whole : Part → Prop
  | value v => v.isWhole = true
  | items vs => ∀ v ∈ vs, v.isWhole = true
  | members ms => ∀ m ∈ ms, m.2.isWhole = true

/-- What the grammar has is whole. -/
theorem Begins.whole {part : Part} {cs rest : List Char} (begins : Begins part cs rest) :
    part.Whole := by
  induction begins with
  | blank _ _ ih => exact ih
  | null | true | false | number | string | halfPair => rfl
  | noItems | noMembers => rfl
  | array _ ih => exact isWhole_array.2 ih
  | object _ ih => exact isWhole_object.2 ih
  | lastItem _ _ ih => exact List.forall_mem_singleton.2 ih
  | nextItem _ _ _ ih others => exact List.forall_mem_cons.2 ⟨ih, others⟩
  | lastMember _ _ _ _ _ ih => exact List.forall_mem_singleton.2 ih
  | nextMember _ _ _ _ _ _ ih others => exact List.forall_mem_cons.2 ⟨ih, others⟩

theorem Denotes.isWhole {text : String} {v : Json} (denotes : Denotes text v) : v.isWhole = true := by
  obtain ⟨rest, begins, -⟩ := denotes
  exact begins.whole

theorem Plain.denotes {v : Json} (plain : v.Plain) : Denotes v.text v := plain.renders.denotes

end Json

/-- `d` takes what `form` shows for what it is, and refuses what is flawed. -/
structure Form.Fits {α : Type} (form : Form α) (d : Decoder α) : Prop where
  shown : ∀ {extra a v}, form.Shows extra a v → v.isWhole = true → d v = .ok a
  flawed : ∀ {v}, form.Flawed v → ∃ fault, d v = .error fault

namespace Form
variable {α β : Type} {form : Form α} {d : Decoder α}

theorem fits_plain {f : α → Json} (back : ∀ a, d (f a) = .ok a)
    (nothing : ∃ fault, d .null = .error fault) : (plain f).Fits d where
  shown := by
    rintro _ a _ rfl -
    exact back a
  flawed := by
    rintro _ rfl
    exact nothing

/-- What is written in a way of its form can be read back. -/
theorem Fits.faithful (fits : form.Fits d) {extra : Bool} {f : α → Json}
    (shows : ∀ a, form.Shows extra a (f a)) (plain : ∀ a, (f a).Plain) : Faithful f d where
  plain
  back a := fits.shown (shows a) (plain a).denotes.isWhole

theorem fits_bool : bool.Fits decodeBool := fits_plain faithful_bool.back ⟨_, rfl⟩

theorem fits_text : text.Fits decodeString := fits_plain faithful_string.back ⟨_, rfl⟩

theorem fits_name {names : List (String × α)} {written : α → String}
    (listed : ∀ a, names.lookup (written a) = some a) : (name written).Fits (decodeName names) :=
  fits_plain (faithful_name listed).back ⟨_, rfl⟩

theorem decodeNatural_flawed {limit : Nat} {count : α → Nat} {v : Json}
    (flawed : (number limit count).Flawed v) : ∃ fault, decodeNatural limit v = .error fault := by
  cases decoded : decodeNatural limit v with
  | error fault => exact ⟨fault, rfl⟩
  | ok n =>
    obtain ⟨literal, rfl, counted, small⟩ := decodeNatural_eq_ok decoded
    rcases flawed with other | ⟨m, large, same⟩ | ⟨digits, ⟨c, there, odd⟩, same⟩
    · exact absurd rfl (other literal)
    · cases same
      rw [Decimal.natural?_digits] at counted
      cases counted
      omega
    · cases same
      obtain ⟨-, all, -⟩ := Decimal.natural?_eq_some_iff.1 counted
      exact Bool.noConfusion (odd.symm.trans (all c there))

theorem fits_number {limit : Nat} {count : α → Nat} {ofCount : Nat → α}
    (small : ∀ a, count a ≤ limit) (inverse : ∀ a, ofCount (count a) = a) :
    (number limit count).Fits (fun v => (decodeNatural limit v).map ofCount) where
  shown := by
    rintro _ a _ rfl -
    exact (faithful_word small inverse).back a
  flawed flawed := by
    obtain ⟨fault, refused⟩ := decodeNatural_flawed flawed
    exact ⟨fault, by rw [refused]; rfl⟩

theorem fits_word8 : word8.Fits decodeWord8 :=
  fits_number (fun n => Nat.le_of_lt_succ n.toNat_lt) (fun _ => UInt8.ofNat_toNat)

theorem fits_word16 : word16.Fits decodeWord16 :=
  fits_number (fun n => Nat.le_of_lt_succ n.toNat_lt) (fun _ => UInt16.ofNat_toNat)

theorem fits_word32 : word32.Fits decodeWord32 :=
  fits_number (fun n => Nat.le_of_lt_succ n.toNat_lt) (fun _ => UInt32.ofNat_toNat)

theorem fits_word64 : word64.Fits decodeWord64 :=
  fits_number (fun n => Nat.le_of_lt_succ n.toNat_lt) (fun _ => UInt64.ofNat_toNat)

theorem Fits.map (fits : form.Fits d) (make : α → β) :
    (form.map make).Fits (fun v => (d v).map make) where
  shown := by
    rintro _ b v ⟨a, rfl, shows⟩ whole
    rw [fits.shown shows whole]
    rfl
  flawed flawed := by
    obtain ⟨fault, refused⟩ := fits.flawed flawed
    exact ⟨fault, by rw [refused]; rfl⟩

theorem Fits.orNull (fits : form.Fits d) (present : ∀ {extra a}, ¬ form.Shows extra a .null) :
    form.orNull.Fits (decodeOption d) where
  shown := by
    rintro extra (_ | a) v shows whole
    · cases shows
      rfl
    · have value : v ≠ .null := by
        rintro rfl
        exact present shows
      rw [decodeOption, fits.shown shows whole]
      · rfl
      · exact value
  flawed := by
    rintro v ⟨value, flawed⟩
    obtain ⟨fault, refused⟩ := fits.flawed flawed
    refine ⟨fault, ?_⟩
    rw [decodeOption, refused]
    · rfl
    · exact value

theorem Fits.decodeAll (fits : form.Fits d) {extra : Bool} {as : List α} {vs : List Json}
    (shows : List.Forall₂ (form.Shows extra) as vs) (whole : ∀ v ∈ vs, v.isWhole = true) :
    decodeAll d vs = .ok as := by
  induction shows with
  | nil => rfl
  | cons first _ ih =>
    rw [Json.decodeAll, fits.shown first (whole _ List.mem_cons_self),
      ih (fun v there => whole v (List.mem_cons_of_mem _ there))]
    rfl

theorem decodeAll_eq_ok {vs : List Json} {as : List α} (decoded : Json.decodeAll d vs = .ok as) :
    ∀ v ∈ vs, ∃ a, d v = .ok a := by
  induction vs generalizing as with
  | nil => exact fun _ there => nomatch there
  | cons v vs ih =>
    obtain ⟨a, first, decoded⟩ := bind_eq_ok_iff.1 decoded
    obtain ⟨others, later, -⟩ := bind_eq_ok_iff.1 decoded
    exact List.forall_mem_cons.2 ⟨⟨a, first⟩, ih later⟩

theorem exists_error {ε : Type} {x : Except ε α} (refused : ∀ a, x ≠ .ok a) :
    ∃ fault, x = .error fault := by
  cases x with
  | ok a => exact absurd rfl (refused a)
  | error fault => exact ⟨fault, rfl⟩

theorem Fits.list (fits : form.Fits d) : form.list.Fits (decodeList d) where
  shown := by
    rintro _ as _ ⟨vs, rfl, shows⟩ whole
    exact fits.decodeAll shows (isWhole_array.1 whole)
  flawed := by
    rintro _ (rfl | ⟨vs, rfl, w, there, flawed⟩)
    · exact ⟨_, rfl⟩
    · refine exists_error (fun as decoded => ?_)
      obtain ⟨a, passes⟩ := decodeAll_eq_ok decoded w there
      obtain ⟨fault, refused⟩ := fits.flawed flawed
      cases passes.symm.trans refused

end Form

end Connectivity
