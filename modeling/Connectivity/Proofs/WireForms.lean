import Connectivity.Proofs.KeptForms
/-! The forms of the types that are sent, and that their decoders are for them. Every type is settled
from the types of its parts. -/
namespace Connectivity

open Json

namespace Slot
variable {ρ : Type} {slots : List (Slot ρ)} {extra : Bool} {r : ρ}

/-- The members of a record alone, in any order. -/
theorem presents_of_order {named : List (String × Json)} {members : List (Option String × Json)}
    (said : Named extra r slots named) (order : members.Perm (named.map (fun m => (some m.1, m.2)))) :
    Presents slots extra r (.object members) := by
  have nothing : ∀ m ∈ ([] : List (Option String × Json)),
      ∃ key, m.1 = some key ∧ ∀ slot ∈ slots, slot.name ≠ key := fun _ there => nomatch there
  exact .object said nothing (absurd rfl) (by rw [List.append_nil]; exact order)

/-- A record as it is written shows all fields in order. -/
theorem presents_record {members : List (String × Json)} (said : Named extra r slots members) :
    Presents slots extra r (.record members) := presents_of_order said (.refl _)

end Slot

namespace Form
variable {α : Type} {form : Form α}

theorem shows_list {extra : Bool} {f : α → Json} (shows : ∀ a, form.Shows extra a (f a))
    (as : List α) : form.list.Shows extra as (.array (as.map f)) :=
  ⟨_, rfl, List.forall₂_map_right_iff.2 (List.forall₂_same.2 (fun a _ => shows a))⟩

end Form

theorem NetType.fits : (Form.name NetType.name).Fits decode :=
  Form.fits_name (fun t => by cases t <;> rfl)

theorem AddressFamily.fits : (Form.name AddressFamily.name).Fits decode :=
  Form.fits_name (fun f => by cases f <;> rfl)

theorem AddressKind.fits : (Form.name AddressKind.name).Fits decode :=
  Form.fits_name (fun k => by cases k <;> rfl)

theorem RequestKind.fits : (Form.name RequestKind.name).Fits decode :=
  Form.fits_name (fun k => by cases k <;> rfl)

theorem DuplicatePolicy.fits : (Form.name DuplicatePolicy.name).Fits decode :=
  Form.fits_name (fun p => by cases p <;> rfl)

theorem BackgroundPolicy.fits : (Form.name BackgroundPolicy.name).Fits decode :=
  Form.fits_name (fun p => by cases p <;> rfl)

theorem ResultCode.fits : (Form.number 0xFF ResultCode.number).Fits decode where
  shown := by
    rintro _ c _ rfl -
    cases c <;> rfl
  flawed flawed := by
    obtain ⟨fault, refused⟩ := Form.decodeNatural_flawed flawed
    exact ⟨fault, by rw [decode, decodeWord8, refused]; rfl⟩

theorem Capabilities.fits : form.Fits decode := Form.fits_word64.map Capabilities.mk

namespace SupplierDescriptor

theorem fits : form.Fits decode := by
  refine Form.fits_record
    (.cons (Form.fits_word32.required ..) <| .cons (NetType.fits.required ..) <|
      .cons (Form.fits_text.required ..) <| .cons (Capabilities.fits.required ..) .nil)
    (by decide)
    (.needed Form.fits_word32 fun _ => .needed NetType.fits fun _ =>
      .needed Form.fits_text fun _ => .needed Capabilities.fits fun _ => .nil ?_)
  rintro d ⟨⟨⟨⟨-, rfl⟩, rfl⟩, rfl⟩, rfl⟩
  rfl

theorem shows_toJson (extra : Bool) (d : SupplierDescriptor) : form.Shows extra d d.toJson :=
  Slot.presents_record (.said rfl <| .said rfl <| .said rfl <| .said ⟨_, rfl, rfl⟩ .nil)

end SupplierDescriptor

namespace SupplierInfo

theorem fits : form.Fits decode := by
  refine Form.fits_record
    (.cons (Form.fits_bool.required ..) <| .cons (Form.fits_bool.required ..) <|
      .cons (Form.fits_word8.required ..) <| .cons (Form.fits_word32.required ..) .nil)
    (by decide)
    (.needed Form.fits_bool fun _ => .needed Form.fits_bool fun _ =>
      .needed Form.fits_word8 fun _ => .needed Form.fits_word32 fun _ => .nil ?_)
  rintro i ⟨⟨⟨⟨-, rfl⟩, rfl⟩, rfl⟩, rfl⟩
  rfl

theorem shows_toJson (extra : Bool) (i : SupplierInfo) : form.Shows extra i i.toJson :=
  Slot.presents_record (.said rfl <| .said rfl <| .said rfl <| .said rfl .nil)

end SupplierInfo

namespace Specifier

theorem netType_fits : (Form.name NetType.name).orNull.Fits (decodeOption NetType.decode) :=
  NetType.fits.orNull nofun

theorem fits : form.Fits decode := by
  refine Form.fits_record
    (.cons (Capabilities.fits.defaulted ..) <| .cons (netType_fits.defaulted ..) .nil) (by decide)
    (.optional Capabilities.fits fun _ => .optional netType_fits fun _ => .nil ?_)
  rintro s ⟨⟨-, rfl⟩, rfl⟩
  rfl

theorem shows_toJson (extra : Bool) (s : Specifier) : form.Shows extra s s.toJson := by
  refine Slot.presents_record (.said ⟨_, rfl, rfl⟩ <| .said ?_ .nil)
  obtain ⟨_, _ | _⟩ := s <;> rfl

end Specifier

namespace NetAddress

theorem fits : form.Fits decode := by
  refine Form.fits_record
    (.cons (AddressKind.fits.required ..) <| .cons (AddressFamily.fits.required ..) <|
      .cons (Form.fits_word8.required ..) <| .cons (Form.fits_text.required ..) <|
      .cons (Form.fits_text.defaulted ..) <| .cons (Form.fits_text.defaulted ..) .nil)
    (by decide)
    (.needed AddressKind.fits fun _ => .needed AddressFamily.fits fun _ =>
      .needed Form.fits_word8 fun _ => .needed Form.fits_text fun _ =>
      .optional Form.fits_text fun _ => .optional Form.fits_text fun _ => .nil ?_)
  rintro a ⟨⟨⟨⟨⟨⟨-, rfl⟩, rfl⟩, rfl⟩, rfl⟩, rfl⟩, rfl⟩
  rfl

theorem shows_toJson (extra : Bool) (a : NetAddress) : form.Shows extra a a.toJson :=
  Slot.presents_record
    (.said rfl <| .said rfl <| .said rfl <| .said rfl <| .said rfl <| .said rfl .nil)

theorem keeps : form.Keeps 1 := by
  refine Form.keeps_record ?_ ⟨_, List.mem_cons_self, fun _ => not_false⟩
  simp only [slots, List.forall_mem_cons]
  exact ⟨(Form.keeps_name _).required .., (Form.keeps_name _).required ..,
    Form.keeps_word8.required .., Form.keeps_text.required .., Form.keeps_text.defaulted ..,
    Form.keeps_text.defaulted .., nofun⟩

end NetAddress

namespace Route

theorem fits : form.Fits decode := by
  refine Form.fits_record
    (.cons (Form.fits_text.required ..) <| .cons (NetAddress.fits.required ..) <|
      .cons (NetAddress.fits.required ..) <| .cons (Form.fits_bool.defaulted ..) <|
      .cons (Form.fits_bool.defaulted ..) .nil)
    (by decide)
    (.needed Form.fits_text fun _ => .needed NetAddress.fits fun _ => .needed NetAddress.fits fun _ =>
      .optional Form.fits_bool fun _ => .optional Form.fits_bool fun _ => .nil ?_)
  rintro r ⟨⟨⟨⟨⟨-, rfl⟩, rfl⟩, rfl⟩, rfl⟩, rfl⟩
  rfl

theorem shows_toJson (extra : Bool) (r : Route) : form.Shows extra r r.toJson :=
  Slot.presents_record
    (.said rfl <| .said (r.destination.shows_toJson _) <| .said (r.gateway.shows_toJson _) <|
      .said rfl <| .said rfl .nil)

theorem keeps : form.Keeps 2 := by
  refine Form.keeps_record ?_ ⟨_, List.mem_cons_self, fun _ => not_false⟩
  simp only [slots, List.forall_mem_cons]
  exact ⟨(Form.keeps_text.mono (by decide)).required .., NetAddress.keeps.required ..,
    NetAddress.keeps.required .., (Form.keeps_bool.mono (by decide)).defaulted ..,
    (Form.keeps_bool.mono (by decide)).defaulted .., nofun⟩

end Route

namespace LinkInfo

theorem fits : form.Fits decode := by
  refine Form.fits_record
    (.cons (Form.fits_text.required ..) <| .cons (NetAddress.fits.list.defaulted ..) <|
      .cons (Route.fits.list.defaulted ..) <| .cons (NetAddress.fits.list.defaulted ..) <|
      .cons (Form.fits_text.defaulted ..) <| .cons (Form.fits_word16.defaulted ..) .nil)
    (by decide)
    (.needed Form.fits_text fun _ => .optional NetAddress.fits.list fun _ =>
      .optional Route.fits.list fun _ => .optional NetAddress.fits.list fun _ =>
      .optional Form.fits_text fun _ => .optional Form.fits_word16 fun _ => .nil ?_)
  rintro l ⟨⟨⟨⟨⟨⟨-, rfl⟩, rfl⟩, rfl⟩, rfl⟩, rfl⟩, rfl⟩
  rfl

theorem shows_toJson (extra : Bool) (l : LinkInfo) : form.Shows extra l l.toJson :=
  Slot.presents_record
    (.said rfl <| .said (Form.shows_list (NetAddress.shows_toJson _) _) <|
      .said (Form.shows_list (Route.shows_toJson _) _) <|
      .said (Form.shows_list (NetAddress.shows_toJson _) _) <| .said rfl <| .said rfl .nil)

theorem keeps : form.Keeps 4 := by
  have addresses : NetAddress.form.list.Keeps 3 := NetAddress.keeps.list.mono (by decide)
  have text : Form.text.Keeps 3 := Form.keeps_text.mono (by decide)
  refine Form.keeps_record ?_ ⟨_, List.mem_cons_self, fun _ => not_false⟩
  simp only [slots, List.forall_mem_cons]
  exact ⟨text.required .., addresses.defaulted .., Route.keeps.list.defaulted ..,
    addresses.defaulted .., text.defaulted .., (Form.keeps_word16.mono (by decide)).defaulted ..,
    nofun⟩

end LinkInfo

end Connectivity
