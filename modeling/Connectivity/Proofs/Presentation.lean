import Connectivity.Proofs.WireText
/-! Decoding does not depend on how a value is presented. The members of an object come in any order,
with others among them; fields that have their default are left out; a record is the array of its
fields; and blanks and escapes are free. But a value with a flaw anywhere in it is refused. -/
namespace Connectivity.WireType

open Json

/-- What is written is a presentation of the value, every text of a presentation is decoded to the
value, and no text of what is flawed is decoded. -/
theorem decoding_law (t : WireType) :
    (∀ v, Denotes (t.write v) (t.toJson v) ∧ t.form.Shows true v (t.toJson v)) ∧
    (∀ v tree text, t.form.Shows true v tree → Denotes text tree → t.read text = .ok v) ∧
    ∀ tree text, t.form.Flawed tree → Denotes text tree → ∃ fault, t.read text = .error fault := by
  refine ⟨fun v => ⟨(t.plain v).denotes, t.shows_toJson true v⟩, ?_, ?_⟩
  · intro v tree text shows denotes
    exact decodeText_eq_ok_iff.2 ⟨tree, denotes, t.fits.shown shows denotes.isWhole⟩
  · intro tree text flawed denotes
    refine Form.exists_error (fun v decoded => ?_)
    -- The text has no other value than the flawed one.
    obtain ⟨found, other, accepted⟩ := decodeText_eq_ok_iff.1 decoded
    obtain rfl := denotes.unique other
    obtain ⟨fault, refused⟩ := t.fits.flawed flawed
    cases refused.symm.trans accepted

def insideOut : Json := .object [
  (some "data", .natural 3),
  (some "at", .array [.number ['1', 'e', '9'], .null]),
  (some "type", .string "lost")]

theorem shows_insideOut : NetworkEvent.form.Shows true (.lost 3) insideOut := by
  have strange : ∀ m ∈ [(some "at", Json.array [.number ['1', 'e', '9'], .null])],
      ∃ key, m.1 = some key ∧ ∀ slot ∈ NetworkEvent.slots, slot.name ≠ key := by
    simp [NetworkEvent.slots, Slot.required]
  refine .object (.said rfl (.said ⟨3, rfl, rfl⟩ .nil)) strange (fun _ => rfl) ?_
  exact List.perm_append_singleton _ [_, _]

/-- Blanks, the order of members and a member that no type knows change nothing; an item too many
is not taken. -/
theorem decoding_law_insideOut :
    notification.read
      " \x7b \"event\": \x7b\"data\": 3, \"at\": [1e9, null], \"type\": \"lost\"\x7d, \"request_id\": 7\x7d" =
        .ok ⟨7, .lost 3⟩ ∧
    ∃ fault, notification.read "[7, [\"lost\", 3], null]" = .error fault := by
  obtain ⟨-, shown, flawed⟩ := decoding_law notification
  constructor
  · have shows : notification.form.Shows true ⟨7, .lost 3⟩
        (.object [(some "event", insideOut), (some "request_id", .natural 7)]) :=
      Slot.presents_of_order (.said rfl (.said shows_insideOut .nil)) (.swap _ _ _)
    refine shown _ _ _ shows (read_eq_iff.1 ⟨[], ?_, rfl⟩)
    simp only [String.reduceToList]
    rfl
  · have long : notification.form.Flawed
        (.array [.natural 7, .array [.string "lost", .natural 3], .null]) := .long (by decide)
    refine flawed _ _ long (read_eq_iff.1 ⟨[], ?_, rfl⟩)
    simp only [String.reduceToList]
    rfl

end Connectivity.WireType
