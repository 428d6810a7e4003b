import Connectivity.Proofs.EventForms
/-! Every value that is sent can be read back from its text: its text is JSON, and what is written is
one of the forms that its decoder takes. -/
namespace Connectivity

open Json

/-! What is written is JSON. -/

theorem SupplierDescriptor.plain (d : SupplierDescriptor) : d.toJson.Plain :=
  .record (by simp [NetType.toJson, Capabilities.toJson, Plain.natural, Plain.string])

theorem SupplierInfo.plain (i : SupplierInfo) : i.toJson.Plain :=
  .record (by simp [Plain.natural, Plain.bool])

theorem Specifier.plain (s : Specifier) : s.toJson.Plain := by
  have netType : (Json.ofOption NetType.toJson s.netType).Plain := by
    cases s.netType with
    | none => exact .null
    | some t => exact .string t.name
  exact .record (by simp [Capabilities.toJson, Plain.natural, netType])

theorem NetAddress.plain (a : NetAddress) : a.toJson.Plain :=
  .record (by simp [AddressKind.toJson, AddressFamily.toJson, Plain.natural, Plain.string])

theorem Route.plain (r : Route) : r.toJson.Plain :=
  .record (by simp [Plain.string, Plain.bool, NetAddress.plain])

theorem LinkInfo.plain (l : LinkInfo) : l.toJson.Plain :=
  .record (by
    simp [Plain.string, Plain.natural, Plain.list NetAddress.plain, Plain.list Route.plain])

theorem NetworkEvent.plain : (e : NetworkEvent) → e.toJson.Plain
  | .available _ | .lost _ => .record (by simp [Plain.string, Plain.natural])
  | .capabilitiesChanged _ => .record (by simp [Capabilities.toJson, Plain.string, Plain.natural])
  | .linkChanged _ => .record (by simp [Plain.string, LinkInfo.plain])

theorem Notification.plain (n : Notification) : n.toJson.Plain :=
  .record (by simp [Plain.natural, NetworkEvent.plain])

/-- The types whose values are sent. -/
inductive WireType where
  | netType | capabilities | supplierDescriptor | supplierInfo
  | addressFamily | addressKind | netAddress | route | linkInfo
  | specifier | requestKind | networkEvent | notification
  | backgroundPolicy | duplicatePolicy | resultCode

namespace WireType

def Value : WireType → Type
  | netType => NetType
  | capabilities => Capabilities
  | supplierDescriptor => SupplierDescriptor
  | supplierInfo => SupplierInfo
  | addressFamily => AddressFamily
  | addressKind => AddressKind
  | netAddress => NetAddress
  | route => Route
  | linkInfo => LinkInfo
  | specifier => Specifier
  | requestKind => RequestKind
  | networkEvent => NetworkEvent
  | notification => Notification
  | backgroundPolicy => BackgroundPolicy
  | duplicatePolicy => DuplicatePolicy
  | resultCode => ResultCode

def toJson : (t : WireType) → t.Value → Json
  | netType => NetType.toJson
  | capabilities => Capabilities.toJson
  | supplierDescriptor => SupplierDescriptor.toJson
  | supplierInfo => SupplierInfo.toJson
  | addressFamily => AddressFamily.toJson
  | addressKind => AddressKind.toJson
  | netAddress => NetAddress.toJson
  | route => Route.toJson
  | linkInfo => LinkInfo.toJson
  | specifier => Specifier.toJson
  | requestKind => RequestKind.toJson
  | networkEvent => NetworkEvent.toJson
  | notification => Notification.toJson
  | backgroundPolicy => BackgroundPolicy.toJson
  | duplicatePolicy => DuplicatePolicy.toJson
  | resultCode => ResultCode.toJson

def decode : (t : WireType) → Decoder t.Value
  | netType => NetType.decode
  | capabilities => Capabilities.decode
  | supplierDescriptor => SupplierDescriptor.decode
  | supplierInfo => SupplierInfo.decode
  | addressFamily => AddressFamily.decode
  | addressKind => AddressKind.decode
  | netAddress => NetAddress.decode
  | route => Route.decode
  | linkInfo => LinkInfo.decode
  | specifier => Specifier.decode
  | requestKind => RequestKind.decode
  | networkEvent => NetworkEvent.decode
  | notification => Notification.decode
  | backgroundPolicy => BackgroundPolicy.decode
  | duplicatePolicy => DuplicatePolicy.decode
  | resultCode => ResultCode.decode

def form : (t : WireType) → Form t.Value
  | netType => .name NetType.name
  | capabilities => Capabilities.form
  | supplierDescriptor => SupplierDescriptor.form
  | supplierInfo => SupplierInfo.form
  | addressFamily => .name AddressFamily.name
  | addressKind => .name AddressKind.name
  | netAddress => NetAddress.form
  | route => Route.form
  | linkInfo => LinkInfo.form
  | specifier => Specifier.form
  | requestKind => .name RequestKind.name
  | networkEvent => NetworkEvent.form
  | notification => Notification.form
  | backgroundPolicy => .name BackgroundPolicy.name
  | duplicatePolicy => .name DuplicatePolicy.name
  | resultCode => .number 0xFF ResultCode.number

theorem fits : (t : WireType) → t.form.Fits t.decode
  | netType => NetType.fits
  | capabilities => Capabilities.fits
  | supplierDescriptor => SupplierDescriptor.fits
  | supplierInfo => SupplierInfo.fits
  | addressFamily => AddressFamily.fits
  | addressKind => AddressKind.fits
  | netAddress => NetAddress.fits
  | route => Route.fits
  | linkInfo => LinkInfo.fits
  | specifier => Specifier.fits
  | requestKind => RequestKind.fits
  | networkEvent => NetworkEvent.fits (by decide)
  | notification => Notification.fits
  | backgroundPolicy => BackgroundPolicy.fits
  | duplicatePolicy => DuplicatePolicy.fits
  | resultCode => ResultCode.fits

theorem shows_toJson (extra : Bool) : (t : WireType) → (v : t.Value) → t.form.Shows extra v (t.toJson v)
  | netType, _ => rfl
  | capabilities, c => ⟨c.bits, rfl, rfl⟩
  | supplierDescriptor, d => SupplierDescriptor.shows_toJson extra d
  | supplierInfo, i => SupplierInfo.shows_toJson extra i
  | addressFamily, _ => rfl
  | addressKind, _ => rfl
  | netAddress, a => NetAddress.shows_toJson extra a
  | route, r => Route.shows_toJson extra r
  | linkInfo, l => LinkInfo.shows_toJson extra l
  | specifier, s => Specifier.shows_toJson extra s
  | requestKind, _ => rfl
  | networkEvent, e => NetworkEvent.shows_toJson extra e
  | notification, n => Notification.shows_toJson extra n
  | backgroundPolicy, _ => rfl
  | duplicatePolicy, _ => rfl
  | resultCode, _ => rfl

theorem plain : (t : WireType) → (v : t.Value) → (t.toJson v).Plain
  | netType, t => .string t.name
  | capabilities, c => .natural c.bits.toNat
  | supplierDescriptor, d => SupplierDescriptor.plain d
  | supplierInfo, i => SupplierInfo.plain i
  | addressFamily, f => .string f.name
  | addressKind, k => .string k.name
  | netAddress, a => NetAddress.plain a
  | route, r => Route.plain r
  | linkInfo, l => LinkInfo.plain l
  | specifier, s => Specifier.plain s
  | requestKind, k => .string k.name
  | networkEvent, e => NetworkEvent.plain e
  | notification, n => Notification.plain n
  | backgroundPolicy, p => .string p.name
  | duplicatePolicy, p => .string p.name
  | resultCode, c => .natural c.number

theorem faithful (t : WireType) : Faithful t.toJson t.decode :=
  t.fits.faithful (t.shows_toJson true) t.plain

def write (t : WireType) (v : t.Value) : String := (t.toJson v).text

def read (t : WireType) (text : String) : Except Fault t.Value := decodeText t.decode text

/-- The text that is written of what was read. -/
def rewritten (t : WireType) (text : String) : Except Fault String := (t.read text).map t.write

/-- Writing loses nothing, so a text that was written is the one text of its value. -/
theorem round_trip (t : WireType) :
    (∀ v, t.read (t.write v) = .ok v) ∧ (∀ v w, t.write v = t.write w → v = w) ∧
      ∀ text out, t.rewritten text = .ok out → t.rewritten out = .ok out := by
  have back : ∀ v, t.read (t.write v) = .ok v := t.faithful.text
  refine ⟨back, ?_, ?_⟩
  · intro v w same
    have both : Except.ok v = Except.ok w := (back v).symm.trans (same ▸ back w)
    exact Except.ok.inj both
  · intro text out accepted
    cases found : t.read text with
    | error fault =>
      rw [rewritten, found] at accepted
      cases accepted
    | ok v =>
      rw [rewritten, found] at accepted
      cases accepted
      rw [rewritten, back v]
      rfl

/-- Records that come as arrays, with blanks between, are written as objects from then on. -/
theorem round_trip_arrays :
    (∃ out, notification.rewritten "[7, [\"lost\", 3] ]" = .ok out ∧
      notification.rewritten out = .ok out) ∧
    notification.write ⟨7, .lost 3⟩ ≠ notification.write ⟨7, .available 3⟩ := by
  have accepted : notification.rewritten "[7, [\"lost\", 3] ]" =
    .ok (notification.write ⟨7, .lost 3⟩) := by decide +kernel
  obtain ⟨_, apart, fixed⟩ := round_trip notification
  exact ⟨⟨_, accepted, fixed _ _ accepted⟩, mt (apart _ _) (by rintro ⟨⟩)⟩

end WireType

end Connectivity
