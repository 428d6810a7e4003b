import Mathlib.Data.List.Forall2
import Connectivity.Wire.Notification
import Connectivity.Wire.Status
/-! How values may be written in JSON, and what no value of a type is written with. A form says so of
one type. It knows nothing of how JSON is decoded, and the form of a record is put together from those
of its fields. -/
namespace Connectivity

open Json

/-- `Shows extra a v` says that `v` is a way to write `a`, with members of no meaning among the others
if `extra` permits that. Of what is `Flawed` nothing can be made. -/
structure Form (α : Type) where
  Shows : (extra : Bool) → α → Json → Prop
  Flawed : Json → Prop

/-- A field of a record. What `MayLack` it need not say it, and it is `needed` if none may. -/
structure Slot (ρ : Type) where
  name : String
  Shows : (extra : Bool) → ρ → Json → Prop
  Flawed : Json → Prop
  needed : Bool
  MayLack : ρ → Prop

namespace Slot
variable {α ρ : Type}

def required (name : String) (form : Form α) (get : ρ → α) : Slot ρ where
  name
  Shows extra r := form.Shows extra (get r)
  Flawed := form.Flawed
  needed := true
  MayLack _ := False

def defaulted (name : String) (form : Form α) (get : ρ → α) (default : α) : Slot ρ where
  name
  Shows extra r := form.Shows extra (get r)
  Flawed := form.Flawed
  needed := false
  MayLack r := get r = default

/-- The members for the fields of `r`, in order; what may lack can be left out. -/
inductive Named (extra : Bool) (r : ρ) : List (Slot ρ) → List (String × Json) → Prop where
  | nil : Named extra r [] []
  | said {slot slots v members} (shows : slot.Shows extra r v) (more : Named extra r slots members) :
      Named extra r (slot :: slots) ((slot.name, v) :: members)
  | left {slot slots members} (lack : slot.MayLack r) (more : Named extra r slots members) :
      Named extra r (slot :: slots) members

/-- The fields of `r` in order; what may lack can be left out at the end. -/
inductive Listed (extra : Bool) (r : ρ) : List (Slot ρ) → List Json → Prop where
  | said {slot slots v items} (shows : slot.Shows extra r v) (more : Listed extra r slots items) :
      Listed extra r (slot :: slots) (v :: items)
  | ended {slots} (lack : ∀ slot ∈ slots, slot.MayLack r) : Listed extra r slots []

/-- A record is an object, its members in any order and others among them, or it is an array. -/
inductive Presents (slots : List (Slot ρ)) (extra : Bool) (r : ρ) : Json → Prop where
  | object {named others members} (said : Named extra r slots named)
      (strange : ∀ m ∈ others, ∃ key, m.1 = some key ∧ ∀ slot ∈ slots, slot.name ≠ key)
      (permitted : others ≠ [] → extra = true)
      (order : members.Perm (named.map (fun m => (some m.1, m.2)) ++ others)) :
      Presents slots extra r (.object members)
  | array {items} (said : Listed extra r slots items) : Presents slots extra r (.array items)

/-- A field is said twice or not at all, or not as it can be; or more is said than there are fields. -/
inductive Spoils (slots : List (Slot ρ)) : Json → Prop where
  | null : Spoils slots .null
  | twice {slot members} (field : slot ∈ slots)
      (again : 1 < (members.map (·.1)).count (some slot.name)) : Spoils slots (.object members)
  | missing {slot members} (field : slot ∈ slots) (needed : slot.needed = true)
      (absent : ∀ m ∈ members, m.1 ≠ some slot.name) : Spoils slots (.object members)
  | member {slot members v} (field : slot ∈ slots) (said : (some slot.name, v) ∈ members)
      (flawed : slot.Flawed v) : Spoils slots (.object members)
  | long {items} (more : slots.length < items.length) : Spoils slots (.array items)
  | short {slot items} {i : Nat} (field : slots[i]? = some slot) (needed : slot.needed = true)
      (ended : items.length ≤ i) : Spoils slots (.array items)
  | item {slot items v} {i : Nat} (field : slots[i]? = some slot) (said : items[i]? = some v)
      (flawed : slot.Flawed v) : Spoils slots (.array items)

end Slot

namespace Form
variable {α β ρ : Type}

/-- Written in one way only. -/
def plain (f : α → Json) : Form α where
  Shows _ a v := v = f a
  Flawed v := v = .null

def bool : Form Bool := plain .bool
def text : Form String := plain .string
def name (name : α → String) : Form α := plain (fun a => .string (name a))

/-- A number up to `limit`, without sign, point or exponent. -/
def number (limit : Nat) (number : α → Nat) : Form α where
  Shows _ a v := v = .natural (number a)
  Flawed v := (∀ literal, v ≠ .number literal) ∨ (∃ n, limit < n ∧ v = .natural n) ∨
    ∃ literal, (∃ c ∈ literal, c.isDigit = false) ∧ v = .number literal

def word8 : Form UInt8 := number 0xFF UInt8.toNat
def word16 : Form UInt16 := number 0xFFFF UInt16.toNat
def word32 : Form UInt32 := number 0xFFFFFFFF UInt32.toNat
def word64 : Form UInt64 := number 0xFFFFFFFFFFFFFFFF UInt64.toNat

/-- What `make` makes of the values of another type. -/
def map (form : Form α) (make : α → β) : Form β where
  Shows extra b v := ∃ a, make a = b ∧ form.Shows extra a v
  Flawed := form.Flawed

def orNull (form : Form α) : Form (Option α) where
  Shows extra a v := match a with
    | none => v = .null
    | some a => form.Shows extra a v
  Flawed v := v ≠ .null ∧ form.Flawed v

def list (form : Form α) : Form (List α) where
  Shows extra as v := ∃ vs, v = .array vs ∧ List.Forall₂ (form.Shows extra) as vs
  Flawed v := v = .null ∨ ∃ vs, v = .array vs ∧ ∃ w ∈ vs, form.Flawed w

def record (slots : List (Slot ρ)) : Form ρ where
  Shows := Slot.Presents slots
  Flawed := Slot.Spoils slots

end Form

def Capabilities.form : Form Capabilities := Form.word64.map .mk

namespace SupplierDescriptor

def slots : List (Slot SupplierDescriptor) := [
  .required "supplier_id" .word32 id,
  .required "net_type" (.name NetType.name) netType,
  .required "identity" .text identity,
  .required "capabilities" Capabilities.form capabilities]

def form : Form SupplierDescriptor := .record slots

end SupplierDescriptor

namespace SupplierInfo

def slots : List (Slot SupplierInfo) := [
  .required "is_available" .bool isAvailable,
  .required "is_roaming" .bool isRoaming,
  .required "signal_strength" .word8 signalStrength,
  .required "frequency" .word32 frequency]

def form : Form SupplierInfo := .record slots

end SupplierInfo

namespace NetAddress

def slots : List (Slot NetAddress) := [
  .required "kind" (.name AddressKind.name) kind,
  .required "family" (.name AddressFamily.name) family,
  .required "prefix_length" .word8 prefixLength,
  .required "address" .text address,
  .defaulted "netmask" .text netmask "",
  .defaulted "hostname" .text hostname ""]

def form : Form NetAddress := .record slots

end NetAddress

namespace Route

def slots : List (Slot Route) := [
  .required "iface" .text iface,
  .required "destination" NetAddress.form destination,
  .required "gateway" NetAddress.form gateway,
  .defaulted "has_gateway" .bool hasGateway false,
  .defaulted "is_default_route" .bool isDefaultRoute false]

def form : Form Route := .record slots

end Route

namespace LinkInfo

def slots : List (Slot LinkInfo) := [
  .required "iface_name" .text ifaceName,
  .defaulted "addresses" NetAddress.form.list addresses [],
  .defaulted "routes" Route.form.list routes [],
  .defaulted "dns_servers" NetAddress.form.list nameServers [],
  .defaulted "domain" .text domain "",
  .defaulted "mtu" .word16 mtu 0]

def form : Form LinkInfo := .record slots

end LinkInfo

namespace Specifier

def slots : List (Slot Specifier) := [
  .defaulted "required_capabilities" Capabilities.form required .none,
  .defaulted "net_type" (Form.name NetType.name).orNull netType none]

def form : Form Specifier := .record slots

end Specifier

namespace EventType

def name : EventType → String
  | available => "available"
  | lost => "lost"
  | capabilitiesChanged => "capabilities_changed"
  | linkChanged => "link_properties_changed"

/-- The form of the data of an event of this type. -/
def data : EventType → Form NetworkEvent
  | available => Form.word32.map .available
  | lost => Form.word32.map .lost
  | capabilitiesChanged => Capabilities.form.map .capabilitiesChanged
  | linkChanged => LinkInfo.form.map .linkChanged

end EventType

namespace NetworkEvent

def type : NetworkEvent → EventType
  | available _ => .available
  | lost _ => .lost
  | capabilitiesChanged _ => .capabilitiesChanged
  | linkChanged _ => .linkChanged

/-- The data has no members but its own. -/
def slots : List (Slot NetworkEvent) := [
  .required "type" (.name EventType.name) type,
  { name := "data"
    Shows := fun _ e v => e.type.data.Shows false e v
    Flawed := (· = .null)
    needed := true
    MayLack := fun _ => False }]

/-- An event of this type with this data, whatever else is there. -/
inductive Bears (t : EventType) (data : Json) : Json → Prop where
  | object {members} (type : (some "type", .string t.name) ∈ members)
      (said : (some "data", data) ∈ members) : Bears t data (.object members)
  | array {rest} : Bears t data (.array (.string t.name :: data :: rest))

def form : Form NetworkEvent where
  Shows := Slot.Presents slots
  Flawed v := Slot.Spoils slots v ∨ ∃ t data, Bears t data v ∧ t.data.Flawed data

end NetworkEvent

namespace Notification

def slots : List (Slot Notification) := [
  .required "request_id" .word32 request,
  .required "event" NetworkEvent.form event]

def form : Form Notification := .record slots

end Notification

end Connectivity
