import Connectivity.Broker.Service
import Connectivity.Proofs.Matching
/-! What callers read without waiting for the broker. Suppliers and networks are read off the registry
itself, and the default network is read where it was published last; all of it agrees with what the
broker says of its own state. -/
namespace Connectivity

namespace Matcher

/-- An election that changes the default says so, and to what. -/
theorem elect_cases (m : Matcher) (registry : Registry) :
    (m.elect registry).1 = none ∧ (m.elect registry).2.default = m.default ∨
      ∃ change, (m.elect registry).1 = some change ∧
        (m.elect registry).2.default = change.target := by
  unfold elect
  dsimp only
  split
  · exact .inl ⟨rfl, rfl⟩
  · exact .inr ⟨_, rfl, rfl⟩

end Matcher

namespace Broker

/-- Everybody reads the default network that was elected. -/
def Proclaimed (b : Broker) : Prop := b.published = b.matcher.default

end Broker

namespace Turn
variable {t : Turn}

theorem proclaimed_publish {m : Matcher} (before : t.broker.Proclaimed)
    (default : m.default = (t.broker.matcher.elect t.broker.registry).2.default) :
    ((t.withMatcher m).publish
      (t.broker.matcher.elect t.broker.registry).1).broker.Proclaimed := by
  -- What was published stays where the default does, and is replaced along with it.
  unfold Broker.Proclaimed
  rw [publish_matcher]
  rcases t.broker.matcher.elect_cases t.broker.registry with ⟨none, same⟩ | ⟨change, some, target⟩
  · rw [none]
    exact before.trans (default.trans same).symm
  · rw [some]
    exact (default.trans target).symm

theorem proclaimed_reevaluate (before : t.broker.Proclaimed) (scope : Scope) :
    (t.reevaluate scope).broker.Proclaimed := proclaimed_publish before rfl

theorem proclaimed_reelect (before : t.broker.Proclaimed) : t.reelect.broker.Proclaimed :=
  proclaimed_publish before rfl

theorem proclaimed_equip (before : t.broker.Proclaimed) (s : SupplierId)
    (previous capabilities : Capabilities) (watching : List RequestId) :
    (t.equip s previous capabilities watching).broker.Proclaimed := by
  unfold equip
  dsimp only
  split <;> split <;> exact before

end Turn

namespace Broker
variable {b : Broker}

theorem proclaimed_dropListener (before : b.Proclaimed) (l : ListenerId) :
    (b.dropListener l).Proclaimed := before

theorem Carried.proclaimed {c : Command} {a : Answer} {t : Turn} (carried : b.Carried c a t)
    (before : b.Proclaimed) : t.broker.Proclaimed := by
  cases carried with
  | registered | informed | activated => exact Turn.proclaimed_reevaluate before _
  | unregistered system found done gone cleared =>
    subst cleared
    split <;> exact Turn.proclaimed_reevaluate before _
  | equipped => exact Turn.proclaimed_equip (Turn.proclaimed_reevaluate before _) _ _ _ _
  | @linked _ id link e registry =>
    have bound : (({ b with registry }.begin.callDevice (.apply id link)).reevaluate
        (.supplier id e.netType)).broker.Proclaimed := Turn.proclaimed_reevaluate before _
    exact bound
  | policed _ _ changed | restricted _ _ changed | grounded _ _ changed =>
    cases changed with
    | idle => exact before
    | told => exact Turn.proclaimed_reelect before
  | left => exact proclaimed_dropListener before _
  | known | joined | deactivated | looked | counted => exact before

theorem Reachable.proclaimed (reached : b.Reachable) : b.Proclaimed := by
  induction reached with
  | start => rfl
  | @accept b earlier i ends ih =>
    rcases b.accept_cases i with same | ⟨c, a, rfl, carried, _⟩ | ⟨l, _, there, dropped⟩
    · rw [same]
      exact ih
    · exact carried.proclaimed ih
    · rw [dropped]
      exact proclaimed_dropListener ih l
  | outlets earlier moved ih => exact ih

end Broker

namespace Registry
variable {r : Registry}

theorem mem_list_iff (keyed : r.Keyed) {e : SupplierEntry} :
    e ∈ r.list ↔ r.find? e.descriptor.id = some e := by
  rw [list, Table.mem_values_iff]
  constructor
  · rintro ⟨k, found⟩
    exact (keyed k e found).symm ▸ found
  · exact fun found => ⟨_, found⟩

theorem list_ids (keyed : r.Keyed) : r.list.map (·.descriptor.id) = r.suppliers.keys :=
  (Table.keys_eq_map keyed).symm

theorem availableIds_eq (keyed : r.Keyed) (netType : Option NetType) :
    r.availableIds netType = (r.list.filter (fun e =>
      e.isAvailable && netType.all (· == e.netType))).map (·.descriptor.id) := by
  have kept : ∀ k e, (r.suppliers.filter (fun _ e =>
      e.isAvailable && netType.all (· == e.netType))).find? k = some e → e.descriptor.id = k := by
    intro k e found
    rw [Table.find?_filter, Option.filter_eq_some_iff] at found
    exact keyed k e found.1
  rw [availableIds, Table.keys_eq_map kept, Table.values_filter]
  rfl

/-- Asked for one type, the answer is that part of the whole. -/
theorem availableIds_ofType (keyed : r.Keyed) (t : NetType) :
    r.availableIds (some t) =
      (r.availableIds none).filter (fun id => r.netType? id == some t) := by
  rw [availableIds_eq keyed, availableIds_eq keyed, List.filter_map, List.filter_filter]
  congr 1
  refine List.filter_congr (fun e listed => ?_)
  have found := (mem_list_iff keyed).1 listed
  simp only [Function.comp, netType?, found, Option.map_some, Option.all_some, Option.all_none,
    Bool.and_true, Option.some_beq_some]
  rw [Bool.and_comm, Bool.beq_comm]

theorem mem_availableIds_iff (keyed : r.Keyed) {id : SupplierId} :
    id ∈ r.availableIds none ↔ r.Serves id {} := by
  have anyone : ∀ e : SupplierEntry, e.Qualifies {} ↔ e.isAvailable = true := by
    intro e
    simp [SupplierEntry.Qualifies, Capabilities.contains, Capabilities.none]
  simp only [availableIds_eq keyed, List.mem_map, List.mem_filter, mem_list_iff keyed, Serves,
    anyone]
  constructor
  · rintro ⟨e, ⟨found, available⟩, rfl⟩
    exact ⟨e, found, by simpa using available⟩
  · rintro ⟨e, found, available⟩
    obtain rfl : e.descriptor.id = id := keyed id e found
    exact ⟨e, ⟨found, by simpa using available⟩, rfl⟩

end Registry

namespace Broker
variable {b : Broker}

theorem Matched.default_mem (matched : b.Matched) (keyed : b.registry.Keyed) {id : SupplierId}
    (chosen : b.matcher.default = some id) : id ∈ b.registry.availableIds none := by
  rw [matched.elected] at chosen
  exact (Registry.mem_availableIds_iff keyed).2 (Registry.serves_of_selectBest keyed chosen)

/-- There is a default network as soon as there is any. -/
theorem Matched.default_isSome_iff (matched : b.Matched) (keyed : b.registry.Keyed) :
    b.matcher.default.isSome = true ↔ b.registry.availableIds none ≠ [] := by
  cases chosen : b.matcher.default with
  | some id => simpa using List.ne_nil_of_mem (matched.default_mem keyed chosen)
  | none =>
    rw [matched.elected, Registry.selectBest_eq_none_iff_serves keyed] at chosen
    have nobody : b.registry.availableIds none = [] :=
      List.eq_nil_iff_forall_not_mem.2
        (fun id there => chosen id ((Registry.mem_availableIds_iff keyed).1 there))
    simpa using nobody

end Broker

namespace Service

/-- The states of a service that was started, between one command or death and the next. -/
inductive Running : Service → Prop where
  | start (settings : BrokerSettings) (keeps : Bool) (file : PolicyFile) :
      Running (Service.start { broker := .new settings keeps file })
  | call {s : Service} (earlier : Running s) {c : Command} (ends : s.broker.Ends (.command c)) :
      Running (s.call c).service
  | death {s : Service} (earlier : Running s) (l : ListenerId) :
      Running { s with broker := s.broker.bury l }
  | outlets {s : Service} (earlier : Running s) {outlets : Table Outlet}
      (moved : s.broker.hub.Moved outlets) :
      Running { s with broker := s.broker.withOutlets outlets }

variable {s : Service}

theorem call_of_serving (ready : s.ready = true) (serving : s.stage = .serving) (c : Command) :
    s.call c = ⟨(s.broker.step c).reply, { s with broker := (s.broker.step c).broker },
      (s.broker.step c).deeds⟩ := by
  simp [call, ready, serving]

theorem Running.serves (running : s.Running) :
    s.ready = true ∧ s.stage = .serving ∧ s.broker.Reachable := by
  induction running with
  | start settings keeps file => exact ⟨rfl, rfl, .start settings keeps file⟩
  | call earlier ends ih =>
    obtain ⟨ready, serving, reached⟩ := ih
    rw [call_of_serving ready serving]
    exact ⟨ready, serving, reached.accept _ ends⟩
  | death earlier l ih => exact ⟨ih.1, ih.2.1, ih.2.2.accept (.death l) trivial⟩
  | outlets earlier moved ih => exact ⟨ih.1, ih.2.1, ih.2.2.outlets moved⟩

/-- Whatever a broker can come to, its callers can find it in. -/
theorem running_of_reachable {b : Broker} (reached : b.Reachable) :
    Running { broker := b, stage := .serving, ready := true } := by
  induction reached with
  | start settings keeps file => exact .start settings keeps file
  | accept earlier i ends ih =>
    cases i with
    | command c => exact ih.call ends
    | death l => exact ih.death l
  | outlets earlier moved ih => exact ih.outlets moved

/-- What is read of a service: `listing` are the suppliers it lists, `networks` the ids of those that
are available, and `status` is what the broker answers when asked for it. -/
structure Reads (s : Service) (listing : List SupplierEntry) (networks : List SupplierId)
    (status : BrokerStatus) : Prop where
  listed : s.suppliers = .ok listing
  registered : ∀ e, e ∈ listing ↔ s.broker.registry.find? e.descriptor.id = some e
  listedAscending : (listing.map (·.descriptor.id)).Pairwise (· < ·)
  found : ∀ e ∈ listing, s.supplier e.descriptor.id = .ok e ∧
    s.link e.descriptor.id = .ok e.link ∧ s.capabilities e.descriptor.id = .ok e.capabilities
  unknown : ∀ id, id ∉ listing.map (·.descriptor.id) →
    s.supplier id = .error (.unknownSupplier id) ∧ s.link id = .error (.unknownSupplier id) ∧
      s.capabilities id = .error (.unknownSupplier id)
  answered : s.networks none = .ok networks
  available : networks = (listing.filter (·.isAvailable)).map (·.descriptor.id)
  answeredAscending : networks.Pairwise (· < ·)
  ofType : ∀ t, s.networks (some t) =
    .ok (networks.filter (fun id => s.broker.registry.netType? id == some t))
  published : s.default = .ok s.broker.matcher.default
  exists_iff : ∃ known, s.hasDefault = .ok known ∧ (known = true ↔ networks ≠ [])
  member : ∀ id, s.broker.matcher.default = some id → id ∈ networks
  reported : (s.call .status).reply = .ok (.status status)
  reportedDefault : status.default = s.broker.matcher.default
  supplierCount : status.suppliers = listing.length
  availableCount : status.available = networks.length
  requestCount : status.requests = s.broker.matcher.requests.values.length
  boundCount : status.bound = (s.broker.matcher.requests.values.filter (·.bound.isSome)).length
  listenerCount : status.listeners = s.broker.hub.listeners.values.length

theorem supplier_of_find? (ready : s.ready = true) {id : SupplierId} {e : SupplierEntry}
    (found : s.broker.registry.find? id = some e) : s.supplier id = .ok e := by
  have given : s.read (·.registry) = .ok s.broker.registry := if_pos ready
  simp only [supplier, given, bind, Except.bind, Registry.entry, found]

theorem supplier_of_absent (ready : s.ready = true) {id : SupplierId}
    (absent : s.broker.registry.find? id = none) :
    s.supplier id = .error (.unknownSupplier id) := by
  have given : s.read (·.registry) = .ok s.broker.registry := if_pos ready
  simp only [supplier, given, bind, Except.bind, Registry.entry, absent]

/-- What callers read without the broker is what the broker has, and what it says of itself. -/
theorem Running.reads_agree (running : s.Running) :
    ∃ listing networks status, s.Reads listing networks status := by
  obtain ⟨ready, serving, reached⟩ := running.serves
  have keyed := reached.orderly.suppliers
  have view : ∀ {α : Type} (f : Broker → α), s.read f = .ok (f s.broker) := fun f => by
    simp [read, ready]
  have published : s.default = .ok s.broker.matcher.default := by
    rw [default, view, reached.proclaimed]
  refine ⟨s.broker.registry.list, s.broker.registry.availableIds none, s.broker.status, ?_⟩
  constructor
  case listed => exact view _
  case registered => exact fun e => Registry.mem_list_iff keyed
  case listedAscending =>
    rw [Registry.list_ids keyed]
    exact Table.keys_ascending _
  case found =>
    intro e there
    have supplied := supplier_of_find? ready ((Registry.mem_list_iff keyed).1 there)
    rw [link, capabilities, supplied]
    exact ⟨rfl, rfl, rfl⟩
  case unknown =>
    intro id unlisted
    have absent : s.broker.registry.find? id = none := by
      rw [Option.eq_none_iff_forall_ne_some]
      intro e found
      have bears : e.descriptor.id = id := keyed id e found
      exact unlisted (List.mem_map.2 ⟨e, (Registry.mem_list_iff keyed).2 (bears ▸ found), bears⟩)
    rw [link, capabilities, supplier_of_absent ready absent]
    exact ⟨rfl, rfl, rfl⟩
  case answered => exact view _
  case available => simpa using Registry.availableIds_eq keyed none
  case answeredAscending => exact Table.keys_ascending _
  case ofType =>
    intro t
    rw [networks, view, Registry.availableIds_ofType keyed]
  case published => exact published
  case exists_iff =>
    exact ⟨_, by rw [hasDefault, published]; rfl, reached.matched.default_isSome_iff keyed⟩
  case member => exact fun id chosen => reached.matched.default_mem keyed chosen
  case reported =>
    rw [call_of_serving ready serving]
    rfl
  case reportedDefault => rfl
  case supplierCount => exact (Table.length_values _).symm
  case availableCount => rfl
  case requestCount => exact (Table.length_values _).symm
  case boundCount =>
    rw [← Table.values_filter, Table.length_values, ← Table.length_keys]
    rfl
  case listenerCount => exact (Table.length_values _).symm

/-- The network of `firstNetwork`, a wire that is the default, and one more that is not up. -/
def threeNetworks : Service where
  broker := Broker.firstNetwork.after [
    .command (.registerSupplier 0 .ethernet "wire" ⟨0⟩),
    .command (.registerSupplier 0 .cellular "card" ⟨0⟩),
    .command (.updateInfo 0 2 { isAvailable := true, signalStrength := 90 })]
  stage := .serving
  ready := true

theorem reads_agree_threeNetworks :
    threeNetworks.Running ∧ ∃ listing networks status,
      threeNetworks.Reads listing networks status ∧ listing.map (·.descriptor.id) = [1, 2, 3] ∧
        networks = [1, 2] ∧ status.default = some 2 ∧ status.bound = 1 := by
  have running : threeNetworks.Running :=
    running_of_reachable (.after Broker.firstNetwork_reachable (by decide))
  obtain ⟨listing, networks, status, reads⟩ := running.reads_agree
  have listed : listing = threeNetworks.broker.registry.list :=
    Except.ok.inj (reads.listed.symm.trans rfl)
  have answered : networks = [1, 2] := Except.ok.inj (reads.answered.symm.trans rfl)
  refine ⟨running, listing, networks, status, reads, ?_, answered, ?_, ?_⟩
  · rw [listed]
    decide
  · exact reads.reportedDefault.trans rfl
  · exact reads.boundCount.trans rfl

end Service

end Connectivity
