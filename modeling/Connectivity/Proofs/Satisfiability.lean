import Connectivity.Proofs.Opening
import Connectivity.Proofs.Registrations
import Connectivity.Proofs.Repetition
/-! What is refused as a flaw is just what nobody could offer. Whoever asks for anything else is served
as soon as someone offers it, whichever comes first; a request that nobody could serve is not there at
any time. -/
namespace Connectivity

namespace Capabilities
variable {a b c : Capabilities}

theorem contains_self (a : Capabilities) : a.contains a = true := by
  rw [contains, UInt64.and_self, beq_self_eq_true]

theorem contains_none (a : Capabilities) : a.contains none = true := by
  rw [contains, none, UInt64.and_zero, beq_self_eq_true]

theorem contains_trans (first : a.contains b = true) (last : b.contains c = true) :
    a.contains c = true := by
  have whole : a.bits &&& b.bits = b.bits := eq_of_beq first
  have part : b.bits &&& c.bits = c.bits := eq_of_beq last
  apply beq_iff_eq.2
  calc a.bits &&& c.bits
    _ = a.bits &&& b.bits &&& c.bits := by rw [UInt64.and_assoc, part]
    _ = c.bits := by rw [whole, part]

theorem unknownBits_of_contains (within : a.contains b = true) (known : a.unknownBits = 0) :
    b.unknownBits = 0 := by
  have part : a.bits &&& b.bits = b.bits := eq_of_beq within
  unfold unknownBits at known ⊢
  rw [← part, UInt64.and_comm a.bits, UInt64.and_assoc, known, UInt64.and_zero]

end Capabilities

/-- What a supplier can be. Its capabilities have a meaning, and a vpn does not claim to be none. -/
structure Offer where
  netType : NetType
  capabilities : Capabilities
  known : capabilities.unknownBits = 0
  consistent : ¬ (netType = .vpn ∧ capabilities.contains .notVpn = true)

namespace Offer

def meets (o : Offer) (s : Specifier) : Bool := s.isSatisfiedBy o.netType o.capabilities

def comesUp (o : Offer) (u : Uid) (identity : String) (info : SupplierInfo) (id : SupplierId) :
    List (Command × Answer) :=
  [(.registerSupplier u o.netType identity o.capabilities, .id id), (.updateInfo u id info, .done)]

end Offer

namespace Specifier
variable {s : Specifier}

theorem flaw?_eq_none_iff : s.flaw? = none ↔ s.required.unknownBits = 0 ∧
    ¬ (s.netType = some .vpn ∧ s.required.contains .notVpn = true) := by
  unfold flaw?
  split
  · rename_i unknown
    simp [unknown]
  · rename_i known
    split <;> simp_all

theorem validate_eq_ok_iff : s.validate = .ok () ↔ s.flaw? = none := by
  unfold validate
  split <;> simp_all

def plainOffer (s : Specifier) (sound : s.flaw? = none) : Offer where
  netType := s.netType.getD .wifi
  capabilities := s.required
  known := (flaw?_eq_none_iff.1 sound).1
  consistent := by
    rintro ⟨vpn, claimed⟩
    cases asked : s.netType with
    | none => simp [asked] at vpn
    | some t =>
      rw [asked, Option.getD_some] at vpn
      exact (flaw?_eq_none_iff.1 sound).2 ⟨vpn ▸ asked, claimed⟩

theorem meets_plainOffer (sound : s.flaw? = none) : (s.plainOffer sound).meets s = true := by
  refine isSatisfiedBy_iff.2 ⟨fun t asked => ?_, s.required.contains_self⟩
  simp [plainOffer, asked]

theorem flaw?_of_meets {o : Offer} (meets : o.meets s = true) : s.flaw? = none := by
  obtain ⟨type, enough⟩ := isSatisfiedBy_iff.1 meets
  refine flaw?_eq_none_iff.2 ⟨Capabilities.unknownBits_of_contains enough o.known, ?_⟩
  rintro ⟨vpn, claimed⟩
  exact o.consistent ⟨type .vpn vpn, Capabilities.contains_trans enough claimed⟩

/-- No flaw is found exactly where there is something to be found that would do. -/
theorem flaw?_eq_none_iff_offer : s.flaw? = none ↔ ∃ o : Offer, o.meets s = true :=
  ⟨fun sound => ⟨s.plainOffer sound, meets_plainOffer sound⟩, fun ⟨_, meets⟩ => flaw?_of_meets meets⟩

end Specifier

namespace Registry
variable {r t : Registry} {id : SupplierId} {e : SupplierEntry} {s : Specifier}

def nextId (r : Registry) : SupplierId := (r.ids.take r.suppliers).1

/-- The one supplier there is makes this offer. -/
structure Sole (r : Registry) (id : SupplierId) (e : SupplierEntry) (o : Offer) : Prop where
  found : r.find? id = some e
  only : ∀ k f, r.find? k = some f → k = id
  netType : e.netType = o.netType
  capabilities : e.capabilities = o.capabilities

variable {o : Offer}

theorem Sole.serves_iff (sole : r.Sole id e o) (available : e.isAvailable = true)
    (meets : o.meets s = true) (k : SupplierId) : r.Serves k s ↔ k = id := by
  constructor
  · rintro ⟨f, found, -⟩
    exact sole.only k f found
  · rintro rfl
    refine ⟨e, sole.found, available, ?_⟩
    rw [sole.netType, sole.capabilities]
    exact Specifier.isSatisfiedBy_iff.1 meets

theorem selectBest_of_serves (keyed : r.Keyed) (serves : ∀ k, r.Serves k s ↔ k = id) :
    selectBest r.candidates s = some id := by
  cases best : selectBest r.candidates s with
  | none => exact absurd ((serves id).2 rfl) ((selectBest_eq_none_iff_serves keyed).1 best id)
  | some k => rw [(serves k).1 (serves_of_selectBest keyed best)]

theorem sole_of_insert (others : ∀ k f, r.find? k = some f → k = id)
    (put : t.suppliers = r.suppliers.insert id e)
    (netType : e.netType = o.netType) (capabilities : e.capabilities = o.capabilities) :
    t.Sole id e o where
  found := by rw [find?_of_insert put, if_pos rfl]
  only := by
    intro k f found
    rw [find?_of_insert put] at found
    split at found
    · assumption
    · exact others k f found
  netType := netType
  capabilities := capabilities

end Registry

/-- Where there is one supplier, everyone settled whom it serves is bound to it: there is no other, and
it is the default as well. -/
theorem ActiveRequest.Settled.bound_of_sole {r : ActiveRequest} {registry : Registry}
    {id : SupplierId} {e : SupplierEntry} {o : Offer}
    (settled : r.Settled registry (selectBest registry.candidates {})) (keyed : registry.Keyed)
    (sole : registry.Sole id e o) (available : e.isAvailable = true)
    (meets : o.meets r.specifier = true) : r.bound = some id := by
  by_cases track : r.kind = .trackDefault
  · have plain : o.meets {} = true :=
      Specifier.isSatisfiedBy_iff.2 ⟨fun _ asked => (nomatch asked), o.capabilities.contains_none⟩
    rw [settled.follows track]
    exact Registry.selectBest_of_serves keyed (sole.serves_iff available plain)
  · have serves := sole.serves_iff available meets
    cases bound : r.bound with
    | none => exact absurd ((serves id).2 rfl) (settled.waits track bound id)
    | some k => rw [(serves k).1 (settled.served track k bound)]

namespace Broker
variable {b c : Broker} {u : Uid} {l : ListenerId} {id : SupplierId} {e : SupplierEntry} {o : Offer}

/-- What is carried out one after the other, each with its answer, leads from `b` to `c`. -/
inductive Answers : Broker → List (Command × Answer) → Broker → Prop where
  | nil (b : Broker) : Answers b [] b
  | cons {b d : Broker} {c : Command} {a : Answer} {log : List (Command × Answer)}
      (reply : (b.step c).reply = .ok a) (rest : Answers (b.step c).broker log d) :
      Answers b ((c, a) :: log) d

/-! The commands, where they are carried out. -/

theorem step_registerSupplier {netType : NetType} {identity : String}
    (system : b.firewall.isSystem u = true)
    (unnamed : b.registry.named? netType identity = none) (capabilities : Capabilities) :
    let id := b.registry.nextId
    ∃ registry, registry.suppliers = b.registry.suppliers.insert id
        { descriptor := { id, netType, identity, capabilities } } ∧
      (b.step (.registerSupplier u netType identity capabilities)).reply = .ok (.id id) ∧
      (b.step (.registerSupplier u netType identity capabilities)).broker =
        ({ b with registry }.begin.reevaluate (.supplier id netType)).broker := by
  have registered := Registry.register_of_unnamed unnamed capabilities
  simp only [step, perform, authorize_system system, registerSupplier, registered, ok_bind, ok_pure,
    if_true]
  exact ⟨_, rfl, rfl, rfl⟩

theorem step_updateInfo (system : b.firewall.isSystem u = true)
    (found : b.registry.find? id = some e) (info : SupplierInfo) :
    ∃ registry seq,
      b.registry.Revised registry id e { e with info, availableSeq := seq } ∧
      (b.step (.updateInfo u id info)).reply = .ok .done ∧
      (b.step (.updateInfo u id info)).broker =
        ({ b with registry }.begin.reevaluate (.supplier id e.netType)).broker := by
  have entry := Registry.entry_eq_ok_iff.2 found
  obtain ⟨change, registry, updated⟩ :
      ∃ change registry, b.registry.updateInfo id info = .ok (change, registry) := by
    simp only [Registry.updateInfo, entry, ok_bind, ok_pure]
    split <;> exact ⟨_, _, rfl⟩
  obtain ⟨f, seq, revised⟩ := Registry.updateInfo_eq_ok updated
  cases found.symm.trans revised.found
  refine ⟨registry, seq, revised, ?_⟩
  simp only [step, perform, authorize_system system, updateInfo, entry, updated, ok_bind, ok_pure]
  trivial

theorem step_updateInfo_of_absent (system : b.firewall.isSystem u = true)
    (absent : b.registry.find? id = none) (info : SupplierInfo) :
    b.step (.updateInfo u id info) = ⟨.error (.unknownSupplier id), b, {}⟩ := by
  simp only [step, perform, authorize_system system, updateInfo, Registry.entry, absent, ok_bind,
    error_bind]

theorem bound_of_reevaluate {t : Turn} {scope : Scope} (suppliers : t.broker.registry.Keyed)
    (requests : t.broker.matcher.Keyed) (sole : t.broker.registry.Sole id e o)
    (available : e.isAvailable = true)
    {q : RequestId} {r : ActiveRequest} (found : t.broker.matcher.find? q = some r)
    (covered : scope.covers r = true) (meets : o.meets r.specifier = true) :
    ∃ s, (t.reevaluate scope).broker.matcher.find? q = some s ∧ s.bare = r.bare ∧
      s.bound = some id := by
  have settled : (t.broker.rebind scope r).Settled t.broker.registry
      (selectBest t.broker.registry.candidates {}) :=
    ActiveRequest.settled_nextBinding suppliers
      (fun outside => Bool.noConfusion (covered.symm.trans outside)) rfl rfl
  refine ⟨t.broker.rebind scope r, ?_, rfl, settled.bound_of_sole suppliers sole available meets⟩
  rw [Turn.reevaluate_find? requests, found]
  rfl

/-- Suppliers can be registered by `u` and requests made by `l`. -/
structure Hosts (b : Broker) (u : Uid) (l : ListenerId) : Prop where
  system : b.firewall.isSystem u = true
  listener : b.hub.contains l = true
  suppliers : b.registry.Keyed
  requests : b.matcher.Keyed

namespace Hosts

theorem kept (hosts : b.Hosts u l) (kept : b.Kept c) : c.Hosts u l where
  system := by
    unfold firewall
    rw [kept.store]
    exact hosts.system
  listener := by
    unfold Hub.contains
    rw [kept.listeners]
    exact hosts.listener
  suppliers := kept.registry ▸ hosts.suppliers
  requests := by
    intro q s found
    obtain ⟨r, earlier, bare⟩ := kept.found found
    exact (ActiveRequest.bare_eq_iff.1 bare).1.trans (hosts.requests q r earlier)

theorem register (hosts : b.Hosts u l) (nobody : b.registry.suppliers = .empty)
    (o : Offer) (identity : String) :
    let next := b.step (.registerSupplier u o.netType identity o.capabilities)
    next.reply = .ok (.id b.registry.nextId) ∧
      next.broker.Hosts u l ∧
      (∃ e, next.broker.registry.Sole b.registry.nextId e o) ∧
      ∀ q r, b.matcher.find? q = some r →
        ∃ s, next.broker.matcher.find? q = some s ∧ s.bare = r.bare := by
  intro next
  have unnamed : b.registry.named? o.netType identity = none := by
    rw [Registry.named?, nobody]
    rfl
  obtain ⟨registry, put, reply, broker⟩ := step_registerSupplier hosts.system unnamed
    o.capabilities
  have kept := Turn.reevaluate_kept { b with registry }.begin
    (.supplier b.registry.nextId o.netType)
  rw [← broker] at kept
  have entered : next.broker.registry = registry := kept.registry
  have sole : registry.Sole _ _ o := Registry.sole_of_insert
    (fun k f found => by rw [Registry.find?, nobody] at found; cases found) put rfl rfl
  have staged : { b with registry }.Hosts u l :=
    ⟨hosts.system, hosts.listener, Registry.keyed_of_insert hosts.suppliers (by rfl) put, hosts.requests⟩
  exact ⟨reply, staged.kept kept, ⟨_, entered ▸ sole⟩, fun q r found => kept.found_after found⟩

theorem inform (hosts : b.Hosts u l) (sole : b.registry.Sole id e o) {info : SupplierInfo}
    (up : info.isAvailable = true) :
    let next := b.step (.updateInfo u id info)
    next.reply = .ok .done ∧ next.broker.Hosts u l ∧
      (∃ f, f.isAvailable = true ∧ next.broker.registry.Sole id f o) ∧
      ∀ q r, b.matcher.find? q = some r → o.meets r.specifier = true →
        ∃ s, next.broker.matcher.find? q = some s ∧ s.bare = r.bare ∧ s.bound = some id := by
  intro next
  obtain ⟨registry, seq, revised, reply, broker⟩ := step_updateInfo hosts.system sole.found info
  have kept := Turn.reevaluate_kept { b with registry }.begin (.supplier id e.netType)
  rw [← broker] at kept
  have entered : next.broker.registry = registry := kept.registry
  have keyed : registry.Keyed := revised.keyed hosts.suppliers
  have staged : { b with registry }.Hosts u l :=
    ⟨hosts.system, hosts.listener, keyed, hosts.requests⟩
  let f : SupplierEntry := { e with info, availableSeq := seq }
  have available : f.isAvailable = true := up
  have changed : registry.Sole id f o :=
    Registry.sole_of_insert sole.only revised.suppliers sole.netType sole.capabilities
  refine ⟨reply, staged.kept kept, ⟨f, available, entered ▸ changed⟩, fun q r found meets => ?_⟩
  -- the supplier is of the type that is asked for, so its change is looked at
  have concerned : r.specifier.concerns e.netType = true := by
    rw [sole.netType]
    exact (Bool.and_eq_true_iff.1 meets).1
  have covered : (Scope.supplier id e.netType).covers r = true := by
    simp [Scope.covers, concerned]
  have bound := bound_of_reevaluate (t := { b with registry }.begin) keyed hosts.requests changed
    available found covered meets
  rwa [← broker] at bound

theorem activate (hosts : b.Hosts u l) {s : Specifier} (sound : s.flaw? = none)
    (kind : RequestKind) : ∃ q r,
      (b.step (.activate kind s l)).reply = .ok (.id q) ∧
      (b.step (.activate kind s l)).broker.Hosts u l ∧
      (b.step (.activate kind s l)).broker.registry = b.registry ∧
      (b.step (.activate kind s l)).broker.matcher.find? q = some r ∧
      r.bare = { id := q, kind, specifier := s, listener := l } ∧
      ∀ id e o, b.registry.Sole id e o → e.isAvailable = true → o.meets s = true →
        r.bound = some id := by
  let q := (b.matcher.activate kind s l).1
  obtain ⟨hub, attached⟩ := Hub.attach_of_contains hosts.listener q
  have staged : (b.withRequest kind s l hub).Hosts u l := by
    refine ⟨hosts.system, ?_, hosts.suppliers, fun k r found => ?_⟩
    · change hub.listeners.contains l = true
      rw [(Hub.attach_eq_ok attached).2, Table.contains_modify]
      exact hosts.listener
    · rw [find?_withRequest] at found
      split at found
      · rename_i here
        cases found
        exact here.symm
      · exact hosts.requests k r found
  have new : (b.withRequest kind s l hub).matcher.find? q =
      some { id := q, kind, specifier := s, listener := l } := by
    rw [find?_withRequest, if_pos rfl]
  have kept : (b.withRequest kind s l hub).Kept (b.activated kind s l hub).broker :=
    Turn.reevaluate_kept (b.withRequest kind s l hub).begin _
  obtain ⟨r, found, bare⟩ := kept.found_after new
  rw [step_activate_of_sound sound attached]
  refine ⟨q, r, rfl, staged.kept kept, kept.registry, found, bare, ?_⟩
  intro id e o sole available meets
  have covered : (Scope.request q).covers { id := q, kind, specifier := s, listener := l } = true :=
    beq_self_eq_true q
  obtain ⟨same, again, -, bound⟩ := bound_of_reevaluate (t := (b.withRequest kind s l hub).begin)
    staged.suppliers staged.requests sole available new covered meets
  cases found.symm.trans again
  exact bound

/-- A request for what the supplier offers may be made before the supplier is registered, before it is
available, or after that. -/
theorem served (hosts : b.Hosts u l) (nobody : b.registry.suppliers = .empty) {s : Specifier}
    (meets : o.meets s = true) (identity : String) {info : SupplierInfo}
    (up : info.isAvailable = true) (kind : RequestKind) {earlier later : List (Command × Answer)}
    (split : earlier ++ later = o.comesUp u identity info b.registry.nextId) :
    ∃ q c r, b.Answers (earlier ++ (.activate kind s l, .id q) :: later) c ∧
      c.matcher.find? q = some r ∧
      r.bare = { id := q, kind, specifier := s, listener := l } ∧
      r.bound = some b.registry.nextId := by
  have sound : s.flaw? = none := Specifier.flaw?_of_meets meets
  have asks {r : ActiveRequest} {q : RequestId}
      (bare : r.bare = { id := q, kind, specifier := s, listener := l }) :
      o.meets r.specifier = true := by
    have same : r.specifier = s := congrArg (·.specifier) bare
    rw [same]
    exact meets
  rcases List.append_eq_cons_iff.1 split with ⟨rfl, rfl⟩ | ⟨rest, rfl, parts⟩
  · -- asked for before it is registered
    obtain ⟨q, r, asked, hosts, registry, found, bare, -⟩ := hosts.activate sound kind
    obtain ⟨registered, hosts, ⟨e, sole⟩, stays⟩ :=
      hosts.register (registry ▸ nobody) o identity
    rw [registry] at registered sole
    obtain ⟨informed, -, -, binds⟩ := hosts.inform sole up
    obtain ⟨r', found', same⟩ := stays q r found
    obtain ⟨r'', found'', same', bound⟩ := binds q r' found' (asks (same.trans bare))
    exact ⟨q, _, r'', .cons asked (.cons registered (.cons informed (.nil _))), found'',
      same'.trans (same.trans bare), bound⟩
  · obtain ⟨registered, hosts, ⟨e, sole⟩, -⟩ := hosts.register nobody o identity
    rcases List.append_eq_singleton_iff.1 parts.symm with ⟨rfl, rfl⟩ | ⟨rfl, rfl⟩
    · -- asked for before it is available
      obtain ⟨q, r, asked, hosts, registry, found, bare, -⟩ := hosts.activate sound kind
      obtain ⟨informed, -, -, binds⟩ := hosts.inform (registry ▸ sole) up
      obtain ⟨r', found', same, bound⟩ := binds q r found (asks bare)
      exact ⟨q, _, r', .cons registered (.cons asked (.cons informed (.nil _))), found',
        same.trans bare, bound⟩
    · obtain ⟨informed, hosts, ⟨f, available, sole⟩, -⟩ := hosts.inform sole up
      obtain ⟨q, r, asked, -, -, found, bare, binds⟩ := hosts.activate sound kind
      exact ⟨q, _, r, .cons registered (.cons informed (.cons asked (.nil _))), found, bare,
        binds _ f o sole available meets⟩

end Hosts

theorem Reachable.unflawed (reached : b.Reachable) {q : RequestId} {r : ActiveRequest}
    (found : b.matcher.find? q = some r) : r.specifier.flaw? = none := by
  induction reached generalizing q r with
  | start => cases found
  | @accept b earlier i ends ih =>
    rcases b.accept_cases i with same | ⟨c, a, rfl, carried, _⟩ | ⟨l, _, there, dropped⟩
    · rw [same] at found
      exact ih found
    · rcases carried.origin earlier.orderly found with ⟨p, before, bare⟩ | ⟨_, _, sound⟩
      · rw [(ActiveRequest.bare_eq_iff.1 bare).2.2.1]
        exact ih before
      · exact sound
    · rw [dropped] at found
      exact ih ((earlier.orderly.find?_dropListener_iff there).1 found).1
  | outlets _ _ ih => exact ih found

end Broker

/-- A specifier is accepted exactly if something that could be offered meets it. Whatever does is
enough: where it is the only supplier and available, every request for what it offers is bound to it,
and so is one that is made before the supplier is registered, before it is available or after that; to
be available before it is registered is not open to it. A specifier that is not accepted comes to
nothing at all, and no request for it is ever there. -/
theorem Specifier.validation_law (s : Specifier) :
    (s.validate = .ok () ↔ ∃ o : Offer, o.meets s = true) ∧
    (∀ o : Offer, o.meets s = true → ∀ b : Broker, b.Reachable →
      (∀ id e, b.registry.Sole id e o → e.isAvailable = true →
        ∀ q r, b.matcher.find? q = some r → r.specifier = s → r.bound = some id) ∧
      (b.registry.suppliers = .empty →
        ∀ u l, b.firewall.isSystem u = true → b.hub.contains l = true →
        ∀ identity info kind, info.isAvailable = true →
        (∀ id, b.step (.updateInfo u id info) = ⟨.error (.unknownSupplier id), b, {}⟩) ∧
        ∃ id, ∀ earlier later, earlier ++ later = o.comesUp u identity info id →
          ∃ q c announced, b.Answers (earlier ++ (.activate kind s l, .id q) :: later) c ∧
            c.matcher.find? q = some { id := q, kind, specifier := s, listener := l
                                       bound := some id, announced })) ∧
    (s.validate ≠ .ok () → ∀ b : Broker, b.Reachable →
      (∀ kind l, ∃ flaw, b.step (.activate kind s l) = ⟨.error (.invalidSpecifier flaw), b, {}⟩) ∧
      ∀ q r, b.matcher.find? q = some r → r.specifier ≠ s) := by
  rw [ne_eq, validate_eq_ok_iff]
  refine ⟨flaw?_eq_none_iff_offer, fun o meets b reached => ⟨?_, ?_⟩, fun flawed b reached => ⟨?_, ?_⟩⟩
  · rintro id e sole available q r found rfl
    have settled := reached.matched.settled q r found
    rw [reached.matched.elected] at settled
    exact settled.bound_of_sole reached.orderly.suppliers sole available meets
  · intro nobody u l system listener identity info kind up
    have hosts : b.Hosts u l :=
      ⟨system, listener, reached.orderly.suppliers, reached.orderly.requests⟩
    have absent : ∀ id, b.registry.find? id = none := fun id => by rw [Registry.find?, nobody]; rfl
    refine ⟨fun id => Broker.step_updateInfo_of_absent system (absent id) info,
      b.registry.nextId, fun earlier later split => ?_⟩
    obtain ⟨q, c, r, answers, found, bare, bound⟩ := hosts.served nobody meets identity up kind split
    refine ⟨q, c, r.announced, answers, found.trans (congrArg some ?_)⟩
    obtain ⟨id, kind, specifier, listener, bound, announced⟩ := r
    cases bare
    cases bound
    rfl
  · intro kind l
    obtain ⟨flaw, flawed⟩ := Option.ne_none_iff_exists'.1 flawed
    exact ⟨flaw, Broker.step_activate_of_flaw flawed⟩
  · rintro q r found rfl
    exact flawed (reached.unflawed found)

namespace Broker

def listenerAlone : Broker := (Broker.new {} false .absent).start.after [
  .command (.registerListener 10 (.newChannel 4))]

theorem listenerAlone_reachable : listenerAlone.Reachable :=
  Reachable.after (.start {} false .absent) (by decide)

/-- A vpn that reaches the internet is asked for before there is one. One that is no vpn is not even
waited for. -/
theorem validation_law_listenerAlone :
    let vpn : Specifier := { required := .internet, netType := some .vpn }
    let noVpn : Specifier := { required := .notVpn, netType := some .vpn }
    listenerAlone.Reachable ∧ vpn.validate = .ok () ∧
      (∃ id q c announced, listenerAlone.Answers [
          (.activate .listen vpn 1, .id q),
          (.registerSupplier 0 .vpn "tun" (.union .internet .validated), .id id),
          (.updateInfo 0 id { isAvailable := true }, .done)] c ∧
        c.matcher.find? q = some { id := q, kind := .listen, specifier := vpn, listener := 1
                                   bound := some id, announced }) ∧
      noVpn.validate ≠ .ok () ∧ (¬ ∃ o : Offer, o.meets noVpn = true) ∧
      (listenerAlone.step (.activate .listen noVpn 1)).broker = listenerAlone := by
  intro vpn noVpn
  let tunnel : Offer := ⟨.vpn, .union .internet .validated, by decide, by decide⟩
  have meets : tunnel.meets vpn = true := by decide
  obtain ⟨accepted, served, -⟩ := vpn.validation_law
  obtain ⟨-, id, anyOrder⟩ := (served tunnel meets listenerAlone listenerAlone_reachable).2 rfl 0 1
    (by decide) (by decide) "tun" { isAvailable := true } .listen rfl
  obtain ⟨q, c, announced, answers, bound⟩ := anyOrder [] _ rfl
  have refused : noVpn.validate ≠ .ok () := by decide
  obtain ⟨possible, -, nothing⟩ := noVpn.validation_law
  obtain ⟨flaw, step⟩ := (nothing refused listenerAlone listenerAlone_reachable).1 .listen 1
  exact ⟨listenerAlone_reachable, accepted.2 ⟨tunnel, meets⟩, ⟨id, q, c, announced, answers, bound⟩,
    refused, mt possible.2 refused, by rw [step]⟩

end Broker

end Connectivity
