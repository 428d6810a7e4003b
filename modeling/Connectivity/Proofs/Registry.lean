import Connectivity.Proofs.FreshIds
import Connectivity.Proofs.Outcome
import Connectivity.Proofs.Selection
/-! What a successful call leaves in the registry. Each changes one supplier, never its type, and
what a request asks for decides whether that can matter to it. -/
namespace Connectivity

namespace Registry
variable {r s : Registry} {id : SupplierId}

theorem entry_eq_ok_iff {e : SupplierEntry} : r.entry id = .ok e ↔ r.find? id = some e := by
  unfold entry
  split <;> simp_all

/-- A second registration under a name gives the first one's id; any other enters a new supplier. -/
theorem register_eq_ok {netType : NetType} {identity : String} {capabilities : Capabilities}
    {g : Registration} (done : r.register netType identity capabilities = .ok (g, s)) :
    (r.named? netType identity = some g.supplier ∧ g.created = false ∧
        r.duplicates = .returnExisting ∧ s = r) ∨
      (r.named? netType identity = none ∧ g.created = true ∧
        g.supplier = (r.ids.take r.suppliers).1 ∧
        s.suppliers = r.suppliers.insert g.supplier
          { descriptor := { id := g.supplier, netType, identity, capabilities } }) := by
  unfold register at done
  split at done
  · rename_i existing named
    split at done
    · cases done
    · rename_i returns
      cases done
      exact .inl ⟨named, rfl, returns, rfl⟩
  · rename_i named
    cases done
    exact .inr ⟨named, rfl, rfl, rfl⟩

theorem unregister_eq_ok {e : SupplierEntry} (done : r.unregister id = .ok (e, s)) :
    r.find? id = some e ∧ s.suppliers = r.suppliers.erase id := by
  obtain ⟨f, found, same⟩ := bind_eq_ok_iff.1 done
  cases same
  exact ⟨entry_eq_ok_iff.1 found, rfl⟩

/-- The entry `e` of supplier `id` is replaced by `f`, which has the same id and type. -/
structure Revised (r s : Registry) (id : SupplierId) (e f : SupplierEntry) : Prop where
  found : r.find? id = some e
  suppliers : s.suppliers = r.suppliers.insert id f
  sameId : f.descriptor.id = e.descriptor.id
  sameType : f.netType = e.netType

theorem updateInfo_eq_ok {info : SupplierInfo} {change : InfoChange}
    (done : r.updateInfo id info = .ok (change, s)) :
    ∃ e seq, r.Revised s id e { e with info, availableSeq := seq } := by
  obtain ⟨e, found, step⟩ := bind_eq_ok_iff.1 done
  have found := entry_eq_ok_iff.1 found
  dsimp only at step
  split at step
  · cases step
    exact ⟨e, _, found, rfl, rfl, rfl⟩
  · cases step
    exact ⟨e, e.availableSeq, found, rfl, rfl, rfl⟩

theorem updateCapabilities_eq_ok {capabilities previous : Capabilities}
    (done : r.updateCapabilities id capabilities = .ok (previous, s)) :
    ∃ e, r.Revised s id e { e with descriptor := { e.descriptor with capabilities } } ∧
      previous = e.capabilities := by
  obtain ⟨e, found, step⟩ := bind_eq_ok_iff.1 done
  cases step
  exact ⟨e, ⟨entry_eq_ok_iff.1 found, rfl, rfl, rfl⟩, rfl⟩

theorem updateLink_eq_ok {link : LinkInfo} (done : r.updateLink id link = .ok s) :
    ∃ e, r.Revised s id e { e with link := some link } := by
  obtain ⟨e, found, step⟩ := bind_eq_ok_iff.1 done
  cases step
  exact ⟨e, entry_eq_ok_iff.1 found, rfl, rfl, rfl⟩

/-- Nothing changes but supplier `id`, and that is of type `netType` wherever it is registered. -/
structure ChangedAt (r s : Registry) (id : SupplierId) (netType : NetType) : Prop where
  elsewhere : ∀ k, k ≠ id → s.find? k = r.find? k
  before : ∀ e, r.find? id = some e → e.netType = netType
  after : ∀ e, s.find? id = some e → e.netType = netType

theorem find?_of_insert {f : SupplierEntry} (put : s.suppliers = r.suppliers.insert id f)
    (k : SupplierId) : s.find? k = if k = id then some f else r.find? k := by
  unfold find?
  rw [put, Table.find?_insert]

theorem find?_of_erase (gone : s.suppliers = r.suppliers.erase id) (k : SupplierId) :
    s.find? k = if k = id then none else r.find? k := by
  unfold find?
  rw [gone, Table.find?_erase]

theorem Revised.changedAt {e f : SupplierEntry} (revised : r.Revised s id e f) :
    r.ChangedAt s id e.netType where
  elsewhere := fun k other => by rw [find?_of_insert revised.suppliers, if_neg other]
  before := fun g found => by rw [Option.some.inj (found.symm.trans revised.found)]
  after := fun g found => by
    rw [find?_of_insert revised.suppliers, if_pos rfl] at found
    rw [← Option.some.inj found, revised.sameType]

theorem keyed_of_insert {f : SupplierEntry} (keyed : r.Keyed) (same : f.descriptor.id = id)
    (put : s.suppliers = r.suppliers.insert id f) : s.Keyed := by
  intro k g found
  rw [find?_of_insert put] at found
  split at found
  · rename_i here
    rw [← Option.some.inj found, same, here]
  · exact keyed k g found

theorem Revised.keyed {e f : SupplierEntry} (revised : r.Revised s id e f) (keyed : r.Keyed) :
    s.Keyed :=
  keyed_of_insert keyed (revised.sameId.trans (keyed id e revised.found)) revised.suppliers

theorem keyed_of_erase (keyed : r.Keyed) (gone : s.suppliers = r.suppliers.erase id) : s.Keyed := by
  intro k g found
  rw [find?_of_erase gone] at found
  split at found
  · cases found
  · exact keyed k g found

theorem changedAt_of_unregister {e : SupplierEntry} (found : r.find? id = some e)
    (gone : s.suppliers = r.suppliers.erase id) : r.ChangedAt s id e.netType where
  elsewhere := fun k other => by rw [find?_of_erase gone, if_neg other]
  before := fun f here => by rw [Option.some.inj (here.symm.trans found)]
  after := fun f here => by
    rw [find?_of_erase gone, if_pos rfl] at here
    cases here

theorem changedAt_of_register {f : SupplierEntry} (fresh : r.suppliers.contains id = false)
    (put : s.suppliers = r.suppliers.insert id f) : r.ChangedAt s id f.netType where
  elsewhere := fun k other => by rw [find?_of_insert put, if_neg other]
  before := fun _ found => absurd rfl (Table.ne_of_contains_eq_false fresh found)
  after := fun e found => by
    rw [find?_of_insert put, if_pos rfl] at found
    rw [← Option.some.inj found]

/-- Where supplier `id` is asked for by no one of type `netType`, its change decides nothing. -/
theorem ChangedAt.serves_iff {netType : NetType} (changed : r.ChangedAt s id netType)
    {wanted : Specifier} (aside : wanted.concerns netType = false) (k : SupplierId) :
    s.Serves k wanted ↔ r.Serves k wanted := by
  by_cases here : k = id
  · subst here
    have unfit : ∀ e : SupplierEntry, e.netType = netType → ¬ e.Qualifies wanted := by
      intro e type qualifies
      have concerned := Specifier.concerns_iff.2
        (fun u hu => (qualifies.2.1 u hu).symm.trans type)
      exact Bool.noConfusion (aside.symm.trans concerned)
    constructor
    · rintro ⟨e, found, qualifies⟩
      exact absurd qualifies (unfit e (changed.after e found))
    · rintro ⟨e, found, qualifies⟩
      exact absurd qualifies (unfit e (changed.before e found))
  · unfold Serves
    rw [changed.elsewhere k here]

theorem find?_of_named? {netType : NetType} {identity : String}
    (named : r.named? netType identity = some id) :
    ∃ e, r.find? id = some e ∧ e.netType = netType ∧ e.descriptor.identity = identity := by
  obtain ⟨⟨k, e⟩, first, rfl⟩ := Option.map_eq_some_iff.1 named
  have fits := List.find?_some first
  rw [Bool.and_eq_true, beq_iff_eq, beq_iff_eq] at fits
  exact ⟨e, Table.find?_eq_some_iff.2 (List.mem_of_find?_eq_some first), fits⟩

theorem netType?_eq_some {e : SupplierEntry} {netType : NetType} (found : r.find? id = some e)
    (type : r.netType? id = some netType) : e.netType = netType := by
  rw [netType?, found] at type
  exact Option.some.inj type

/-- One call about supplier `id`, of type `netType`, has turned `r` into `s`. -/
inductive Altered (r : Registry) (id : SupplierId) (netType : NetType) (s : Registry) : Prop where
  | register {identity : String} {capabilities : Capabilities} {created : Bool}
      (room : r.named? netType identity = none → r.suppliers.HasRoom)
      (done : r.register netType identity capabilities = .ok (⟨id, created⟩, s))
  | unregister {e : SupplierEntry} (type : r.netType? id = some netType)
      (done : r.unregister id = .ok (e, s))
  | updateInfo {info : SupplierInfo} {change : InfoChange} (type : r.netType? id = some netType)
      (done : r.updateInfo id info = .ok (change, s))
  | updateCapabilities {capabilities previous : Capabilities} (type : r.netType? id = some netType)
      (done : r.updateCapabilities id capabilities = .ok (previous, s))
  | updateLink {link : LinkInfo} (type : r.netType? id = some netType)
      (done : r.updateLink id link = .ok s)

/-- What a registry can come to by such calls. -/
inductive Reachable : Registry → Prop where
  | new (duplicates : DuplicatePolicy) : Reachable { duplicates }
  | altered {r s : Registry} {id : SupplierId} {netType : NetType} (earlier : Reachable r)
      (altered : r.Altered id netType s) : Reachable s

theorem Revised.changedAt_of_type {e f : SupplierEntry} {netType : NetType}
    (revised : r.Revised s id e f) (type : r.netType? id = some netType) :
    r.ChangedAt s id netType := netType?_eq_some revised.found type ▸ revised.changedAt

theorem Altered.changedAt {netType : NetType} (altered : r.Altered id netType s) :
    r.ChangedAt s id netType := by
  cases altered with
  | register room done =>
    rcases register_eq_ok done with ⟨named, _, _, rfl⟩ | ⟨unnamed, _, drawn, put⟩
    · obtain ⟨e, known, type, _⟩ := find?_of_named? named
      have here : ∀ f, s.find? id = some f → f.netType = netType := fun f found => by
        rw [Option.some.inj (found.symm.trans known), type]
      exact ⟨fun _ _ => rfl, here, here⟩
    · have fresh := (r.ids.take_fresh (room unnamed)).2
      exact changedAt_of_register (drawn ▸ fresh) put
  | unregister type done =>
    obtain ⟨found, gone⟩ := unregister_eq_ok done
    exact netType?_eq_some found type ▸ changedAt_of_unregister found gone
  | updateInfo type done =>
    obtain ⟨_, _, revised⟩ := updateInfo_eq_ok done
    exact revised.changedAt_of_type type
  | updateCapabilities type done =>
    obtain ⟨_, revised, _⟩ := updateCapabilities_eq_ok done
    exact revised.changedAt_of_type type
  | updateLink type done =>
    obtain ⟨_, revised⟩ := updateLink_eq_ok done
    exact revised.changedAt_of_type type

theorem Altered.keyed {netType : NetType} (altered : r.Altered id netType s) (keyed : r.Keyed) :
    s.Keyed := by
  cases altered with
  | register room done =>
    rcases register_eq_ok done with ⟨_, _, _, rfl⟩ | ⟨_, _, _, put⟩
    · exact keyed
    · exact keyed_of_insert keyed (by rfl) put
  | unregister type done => exact keyed_of_erase keyed (unregister_eq_ok done).2
  | updateInfo type done =>
    obtain ⟨_, _, revised⟩ := updateInfo_eq_ok done
    exact revised.keyed keyed
  | updateCapabilities type done =>
    obtain ⟨_, revised, _⟩ := updateCapabilities_eq_ok done
    exact revised.keyed keyed
  | updateLink type done =>
    obtain ⟨_, revised⟩ := updateLink_eq_ok done
    exact revised.keyed keyed

theorem Reachable.keyed (reached : r.Reachable) : r.Keyed := by
  induction reached with
  | new duplicates => intro id e found; cases found
  | altered _ altered ih => exact altered.keyed ih

end Registry

end Connectivity
