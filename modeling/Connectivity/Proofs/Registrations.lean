import Connectivity.Proofs.Counting
import Connectivity.Registry.Step
/-! Suppliers by name. Net type and identity name one live supplier at most, so a registration comes
upon the same one in whatever order the suppliers are gone through, and an id stands for one name for
good as long as the count of ids does not come round. -/
namespace Connectivity

namespace SupplierEntry

def Bears (e : SupplierEntry) (netType : NetType) (identity : String) : Prop :=
  e.netType = netType ∧ e.descriptor.identity = identity

theorem bears_iff {e : SupplierEntry} {netType : NetType} {identity : String} :
    (e.descriptor.netType == netType && e.descriptor.identity == identity) = true ↔
      e.Bears netType identity := by
  rw [Bool.and_eq_true, beq_iff_eq, beq_iff_eq]
  rfl

end SupplierEntry

namespace Registry
variable {r s : Registry} {k : SupplierId} {e : SupplierEntry} {netType : NetType}
  {identity : String}

/-- The supplier of that name that is met first when they are gone through in this order. -/
def scan (es : List (SupplierId × SupplierEntry)) (netType : NetType) (identity : String) :
    Option SupplierId :=
  (es.find? (fun e =>
    e.2.descriptor.netType == netType && e.2.descriptor.identity == identity)).map (·.1)

def Distinct (r : Registry) : Prop :=
  ∀ j k d e, r.find? j = some d → r.find? k = some e →
    d.Bears e.netType e.descriptor.identity → j = k

theorem scan_eq_some_iff (distinct : r.Distinct) {es : List (SupplierId × SupplierEntry)}
    (order : es.Perm r.suppliers.entries) :
    scan es netType identity = some k ↔ ∃ e, r.find? k = some e ∧ e.Bears netType identity := by
  have listed : ∀ k e, (k, e) ∈ es ↔ r.find? k = some e := fun k e => by
    rw [order.mem_iff, find?, Table.find?_eq_some_iff]
  unfold scan
  constructor
  · intro met
    obtain ⟨⟨j, d⟩, first, rfl⟩ := Option.map_eq_some_iff.1 met
    have there := List.mem_of_find?_eq_some first
    have bears := List.find?_some first
    exact ⟨d, (listed j d).1 there, SupplierEntry.bears_iff.1 bears⟩
  · rintro ⟨e, found, rfl, rfl⟩
    cases first : es.find? (fun d => d.2.descriptor.netType == e.netType &&
        d.2.descriptor.identity == e.descriptor.identity) with
    | none =>
      have passed := List.find?_eq_none.1 first (k, e) ((listed k e).2 found)
      exact absurd (SupplierEntry.bears_iff.2 ⟨rfl, rfl⟩) passed
    | some d =>
      have there := List.mem_of_find?_eq_some first
      have bears := List.find?_some first
      have only := distinct d.1 k d.2 e ((listed d.1 d.2).1 there) found
        (SupplierEntry.bears_iff.1 bears)
      exact congrArg some only

theorem named?_eq_some_iff (distinct : r.Distinct) :
    r.named? netType identity = some k ↔ ∃ e, r.find? k = some e ∧ e.Bears netType identity :=
  scan_eq_some_iff distinct (.refl _)

theorem named?_eq_none_iff :
    r.named? netType identity = none ↔ ∀ k e, r.find? k = some e → ¬ e.Bears netType identity := by
  constructor
  · intro unnamed k e found bears
    have passed := List.find?_eq_none.1 (Option.map_eq_none_iff.1 unnamed) (k, e)
      (Table.find?_eq_some_iff.1 found)
    exact passed (SupplierEntry.bears_iff.2 bears)
  · intro nobody
    cases named : r.named? netType identity with
    | none => rfl
    | some k =>
      obtain ⟨e, found, bears⟩ := find?_of_named? named
      exact absurd bears (nobody k e found)

/-! What a step makes of the registry. -/

/-- Nothing changes, a new supplier comes under the next id of the count, one goes, or one is
replaced by another that has its id and its name. -/
inductive Acted (r : Registry) : RegistryStep → Registry → Prop where
  | stays {step} (silent : r.issued? step = none) : Acted r step r
  | enters {netType identity capabilities}
      (unnamed : r.named? netType identity = none)
      (issued : r.issued? (.register netType identity capabilities) =
        some (r.ids.take r.suppliers).1) :
      Acted r (.register netType identity capabilities)
        { r with
          suppliers := r.suppliers.insert (r.ids.take r.suppliers).1
            { descriptor :=
              { id := (r.ids.take r.suppliers).1, netType, identity, capabilities } }
          ids := (r.ids.take r.suppliers).2 }
  | leaves {id e} (found : r.find? id = some e) :
      Acted r (.unregister id) { r with suppliers := r.suppliers.erase id }
  | revised {step s id e f} (silent : r.issued? step = none) (revised : r.Revised s id e f)
      (sameIdentity : f.descriptor.identity = e.descriptor.identity) (sameIds : s.ids = r.ids) :
      Acted r step s

theorem register_of_unnamed (unnamed : r.named? netType identity = none)
    (capabilities : Capabilities) : r.register netType identity capabilities =
      .ok (⟨(r.ids.take r.suppliers).1, true⟩,
        { r with
          suppliers := r.suppliers.insert (r.ids.take r.suppliers).1
            { descriptor :=
              { id := (r.ids.take r.suppliers).1, netType, identity, capabilities } }
          ids := (r.ids.take r.suppliers).2 }) := by
  simp only [register, unnamed]

theorem register_of_named (named : r.named? netType identity = some k)
    (capabilities : Capabilities) : r.register netType identity capabilities =
      match r.duplicates with
      | .reject => .error (.duplicateSupplier netType identity k)
      | .returnExisting => .ok (⟨k, false⟩, r) := by
  cases policy : r.duplicates <;> simp [register, named, policy]

theorem act_of_named (named : r.named? netType identity = some k) (capabilities : Capabilities) :
    r.act (.register netType identity capabilities) = r ∧
      r.issued? (.register netType identity capabilities) = none := by
  simp only [act, issued?, register_of_named named]
  cases r.duplicates <;> exact ⟨rfl, rfl⟩

theorem acted (r : Registry) (step : RegistryStep) : r.Acted step (r.act step) := by
  cases step with
  | register netType identity capabilities =>
    cases named : r.named? netType identity with
    | none =>
      have taken : r.issued? (.register netType identity capabilities) =
          some (r.ids.take r.suppliers).1 := by simp only [issued?, register_of_unnamed named]
      simpa only [act, register_of_unnamed named] using Acted.enters named taken
    | some k =>
      -- under either duplicate policy
      obtain ⟨same, silent⟩ := act_of_named named capabilities
      exact same.symm ▸ .stays silent
  | unregister id =>
    simp only [act]
    cases done : r.unregister id with
    | error => exact .stays rfl
    | ok result =>
      obtain ⟨e, found, same⟩ := bind_eq_ok_iff.1 done
      cases same
      exact .leaves (entry_eq_ok_iff.1 found)
  | updateInfo id info =>
    simp only [act]
    cases done : r.updateInfo id info with
    | error => exact .stays rfl
    | ok result =>
      obtain ⟨e, found, same⟩ := bind_eq_ok_iff.1 done
      have found := entry_eq_ok_iff.1 found
      dsimp only at same
      split at same
      · cases same
        exact .revised rfl ⟨found, rfl, rfl, rfl⟩ rfl rfl
      · cases same
        exact .revised rfl ⟨found, rfl, rfl, rfl⟩ rfl rfl
  | updateCapabilities id capabilities =>
    simp only [act]
    cases done : r.updateCapabilities id capabilities with
    | error => exact .stays rfl
    | ok result =>
      obtain ⟨e, found, same⟩ := bind_eq_ok_iff.1 done
      cases same
      exact .revised rfl ⟨entry_eq_ok_iff.1 found, rfl, rfl, rfl⟩ rfl rfl
  | updateLink id link =>
    simp only [act]
    cases done : r.updateLink id link with
    | error => exact .stays rfl
    | ok result =>
      obtain ⟨e, found, same⟩ := bind_eq_ok_iff.1 done
      cases same
      exact .revised rfl ⟨entry_eq_ok_iff.1 found, rfl, rfl, rfl⟩ rfl rfl

/-! Runs. -/

/-- An id that the step draws is new, because the count has not come round. -/
def Counts (r : Registry) : RegistryStep → Prop
  | .register netType identity _ => r.named? netType identity = none → r.ids.next ≠ 0
  | _ => True

def CountsAll (r : Registry) : List RegistryStep → Prop
  | [] => True
  | step :: rest => r.Counts step ∧ (r.act step).CountsAll rest

instance (r : Registry) : (step : RegistryStep) → Decidable (r.Counts step)
  | .register netType identity _ =>
    inferInstanceAs (Decidable (r.named? netType identity = none → r.ids.next ≠ 0))
  | .unregister _ | .updateInfo .. | .updateCapabilities .. | .updateLink .. => .isTrue trivial

instance decidableCountsAll : (r : Registry) → (steps : List RegistryStep) →
    Decidable (r.CountsAll steps)
  | _, [] => .isTrue trivial
  | r, step :: rest =>
    have := decidableCountsAll (r.act step) rest
    inferInstanceAs (Decidable (r.Counts step ∧ (r.act step).CountsAll rest))

/-- The ids given out in a number of steps and before them, the last one first. -/
def given (r : Registry) (before : List SupplierId) : List RegistryStep → List SupplierId
  | [] => before
  | step :: rest => (r.act step).given ((r.issued? step).toList ++ before) rest

/-- The registries of runs in which the count of ids does not come round, with the ids given out on
the way, the last one first. -/
inductive Ran : Registry → List SupplierId → Prop where
  | new (duplicates : DuplicatePolicy) : Ran { duplicates } []
  | act {r : Registry} {given : List SupplierId} (earlier : Ran r given) {step : RegistryStep}
      (counts : r.Counts step) : Ran (r.act step) ((r.issued? step).toList ++ given)

theorem Ran.run {before : List SupplierId} (ran : r.Ran before) {steps : List RegistryStep}
    (counts : r.CountsAll steps) : (r.run steps).Ran (r.given before steps) := by
  induction steps generalizing r before with
  | nil => exact ran
  | cons step rest ih => exact ih (ran.act counts.1) counts.2

/-- Every supplier bears a name of its own and an id that was given out. -/
structure Accounted (r : Registry) (given : List SupplierId) : Prop where
  keyed : r.Keyed
  distinct : r.Distinct
  listed : ∀ k e, r.find? k = some e → k ∈ given
  handed : ∀ k ∈ given, r.ids.Handed k

theorem Acted.origin {step : RegistryStep} (acted : r.Acted step s) (found : s.find? k = some e) :
    (∃ d, r.find? k = some d ∧ d.Bears e.netType e.descriptor.identity) ∨
      r.issued? step = some k ∧ ∀ j d, r.find? j = some d →
        ¬ d.Bears e.netType e.descriptor.identity := by
  cases acted with
  | stays => exact .inl ⟨e, found, rfl, rfl⟩
  | enters unnamed issued =>
    rw [find?_of_insert rfl] at found
    split at found
    · rename_i here
      cases found
      exact .inr ⟨here ▸ issued, named?_eq_none_iff.1 unnamed⟩
    · exact .inl ⟨e, found, rfl, rfl⟩
  | leaves =>
    rw [find?_of_erase rfl] at found
    split at found
    · cases found
    · exact .inl ⟨e, found, rfl, rfl⟩
  | revised silent revised sameIdentity =>
    rw [find?_of_insert revised.suppliers] at found
    split at found
    · rename_i here
      cases found
      exact .inl ⟨_, here ▸ revised.found, revised.sameType.symm, sameIdentity.symm⟩
    · exact .inl ⟨e, found, rfl, rfl⟩

variable {given : List SupplierId} {step : RegistryStep}

theorem Accounted.drawn (accounted : r.Accounted given) (more : r.ids.next ≠ 0) :
    r.ids.take r.suppliers = (r.ids.next, ⟨r.ids.next + 1⟩) := by
  refine IdSource.take_of_handed more (fun k present => ?_)
  obtain ⟨e, found⟩ := Table.contains_eq_true_iff.1 present
  exact accounted.handed k (accounted.listed k e found)

theorem Accounted.before_next (accounted : r.Accounted given) (more : r.ids.next ≠ 0)
    (old : k ∈ given) : k < r.ids.next := (accounted.handed k old).2.resolve_left more

theorem Accounted.issued (accounted : r.Accounted given) (acted : r.Acted step s)
    (counts : r.Counts step) (issued : r.issued? step = some k) :
    k = r.ids.next ∧ r.ids.next ≠ 0 ∧ s.ids = ⟨r.ids.next + 1⟩ := by
  cases acted with
  | stays silent | revised silent =>
    rw [silent] at issued
    cases issued
  | enters unnamed entered =>
    have more : r.ids.next ≠ 0 := counts unnamed
    have drawn := accounted.drawn more
    refine ⟨?_, more, congrArg Prod.snd drawn⟩
    rw [← Option.some.inj (entered.symm.trans issued), drawn]
  | leaves => cases issued

theorem Acted.ids (acted : r.Acted step s) (silent : r.issued? step = none) : s.ids = r.ids := by
  cases acted with
  | stays | leaves => rfl
  | revised _ _ _ sameIds => exact sameIds
  | enters _ entered => cases silent.symm.trans entered

theorem Accounted.act (accounted : r.Accounted given) (acted : r.Acted step s)
    (counts : r.Counts step) : s.Accounted ((r.issued? step).toList ++ given) := by
  constructor
  · cases acted with
    | stays => exact accounted.keyed
    | enters => exact keyed_of_insert accounted.keyed (by rfl) rfl
    | leaves => exact keyed_of_erase accounted.keyed rfl
    | revised _ revised => exact revised.keyed accounted.keyed
  · intro j k d e hd he same
    rcases acted.origin hd with ⟨d', hd', was⟩ | ⟨issuedJ, nobody⟩
    · have named : d'.Bears e.netType e.descriptor.identity :=
        ⟨was.1.trans same.1, was.2.trans same.2⟩
      rcases acted.origin he with ⟨e', he', were⟩ | ⟨_, nobody⟩
      · exact accounted.distinct j k d' e' hd' he'
          ⟨named.1.trans were.1.symm, named.2.trans were.2.symm⟩
      · exact absurd named (nobody j d' hd')
    · rcases acted.origin he with ⟨e', he', were⟩ | ⟨issuedK, _⟩
      · exact absurd ⟨were.1.trans same.1.symm, were.2.trans same.2.symm⟩ (nobody k e' he')
      · exact Option.some.inj (issuedJ.symm.trans issuedK)
  · intro k e found
    rw [List.mem_append, Option.mem_toList]
    rcases acted.origin found with ⟨d, old, _⟩ | ⟨issued, _⟩
    · exact .inr (accounted.listed k d old)
    · exact .inl issued
  · intro k listed
    rw [List.mem_append, Option.mem_toList] at listed
    cases issued : r.issued? step with
    | none =>
      rw [acted.ids issued]
      exact accounted.handed k (listed.resolve_left (by simp [issued]))
    | some j =>
      obtain ⟨here, more, ids⟩ := accounted.issued acted counts issued
      rw [ids, IdSource.handed_succ_iff more]
      rcases listed with new | old
      · exact .inr ((Option.some.inj (new.symm.trans issued)).trans here)
      · exact .inl (accounted.handed k old)

theorem Ran.accounted (ran : r.Ran given) : r.Accounted given := by
  induction ran with
  | new duplicates => exact ⟨fun _ _ => nofun, fun _ _ _ _ => nofun, fun _ _ => nofun, nofun⟩
  | act earlier counts ih => exact ih.act (acted _ _) counts

/-- An id stands for one name: what bears it at the end of a run bore the same name at its start, if
the id was given out before. -/
theorem Accounted.name_lasts (accounted : r.Accounted given) (old : k ∈ given)
    {steps : List RegistryStep} (counts : r.CountsAll steps)
    (found : (r.run steps).find? k = some e) :
    ∃ d, r.find? k = some d ∧ d.Bears e.netType e.descriptor.identity := by
  induction steps generalizing r given with
  | nil => exact ⟨e, found, rfl, rfl⟩
  | cons step rest ih =>
    have acted := r.acted step
    have next := accounted.act acted counts.1
    obtain ⟨d, there, name⟩ := ih next (List.mem_append_right _ old) counts.2 found
    rcases acted.origin there with ⟨c, before, was⟩ | ⟨issued, _⟩
    · exact ⟨c, before, was.1.trans name.1, was.2.trans name.2⟩
    · obtain ⟨here, more, _⟩ := accounted.issued acted counts.1 issued
      exact absurd (here ▸ accounted.handed k old) (IdSource.not_handed_next more)

/-- A registration under this name enters a supplier, which is not available yet, under an id above
all that were given out. -/
def Enters (r : Registry) (given : List SupplierId) (netType : NetType) (identity : String)
    (capabilities : Capabilities) : Prop :=
  ∃ id e, r.register netType identity capabilities =
      .ok (⟨id, true⟩, { r with suppliers := r.suppliers.insert id e, ids := ⟨id + 1⟩ }) ∧
    e.descriptor = { id, netType, identity, capabilities } ∧ e.isAvailable = false ∧
    r.find? id = none ∧ ∀ k ∈ given, k < id

theorem Accounted.enters (accounted : r.Accounted given) (more : r.ids.next ≠ 0)
    (nobody : ∀ k e, r.find? k = some e → ¬ e.Bears netType identity)
    (capabilities : Capabilities) : r.Enters given netType identity capabilities := by
  have done := register_of_unnamed (named?_eq_none_iff.2 nobody) capabilities
  rw [accounted.drawn more] at done
  refine ⟨_, _, done, rfl, rfl, ?_, fun k old => accounted.before_next more old⟩
  cases found : r.find? r.ids.next with
  | none => rfl
  | some e =>
    have below := accounted.before_next more (accounted.listed _ e found)
    exact absurd below (UInt32.lt_irrefl _)

/-- In a run in which the count of ids does not come round: every supplier stands under its own id,
which is no zero and was given out; no two bear one name; and an id keeps its name. So a registration
under a name that nobody bears enters a supplier under a new id, and one under a name that is borne
comes upon its bearer, in whatever order the suppliers are gone through, and changes nothing. A name
that is given up can be registered again, under an id that was never used. -/
theorem Ran.registration_law (ran : r.Ran given) :
    (∀ k e, r.find? k = some e →
      e.descriptor.id = k ∧ k ≠ 0 ∧ (r.ids.next ≠ 0 → k < r.ids.next)) ∧
    (∀ j k d e, r.find? j = some d → r.find? k = some e → d.netType = e.netType →
      d.descriptor.identity = e.descriptor.identity → j = k) ∧
    (∀ steps, r.CountsAll steps → ∀ k d e, r.find? k = some d →
      (r.run steps).find? k = some e →
      e.netType = d.netType ∧ e.descriptor.identity = d.descriptor.identity) ∧
    (∀ netType identity capabilities,
      (∀ k e, r.find? k = some e → ¬ e.Bears netType identity) → r.ids.next ≠ 0 →
      r.Enters given netType identity capabilities) ∧
    (∀ netType identity capabilities k e, r.find? k = some e → e.Bears netType identity →
      (∀ es, es.Perm r.suppliers.entries → scan es netType identity = some k) ∧
      (r.register netType identity capabilities = match r.duplicates with
        | .reject => .error (.duplicateSupplier netType identity k)
        | .returnExisting => .ok (⟨k, false⟩, r)) ∧
      r.act (.register netType identity capabilities) = r) ∧
    ∀ k e s, r.unregister k = .ok (e, s) → r.ids.next ≠ 0 → ∀ capabilities,
      s.Enters given e.netType e.descriptor.identity capabilities := by
  have accounted := ran.accounted
  refine ⟨fun k e found => ?_, fun j k d e hd he type identity => ?_,
    fun steps counts k d e before after => ?_, fun netType identity capabilities nobody more => ?_,
    fun netType identity capabilities k e found bears => ?_,
    fun k e s left more capabilities => ?_⟩
  · have old := accounted.listed k e found
    exact ⟨accounted.keyed k e found, (accounted.handed k old).1,
      fun more => accounted.before_next more old⟩
  · exact accounted.distinct j k d e hd he ⟨type, identity⟩
  · obtain ⟨c, there, name⟩ := accounted.name_lasts (accounted.listed k d before) counts after
    cases before.symm.trans there
    exact ⟨name.1.symm, name.2.symm⟩
  · exact accounted.enters more nobody capabilities
  · have named := (named?_eq_some_iff accounted.distinct).2 ⟨e, found, bears⟩
    exact ⟨fun es order => (scan_eq_some_iff accounted.distinct order).2 ⟨e, found, bears⟩,
      register_of_named named capabilities, (act_of_named named capabilities).1⟩
  · obtain ⟨d, known, same⟩ := bind_eq_ok_iff.1 left
    cases same
    have found := entry_eq_ok_iff.1 known
    have after := accounted.act (.leaves found) trivial
    refine after.enters more (fun j d there bears => ?_) capabilities
    rw [find?_of_erase rfl] at there
    split at there
    · cases there
    · rename_i other
      exact other (accounted.distinct j k d e there found bears)

def returned : List RegistryStep := [
  .register .wifi "lan" ⟨0⟩,
  .register .vpn "lan" ⟨0⟩,
  .unregister 1,
  .register .wifi "lan" ⟨4096⟩,
  .updateInfo 3 { isAvailable := true }]

/-- It is met whichever of the two is looked at first, and coming back once more it gets a fourth
id. -/
theorem registration_law_returned :
    (({} : Registry).run returned).Ran [3, 2, 1] ∧
      (∀ es, es.Perm (({} : Registry).run returned).suppliers.entries →
        scan es .wifi "lan" = some 3) ∧
      (({} : Registry).run returned).register .wifi "lan" ⟨0⟩ =
        .error (.duplicateSupplier .wifi "lan" 3) ∧
      ∃ e s, (({} : Registry).run returned).unregister 3 = .ok (e, s) ∧
        s.Enters [3, 2, 1] .wifi "lan" ⟨0⟩ := by
  have counts : ({} : Registry).CountsAll returned := by decide
  have ran : (({} : Registry).run returned).Ran [3, 2, 1] := (Ran.new .reject).run counts
  obtain ⟨_, _, _, _, borne, left⟩ := ran.registration_law
  have met := borne .wifi "lan" ⟨0⟩ 3 _ rfl ⟨rfl, rfl⟩
  exact ⟨ran, met.1, met.2.1, _, _, rfl, left 3 _ _ rfl (by decide) ⟨0⟩⟩

end Registry

end Connectivity
