import Connectivity.Proofs.BestEffort
import Connectivity.Proofs.Counting
/-! What the device is called for about one supplier: each of its links in turn, and when it is
unregistered, once and last, that they be cleared, if there was any. -/
namespace Connectivity

namespace Command
variable {id : SupplierId} {c : Command}

def linkFor? (id : SupplierId) : Command → Option LinkInfo
  | .updateLink _ k link => if k = id then some link else none
  | _ => none

def unregisters (id : SupplierId) : Command → Bool
  | .unregisterSupplier _ k => k == id
  | _ => false

theorem linkFor?_of_unregisters (gone : c.unregisters id = true) : c.linkFor? id = none := by
  cases c with
  | updateLink => cases gone
  | _ => rfl

def Spares (id : SupplierId) (c : Command) : Prop :=
  c.linkFor? id = none ∧ c.unregisters id = false

end Command

/-- The links that a supplier was given, oldest first, and whether it was unregistered after that. -/
structure Life where
  links : List LinkInfo := []
  ended : Bool := false

namespace Life
variable {id : SupplierId} {cs : List Command}

def calls (id : SupplierId) (l : Life) : List DeviceCall :=
  l.links.map (.apply id) ++ if l.ended ∧ l.links ≠ [] then [.clear id] else []

def of (id : SupplierId) (cs : List Command) : Life :=
  { links := cs.filterMap (·.linkFor? id), ended := cs.any (·.unregisters id) }

/-- The suppliers that were known as `id` one after the other, the first of which had `links` given
to it before. -/
def all (id : SupplierId) (links : List LinkInfo) : List Command → List Life
  | [] => [{ links }]
  | c :: rest =>
    if c.unregisters id then { links, ended := true } :: all id [] rest
    else all id (links ++ (c.linkFor? id).toList) rest

/-- Nothing is done to a supplier that was unregistered. -/
def Final (id : SupplierId) (cs : List Command) : Prop :=
  cs.Pairwise (fun c later => c.unregisters id = true → later.Spares id)

theorem of_spared (spared : ∀ c ∈ cs, c.Spares id) : of id cs = {} := by
  have links : cs.filterMap (·.linkFor? id) = [] :=
    List.filterMap_eq_nil_iff.2 (fun c listed => (spared c listed).1)
  have ended : cs.any (·.unregisters id) = false := by
    rw [List.any_eq_false]
    intro c listed
    rw [(spared c listed).2]
    exact Bool.false_ne_true
  rw [of, links, ended]

theorem all_spared (links : List LinkInfo) (spared : ∀ c ∈ cs, c.Spares id) :
    all id links cs = [{ links }] := by
  induction cs with
  | nil => rfl
  | cons c rest ih =>
    obtain ⟨link, stays⟩ := spared c List.mem_cons_self
    have later := ih (fun d listed => spared d (List.mem_cons_of_mem c listed))
    simpa [all, link, stays] using later

theorem all_of_final (links : List LinkInfo) (final : Final id cs) :
    (all id links cs).flatMap (·.calls id) =
      calls id { links := links ++ (of id cs).links, ended := (of id cs).ended } := by
  induction cs generalizing links with
  | nil => simp [all, of]
  | cons c rest ih =>
    obtain ⟨spares, final⟩ := List.pairwise_cons.1 final
    cases gone : c.unregisters id with
    | true =>
      have spared : ∀ d ∈ rest, d.Spares id := fun d listed => spares d listed gone
      have first : of id (c :: rest) = { links := [], ended := true } := by
        have later := of_spared spared
        simp only [of, Life.mk.injEq] at later
        simp [of, Command.linkFor?_of_unregisters gone, gone, later.1]
      rw [all, if_pos gone, List.flatMap_cons, all_spared [] spared, first]
      simp [calls]
    | false =>
      have first : of id (c :: rest) =
          { links := (c.linkFor? id).toList ++ (of id rest).links, ended := (of id rest).ended } := by
        cases link : c.linkFor? id <;> simp [of, gone, link]
      rw [all, if_neg (by simp [gone]), ih _ final, first, List.append_assoc]

end Life

namespace Registry
variable {r s : Registry} {id : SupplierId}

theorem link?_of_insert {k : SupplierId} {e : SupplierEntry}
    (put : s.suppliers = r.suppliers.insert k e) (id : SupplierId) :
    s.link? id = if id = k then e.link else r.link? id := by
  unfold link? find?
  rw [put, Table.find?_insert]
  split <;> rfl

theorem link?_of_erase {k : SupplierId} (gone : s.suppliers = r.suppliers.erase k)
    (id : SupplierId) : s.link? id = if id = k then none else r.link? id := by
  unfold link? find?
  rw [gone, Table.find?_erase]
  split <;> rfl

/-- A change of anything else about a supplier leaves its link. -/
theorem Revised.link? {k : SupplierId} {e f : SupplierEntry} (revised : r.Revised s k e f)
    (same : f.link = e.link) (id : SupplierId) : s.link? id = r.link? id := by
  rw [link?_of_insert revised.suppliers]
  split
  · rename_i here
    rw [here, same, link?_of_find? revised.found]
  · rfl

end Registry

namespace Broker
variable {b : Broker} {c : Command} {a : Answer} {t : Turn}

theorem Carried.link? (carried : b.Carried c a t) (ends : b.Ends (.command c)) (id : SupplierId) :
    t.broker.registry.link? id =
      if c.unregisters id then none else (c.linkFor? id).or (b.registry.link? id) := by
  have same (registry : t.broker.registry = b.registry) :
      t.broker.registry.link? id = b.registry.link? id := by rw [registry]
  cases carried with
  | @registered _ netType identity capabilities k registry system unnamed done drawn put =>
    rw [(Turn.reevaluate_kept _ _).registry]
    refine (Registry.link?_of_insert put id).trans ?_
    split
    · rename_i here
      have fresh := (b.registry.ids.take_fresh (ends system unnamed)).2
      have absent : b.registry.find? id = none :=
        Option.isNone_iff_eq_none.1 (Option.isSome_eq_false_iff.1 (here ▸ drawn ▸ fresh))
      simp [Command.unregisters, Command.linkFor?, Registry.link?, absent]
    · rfl
  | @unregistered _ k e registry t system found done gone cleared =>
    have broker : t.broker.registry = registry := congrArg (·.registry) (t.broker_of_called cleared)
    rw [(Turn.reevaluate_kept _ _).registry, broker, Registry.link?_of_erase gone]
    by_cases here : k = id
    · simp [Command.unregisters, here]
    · simp [Command.unregisters, Command.linkFor?, here, Ne.symm here]
  | informed system done revised =>
    rw [(Turn.reevaluate_kept _ _).registry]
    exact revised.link? rfl id
  | equipped system done revised =>
    rw [((Turn.reevaluate_kept _ _).trans (Turn.equip_kept _ _ _ _ _)).registry]
    exact revised.link? rfl id
  | @linked _ k link e registry system done revised =>
    rw [((Turn.reevaluate_kept _ _).trans (Turn.tell_kept _ _ _ _)).registry]
    refine (Registry.link?_of_insert revised.suppliers id).trans ?_
    by_cases here : k = id
    · simp [Command.unregisters, Command.linkFor?, here]
    · simp [Command.unregisters, Command.linkFor?, here, Ne.symm here]
  | activated => exact same (Turn.reevaluate_kept _ _).registry
  | policed _ _ changed | restricted _ _ changed | grounded _ _ changed =>
    exact same changed.registry
  | known | joined | left | deactivated | looked | counted => rfl

theorem Carried.unregisters (carried : b.Carried c a t) {id : SupplierId}
    (gone : c.unregisters id = true) : b.registry.suppliers.contains id = true ∧
      t.broker.registry.suppliers.contains id = false := by
  cases carried with
  | @unregistered _ k e registry t system found done erased cleared =>
    cases show k = id from eq_of_beq gone
    have broker : t.broker.registry = registry := congrArg (·.registry) (t.broker_of_called cleared)
    refine ⟨Table.contains_eq_true_iff.2 ⟨e, found⟩, ?_⟩
    rw [(Turn.reevaluate_kept _ _).registry, broker, erased, Table.contains_erase]
    simp
  | _ => cases gone

theorem Carried.spares (carried : b.Carried c a t) {id : SupplierId}
    (absent : b.registry.suppliers.contains id = false) : c.Spares id := by
  have other {k : SupplierId} {e : SupplierEntry} (found : b.registry.find? k = some e) : k ≠ id := by
    rintro rfl
    rw [Table.contains_eq_true_iff.2 ⟨e, found⟩] at absent
    cases absent
  cases carried with
  | unregistered system found => exact ⟨rfl, beq_eq_false_iff_ne.2 (other found)⟩
  | linked system done revised => exact ⟨if_neg (other revised.found), rfl⟩
  | _ => exact ⟨rfl, rfl⟩

theorem deviceCalls_about (b : Broker) (c : Command) (id : SupplierId) :
    (b.deviceCalls c).filter (·.supplier == id) =
      if c.unregisters id then if (b.registry.link? id).isSome then [.clear id] else []
      else (c.linkFor? id).toList.map (.apply id) := by
  cases c with
  | unregisterSupplier caller k =>
    by_cases here : k = id
    · subst here
      cases linked : (b.registry.link? k).isSome <;>
        simp [deviceCalls, Command.unregisters, linked, DeviceCall.supplier]
    · cases linked : (b.registry.link? k).isSome <;>
        simp [deviceCalls, Command.unregisters, Command.linkFor?, linked, DeviceCall.supplier, here]
  | updateLink caller k link =>
    by_cases here : k = id <;>
      simp [deviceCalls, Command.unregisters, Command.linkFor?, DeviceCall.supplier, here]
  | _ => rfl

end Broker

def Happening.carried? (x : Happening) : DeskStep → Option Command
  | .command c => match x.reply with
    | some (.ok _) => some c
    | _ => none
  | _ => none

def carriedOut (steps : List DeskStep) (seen : List Happening) : List Command :=
  (steps.zip seen).filterMap (fun x => x.2.carried? x.1)

namespace Desk
variable {d : Desk} {s : DeskStep} {id : SupplierId}

/-- A step carries out a command, or has to do with neither the device nor the suppliers. -/
theorem act_cases (d : Desk) (s : DeskStep) :
    ((d.act s).1.carried? s = none ∧ (d.act s).1.deeds.calls = [] ∧
      (d.act s).2.broker.registry = d.broker.registry) ∨
    ∃ c a t, s = .command c ∧ d.broker.Carried c a t ∧ (d.act s).1.carried? s = some c ∧
      (d.act s).1.deeds = t.deeds ∧ (d.act s).2.broker = t.broker := by
  cases s with
  | command c =>
    rcases d.broker.step_cases c with ⟨e, refused⟩ | ⟨a, t, carried, stepped⟩
    · rw [act, refused]
      exact .inl ⟨rfl, rfl, rfl⟩
    · rw [act, stepped]
      exact .inr ⟨c, a, t, rfl, carried, rfl, rfl, rfl⟩
  | death =>
    obtain ⟨b, deaths⟩ := d
    cases deaths with
    | nil => exact .inl ⟨rfl, rfl, rfl⟩
    | cons l rest =>
      refine .inl ⟨rfl, rfl, show (b.bury l).registry = b.registry from ?_⟩
      unfold Broker.bury
      split <;> rfl
  | turn | read | disconnect | report => exact .inl ⟨rfl, rfl, rfl⟩

theorem carriedOut_cons (d : Desk) (s : DeskStep) (rest : List DeskStep) :
    carriedOut (s :: rest) (d.happenings (s :: rest)) =
      ((d.act s).1.carried? s).toList ++ carriedOut rest ((d.act s).2.happenings rest) := by
  simp only [carriedOut, happenings, List.zip_cons_cons, List.filterMap_cons]
  cases (d.act s).1.carried? s <;> rfl

/-- The calls about one supplier tell its life. -/
theorem calls_of_run {links : List LinkInfo} {steps : List DeskStep} (ends : d.EndsAll steps)
    (held : d.broker.registry.link? id = links.getLast?) :
    links.map (.apply id) ++
        ((d.happenings steps).flatMap (·.deeds.calls)).filter (·.supplier == id) =
      (Life.all id links (carriedOut steps (d.happenings steps))).flatMap (·.calls id) := by
  induction steps generalizing d links with
  | nil => simp [happenings, carriedOut, Life.all, Life.calls]
  | cons s rest ih =>
    rw [carriedOut_cons, happenings, List.flatMap_cons, List.filter_append]
    rcases d.act_cases s with ⟨none, silent, same⟩ | ⟨c, a, t, rfl, carried, some, deeds, broker⟩
    · rw [none, silent]
      exact ih ends.2 (same ▸ held)
    · have link := carried.link? ends.1 id
      rw [← broker] at link
      rw [some, deeds, carried.deviceCalls, Broker.deviceCalls_about, Option.toList_some,
        List.singleton_append]
      cases gone : c.unregisters id with
      | true =>
        rw [if_pos gone] at link
        have later := ih ends.2 (link.trans List.getLast?_nil.symm)
        rw [Life.all, if_pos gone, List.flatMap_cons, ← later, held]
        simp [Life.calls]
      | false =>
        rw [if_neg (by simp [gone])] at link
        rw [Life.all, if_neg Bool.false_ne_true, if_neg (by simp [gone]), ← List.append_assoc,
          ← List.map_append]
        apply ih ends.2
        rw [link, held, List.getLast?_append]
        cases c.linkFor? id <;> rfl

theorem Counted.spared (counted : d.Counted) (handed : d.broker.registry.ids.Handed id)
    (absent : d.broker.registry.suppliers.contains id = false) {steps : List DeskStep}
    (counts : d.CountsAll steps) :
    ∀ c ∈ carriedOut steps (d.happenings steps), c.Spares id := by
  induction steps generalizing d with
  | nil => exact fun _ => nofun
  | cons s rest ih =>
    have draws := (counted.draws counts.1).suppliers
    have still : (d.act s).2.broker.registry.suppliers.contains id = false := by
      rw [← Bool.not_eq_true] at absent ⊢
      exact mt (draws.contained handed) absent
    have later := ih (counted.act counts.1) (draws.handed handed) still counts.2
    rw [carriedOut_cons]
    rcases d.act_cases s with ⟨none, -, -⟩ | ⟨c, a, t, rfl, carried, some, -, -⟩
    · rw [none]
      exact later
    · rw [some]
      exact List.forall_mem_cons.2 ⟨carried.spares absent, later⟩

/-- Where no count of ids comes round, the id of an unregistered supplier is no other's. -/
theorem Counted.final (counted : d.Counted) {steps : List DeskStep} (counts : d.CountsAll steps)
    (id : SupplierId) : Life.Final id (carriedOut steps (d.happenings steps)) := by
  induction steps generalizing d with
  | nil => exact .nil
  | cons s rest ih =>
    have next := counted.act counts.1
    have later := ih next counts.2
    rw [carriedOut_cons]
    rcases d.act_cases s with ⟨none, -, -⟩ | ⟨c, a, t, rfl, carried, some, -, broker⟩
    · rw [none]
      exact later
    · rw [some]
      refine List.pairwise_cons.2 ⟨fun e listed gone => ?_, later⟩
      obtain ⟨present, absent⟩ := carried.unregisters gone
      have handed := (counted.draws counts.1).suppliers.handed (counted.numbered.suppliers id present)
      exact next.spared handed (broker ▸ absent) counts.2 e listed

end Desk

namespace Host

def callsAbout (h : Host) (id : SupplierId) : List DeviceCall := h.asked.filter (·.supplier == id)

/-- A command that is refused leaves everything as it was, the log too. -/
theorem act_of_refused {device : Device} {h : Host} {c : Command} {e : Refusal}
    (refused : (h.act device (.command c)).1.reply = some (.error e)) :
    (h.act device (.command c)).2 = h := by
  rw [act_eq] at refused ⊢
  rcases h.desk.broker.step_cases c with ⟨e, stepped⟩ | ⟨a, t, carried, stepped⟩
  · rw [Desk.act, stepped]
    exact reach_nil h h.desk
  · rw [Desk.act, stepped] at refused
    cases refused

/-- Whatever the device answers, it is called about a supplier for each link that is given to it, and if
there was any, once and last for its clearing when it is unregistered. What it answers changes
nothing but what the log says. -/
theorem callsAbout_run (settings : BrokerSettings) (keeps : Bool) (file : PolicyFile)
    {steps : List DeskStep} (ends : (start settings keeps file).desk.EndsAll steps)
    (device : Device) (id : SupplierId) :
    let (seen, last) := (start settings keeps file).run device steps
    last.callsAbout id = (Life.all id [] (carriedOut steps seen)).flatMap (·.calls id) ∧
      ((start settings keeps file).desk.CountsAll steps →
        last.callsAbout id = (Life.of id (carriedOut steps seen)).calls id) ∧
      (∀ (h : Host) (c : Command) (e : Refusal),
        (h.act device (.command c)).1.reply = some (.error e) → (h.act device (.command c)).2 = h) ∧
      ∀ other : Device, ((start settings keeps file).run other steps).1 = seen ∧
        ((start settings keeps file).run other steps).2.desk = last.desk ∧
        ((start settings keeps file).run other steps).2.asked = last.asked := by
  have unlinked : (start settings keeps file).desk.broker.registry.link? id = [].getLast? := rfl
  have lives := Desk.calls_of_run ends unlinked
  rw [run_eq]
  refine ⟨lives, fun counts => ?_, fun h c e => act_of_refused, fun other => ?_⟩
  · have final := (Desk.Counted.start settings keeps file).final counts id
    exact lives.trans (Life.all_of_final [] final)
  · rw [run_eq]
    exact ⟨rfl, rfl, rfl⟩

def oneLinked : List DeskStep := [
  .command (.registerSupplier 0 .wifi "lan" ⟨0⟩),
  .command (.registerSupplier 0 .wifi "wan" ⟨0⟩),
  .command (.updateLink 0 1 { ifaceName := "wlan0" }),
  .command (.updateLink 0 3 { ifaceName := "wlan0" }),
  .command (.updateLink 0 1 { ifaceName := "wlan1" }),
  .command (.unregisterSupplier 0 1),
  .command (.registerSupplier 0 .wifi "lan" ⟨0⟩),
  .command (.unregisterSupplier 0 2),
  .command (.unregisterSupplier 0 1)]

def broken : Device := fun _ _ => .error "no such interface"

theorem callsAbout_run_broken :
    let last := ((start {} false .absent).run broken oneLinked).2
    last.callsAbout 1 =
        [.apply 1 { ifaceName := "wlan0" }, .apply 1 { ifaceName := "wlan1" }, .clear 1] ∧
      last.callsAbout 2 = [] ∧ last.warnings.length = 3 ∧
      ((start {} false .absent).run .logging oneLinked).2.desk = last.desk := by
  have ends : (start {} false .absent).desk.EndsAll oneLinked := by decide
  have counts : (start {} false .absent).desk.CountsAll oneLinked := by decide
  obtain ⟨-, first, -, others⟩ := callsAbout_run {} false .absent ends broken 1
  obtain ⟨-, second, -, -⟩ := callsAbout_run {} false .absent ends broken 2
  refine ⟨?_, ?_, by decide, (others .logging).2.1⟩
  · exact (first counts).trans (by decide)
  · exact (second counts).trans (by decide)

end Host

end Connectivity
