import Connectivity.Proofs.Announcement
/-! What a step sends about a request is decided by the suppliers announced before and after it, and
by what it changes about a supplier that stays announced. Several parts of a step may send, but at
most one of them changes what is announced. -/
namespace Connectivity

/-- What a listener is to be told when the supplier announced to it goes from one to another while
there is this news of a supplier. -/
def expected (kind : RequestKind) (news : Option (SupplierId × NetworkEvent)) :
    Option SupplierId → Option SupplierId → List NetworkEvent
  | none, none => []
  | none, some t => [.available t]
  | some s, none => [.lost s]
  | some s, some t =>
    if s = t then match news with
      | some (u, e) => if u = s then [e] else []
      | none => []
    else if kind = .trackDefault then [.available t] else [.lost s, .available t]

theorem expected_silent (kind : RequestKind) (a b : Option SupplierId) :
    expected kind none a b = announcement kind a b := by
  cases a <;> cases b <;> cases kind <;> simp [expected, announcement]

theorem expected_news (kind : RequestKind) (u : SupplierId) (e : NetworkEvent)
    (a b : Option SupplierId) : expected kind (some (u, e)) a b =
      announcement kind a b ++ if a = some u ∧ b = some u then [e] else [] := by
  cases a with
  | none => cases b <;> simp [expected, announcement]
  | some s =>
    cases b with
    | none => cases kind <;> simp [expected, announcement]
    | some t =>
      by_cases same : s = t
      · subst same
        simp [expected, announcement, eq_comm (a := u) (b := s)]
      · have apart : ¬ (s = u ∧ t = u) := fun both => same (both.1.trans both.2.symm)
        cases kind <;> simp [expected, announcement, same, apart]

namespace Broker

/-- What the input says about a supplier itself, if it is carried out. -/
def news (b : Broker) : Input → Option (SupplierId × NetworkEvent)
  | .command c =>
    match (b.step c).reply, c with
    | .ok _, .updateCapabilities _ s capabilities =>
      if b.registry.capabilities? s = some capabilities then none
      else some (s, .capabilitiesChanged capabilities)
    | .ok _, .updateLink _ s link => some (s, .linkChanged link)
    | _, _ => none
  | .death _ => none

def announced? (b : Broker) (q : RequestId) : Option SupplierId :=
  (b.matcher.find? q).bind (·.announced)

end Broker

def Turn.Notified (t : Turn) (b : Broker) (news : Option (SupplierId × NetworkEvent)) : Prop :=
  ∀ q, t.deeds.about q = match t.broker.matcher.find? q with
    | none => []
    | some r => r.notices (expected r.kind news (b.announced? q) r.announced)

namespace Turn
variable {b : Broker} {t : Turn}

theorem notified_silent (sent : t.deeds.sent = [])
    (same : ∀ q r, t.broker.matcher.find? q = some r → b.announced? q = r.announced) :
    t.Notified b none := by
  intro q
  have nothing : t.deeds.about q = [] := by rw [Deeds.about, sent]; rfl
  rw [nothing]
  cases found : t.broker.matcher.find? q with
  | none => rfl
  | some r =>
    dsimp only
    rw [expected_silent, same q r found, announcement_self]
    rfl

theorem notified_reevaluate (keyed : t.broker.matcher.Keyed) (sent : t.deeds.sent = [])
    (same : ∀ q r, t.broker.matcher.find? q = some r → b.announced? q = r.announced)
    (scope : Scope) : (t.reevaluate scope).Notified b none := by
  intro q
  have nothing : t.deeds.about q = [] := by rw [Deeds.about, sent]; rfl
  rw [about_reevaluate keyed, reevaluate_find? keyed, nothing]
  cases found : t.broker.matcher.find? q with
  | none => rfl
  | some r =>
    simp only [Option.map_some, Option.getD_some, List.nil_append, expected_silent, same q r found]
    rfl

/-- A second announcement in one turn is to those not told anything yet, or says nothing new. -/
theorem Notified.announce (notified : t.Notified b none) (keyed : t.broker.matcher.Keyed)
    {who : ActiveRequest → Bool}
    (once : ∀ q r, t.broker.matcher.find? q = some r →
      b.announced? q = r.announced ∨ (t.broker.told who r).announced = r.announced) :
    (t.announce who).Notified b none := by
  intro q
  rw [about_announce keyed, announce_find?, notified q]
  cases found : t.broker.matcher.find? q with
  | none => rfl
  | some r =>
    simp only [Option.map_some, Option.getD_some, expected_silent]
    rcases once q r found with untold | unmoved
    · rw [untold, announcement_self]
      rfl
    · rw [unmoved, announcement_self]
      simp only [ActiveRequest.notices, List.map_nil, List.append_nil]
      rfl

theorem Notified.reelect {news : Option (SupplierId × NetworkEvent)} (notified : t.Notified b news) :
    t.reelect.Notified b news := by
  intro q
  unfold Deeds.about Matcher.find?
  rw [reelect_sent, reelect_requests]
  exact notified q

/-- News of a supplier go to those to whom it was and is announced. -/
theorem Notified.tell (notified : t.Notified b none) (keyed : t.broker.matcher.Keyed)
    (informed : t.broker.Informed) {s : SupplierId} (e : NetworkEvent) {who : ActiveRequest → Bool}
    (before : ∀ q r, t.broker.matcher.find? q = some r → r.announced = some s →
      (who r = true ↔ b.announced? q = some s)) : (t.tell s e who).Notified b (some (s, e)) := by
  intro q
  rw [about_tell keyed, tell_matcher, notified q]
  cases found : t.broker.matcher.find? q with
  | none => rfl
  | some r =>
    have hears : t.broker.hears s who r = true ↔ b.announced? q = some s ∧ r.announced = some s := by
      simp only [Broker.hears, Bool.and_eq_true, beq_iff_eq]
      constructor
      · rintro ⟨⟨asked, told⟩, _⟩
        exact ⟨(before q r found told).1 asked, told⟩
      · rintro ⟨earlier, told⟩
        refine ⟨⟨(before q r found told).2 earlier, told⟩, ?_⟩
        rw [informed q r found, Broker.visible, Option.filter_eq_some_iff] at told
        exact told.2
    simp only [Option.map_some, Option.getD_some, expected_silent, expected_news, hears]
    exact List.map_append.symm

/-- A request that is bound anew is told at once, so what it was told is up to date. -/
theorem once_reevaluate (keyed : t.broker.matcher.Keyed)
    (same : ∀ q r, t.broker.matcher.find? q = some r → b.announced? q = r.announced)
    {scope : Scope} {who : ActiveRequest → Bool} {q : RequestId} {r : ActiveRequest}
    (found : (t.reevaluate scope).broker.matcher.find? q = some r) :
    b.announced? q = r.announced ∨
      ((t.reevaluate scope).broker.told who r).announced = r.announced := by
  rw [reevaluate_find? keyed, Option.map_eq_some_iff] at found
  obtain ⟨before, hr, rfl⟩ := found
  by_cases moved : (t.broker.rebind scope before).bound = before.bound
  · refine .inl ((same q before hr).trans ?_)
    simp only [Broker.rebind] at moved ⊢
    rw [if_pos moved]
  · right
    have current : (t.broker.rebind scope before).announced =
        t.broker.visible (t.broker.rebind scope before) := by
      simp only [Broker.rebind] at moved ⊢
      rw [if_neg moved]
      rfl
    simp only [Broker.told, (t.reevaluate_kept scope).visible, ← current, ite_self]

end Turn

namespace Registry

theorem Revised.candidates {r s : Registry} {id : SupplierId} {e f : SupplierEntry}
    (revised : r.Revised s id e f) (descriptor : f.descriptor = e.descriptor)
    (info : f.info = e.info) (seq : f.availableSeq = e.availableSeq) :
    s.candidates = r.candidates := by
  have entries : s.suppliers.entries =
      r.suppliers.entries.map (fun x => (x.1, if x.1 = id then f else x.2)) := by
    rw [revised.suppliers]
    exact Table.place_of_mem r.suppliers.ascending (Table.find?_eq_some_iff.1 revised.found)
  have alike : ∀ x ∈ r.suppliers.entries,
      (if x.1 = id then f else x.2).descriptor = x.2.descriptor ∧
        (if x.1 = id then f else x.2).info = x.2.info ∧
        (if x.1 = id then f else x.2).availableSeq = x.2.availableSeq := by
    intro x listed
    split
    · rename_i here
      have under := Table.find?_eq_some_iff.2 listed
      rw [here] at under
      rw [Option.some.inj (under.symm.trans revised.found)]
      exact ⟨descriptor, info, seq⟩
    · exact ⟨rfl, rfl, rfl⟩
  unfold Registry.candidates Table.values Table.filter
  simp only [entries, List.filter_map, List.map_map, Function.comp_def, SupplierEntry.isAvailable]
  have listed : ∀ x ∈ r.suppliers.entries,
      (if x.1 = id then f else x.2).info.isAvailable = x.2.info.isAvailable :=
    fun x there => congrArg SupplierInfo.isAvailable (alike x there).2.1
  rw [List.filter_congr listed]
  apply List.map_congr_left
  intro x listed
  obtain ⟨descriptor, info, seq⟩ := alike x (List.mem_filter.1 listed).1
  simp only [SupplierEntry.netType, SupplierEntry.capabilities, descriptor, info, seq]

end Registry

namespace Broker
variable {b : Broker}

theorem announced?_of_found {q : RequestId} {r : ActiveRequest} (found : b.matcher.find? q = some r) :
    b.announced? q = r.announced := by
  rw [announced?, found]
  rfl

theorem announcedOn_contains {id : SupplierId} {q : RequestId} :
    (b.matcher.announcedOn id).contains q = true ↔ b.announced? q = some id := by
  rw [List.contains_iff_mem, Matcher.announcedOn, Matcher.idsWhere, Table.mem_keys_iff,
    Table.contains_eq_true_iff, announced?, Option.bind_eq_some_iff]
  simp only [Table.find?_filter, Option.filter_eq_some_iff, beq_iff_eq]
  rfl

/-- A link decides nothing about who serves whom, so looking again at the bindings leaves them. -/
theorem Matched.rebind_linked (matched : b.Matched) (keyed : b.registry.Keyed)
    {registry : Registry} (candidates : registry.candidates = b.registry.candidates) {scope : Scope}
    {q : RequestId} {r : ActiveRequest} (found : b.matcher.find? q = some r) :
    ({ b with registry }.rebind scope r).announced = r.announced := by
  have stays := (matched.settled q r found).nextBinding keyed scope
  rw [matched.elected] at stays
  simp only [rebind, candidates, stays, if_true]

/-- With new capabilities a request may move, be hidden or be shown, but only one of these. -/
theorem notified_equip {t : Turn} (orderly : t.broker.Orderly) (notified : t.Notified b none)
    {s : SupplierId} {previous capabilities : Capabilities} {watching : List RequestId}
    (informed : (t.equip s previous capabilities watching).broker.Informed)
    (once : ∀ (who : ActiveRequest → Bool) q r, t.broker.matcher.find? q = some r →
      b.announced? q = r.announced ∨ (t.broker.told who r).announced = r.announced)
    (before : ∀ q r, t.broker.matcher.find? q = some r →
      (watching.contains r.id = true ↔ b.announced? q = some s)) :
    (t.equip s previous capabilities watching).Notified b
      (if previous = capabilities then none else some (s, .capabilitiesChanged capabilities)) := by
  unfold Turn.equip at informed ⊢
  dsimp only at informed ⊢
  by_cases metering : (previous.isMetered == capabilities.isMetered) = true
  · rw [if_pos metering] at informed ⊢
    split
    · exact notified
    · rename_i differ
      rw [if_neg differ, informed_tell_iff] at informed
      exact notified.tell orderly.requests informed _ (fun q r found _ => before q r found)
  · rw [if_neg metering] at informed ⊢
    have announced := notified.announce orderly.requests (once (fun r => r.bound == some s))
    split
    · exact announced
    · rename_i differ
      rw [if_neg differ, informed_tell_iff] at informed
      have keyed := ((t.announce_kept (fun r => r.bound == some s)).orderly orderly).requests
      refine announced.tell keyed informed _ (fun q r found _ => ?_)
      rw [Turn.announce_find?, Option.map_eq_some_iff] at found
      obtain ⟨earlier, hr, rfl⟩ := found
      exact before q earlier hr

theorem notified_repoliced (orderly : b.Orderly) {t : Turn} (changed : b.Repoliced t) :
    t.Notified b none := by
  have silent (store : PolicyStore) : { b with store }.begin.Notified b none :=
    Turn.notified_silent rfl (fun q r found => announced?_of_found found)
  cases changed with
  | @idle store access => exact silent store
  | @told store who access =>
    have announced : ({ b with store }.begin.announce who).Notified b none :=
      (silent store).announce orderly.requests
        (fun q r found => .inl (announced?_of_found found))
    exact announced.reelect

theorem notified_carried (orderly : b.Orderly) (matched : b.Matched) {c : Command} {a : Answer}
    {t : Turn} (informed : t.broker.Informed) (carried : b.Carried c a t)
    (ends : b.Ends (.command c)) (reply : (b.step c).reply = .ok a) :
    t.Notified b (b.news (.command c)) := by
  have started : ∀ q r, b.matcher.find? q = some r → b.announced? q = r.announced :=
    fun q r found => announced?_of_found found
  cases carried with
  | registered | informed =>
    simp only [news, reply]
    exact Turn.notified_reevaluate orderly.requests rfl started _
  | unregistered system found done gone cleared =>
    simp only [news, reply]
    subst cleared
    split <;> exact Turn.notified_reevaluate orderly.requests rfl started _
  | @equipped _ id capabilities e registry system done revised =>
    simp only [news, reply]
    have prepared : { b with registry }.Orderly :=
      orderly.congr (revised.keyed orderly.suppliers) rfl rfl
    have kept := ({ b with registry }.begin).reevaluate_kept (.supplier id e.netType)
    have known : b.registry.capabilities? id = some e.capabilities := by
      rw [Registry.capabilities?, revised.found]
      rfl
    simp only [known, Option.some.injEq]
    refine notified_equip (kept.orderly prepared)
      (Turn.notified_reevaluate orderly.requests rfl started _) informed
      (fun who q r found => Turn.once_reevaluate orderly.requests started found)
      (fun q r found => ?_)
    rw [(kept.orderly prepared).requests q r found]
    exact announcedOn_contains
  | @linked _ id link e registry system done revised =>
    simp only [news, reply]
    have candidates := revised.candidates rfl rfl rfl
    let t : Turn := { b with registry }.begin.callDevice (.apply id link)
    have prepared : t.broker.Orderly := orderly.congr (revised.keyed orderly.suppliers) rfl rfl
    have bound : (t.reevaluate (.supplier id e.netType)).Notified b none :=
      Turn.notified_reevaluate orderly.requests rfl started _
    refine bound.tell ((t.reevaluate_kept _).orderly prepared).requests
      (informed_tell_iff.1 informed) _ (fun q r found told => ⟨fun _ => ?_, fun _ => rfl⟩)
    rw [Turn.reevaluate_find? orderly.requests, Option.map_eq_some_iff] at found
    obtain ⟨earlier, hr, rfl⟩ := found
    rw [started q earlier hr, ← matched.rebind_linked orderly.suppliers candidates hr]
    exact told
  | left there =>
    simp only [news, reply]
    exact Turn.notified_silent rfl (fun q r stays =>
      started q r ((orderly.find?_dropListener_iff there).1 stays).1)
  | activated sound done =>
    simp only [news, reply]
    have room := ends sound (Hub.attach_eq_ok done).1
    refine Turn.notified_reevaluate (orderly.activate room done).requests rfl (fun q r found => ?_) _
    change (b.withRequest _ _ _ _).matcher.find? q = some r at found
    rw [find?_withRequest] at found
    split at found
    · rename_i here
      cases found
      rw [announced?, here, find?_fresh room]
      rfl
    · exact started q r found
  | deactivated found allowed =>
    simp only [news, reply]
    exact Turn.notified_silent rfl (fun q r stays =>
      started q r (Table.find?_erase_eq_some_iff.1 stays).2)
  | policed system done changed | restricted system done changed | grounded system done changed =>
    simp only [news, reply]
    exact notified_repoliced orderly changed
  | known | joined | looked | counted =>
    simp only [news, reply]
    exact Turn.notified_silent rfl started

theorem Reachable.notified {b : Broker} (reached : b.Reachable) {i : Input} (ends : b.Ends i) :
    (b.accept i).Notified b (b.news i) := by
  have informed := (reached.accept i ends).informed
  cases i with
  | command c =>
    rcases b.step_cases c with ⟨e, refused⟩ | ⟨a, t, carried, done⟩
    · simp only [Broker.accept, news, refused]
      exact Turn.notified_silent rfl (fun q r found => announced?_of_found found)
    · have turned : b.accept (.command c) = t := by simp only [Broker.accept, done]
      rw [turned] at informed ⊢
      exact notified_carried reached.orderly reached.matched informed carried ends (by rw [done])
  | death l =>
    refine Turn.notified_silent rfl (fun q r found => announced?_of_found ?_)
    change (b.bury l).matcher.find? q = some r at found
    unfold bury at found
    split at found
    · rename_i there
      exact ((reached.orderly.find?_dropListener_iff there).1 found).1
    · exact found

end Broker

end Connectivity
