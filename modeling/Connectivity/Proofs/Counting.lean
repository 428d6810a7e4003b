import Connectivity.Proofs.Unreachable
/-! Ids that do not wrap. As long as no count has run through all ids, whatever stands in a table bears
an id that was handed out once, the next id is new, and what has gone from a table is gone for good. -/
namespace Connectivity

namespace IdSource
variable {α : Type} {s t : IdSource} {id : UInt32}

/-- The source, which has not come round, has handed out `id`. -/
def Handed (s : IdSource) (id : UInt32) : Prop := id ≠ 0 ∧ (s.next = 0 ∨ id < s.next)

theorem not_handed_next (more : s.next ≠ 0) : ¬ s.Handed s.next := by
  rintro ⟨-, wrapped | before⟩
  · exact more wrapped
  · exact UInt32.lt_irrefl _ before

theorem handed_succ_iff (more : s.next ≠ 0) :
    (⟨s.next + 1⟩ : IdSource).Handed id ↔ s.Handed id ∨ id = s.next := by
  have bound := s.next.toNat_lt
  have idBound := id.toNat_lt
  simp only [Handed, ne_eq, ← UInt32.toNat_inj, UInt32.lt_iff_toNat_lt, UInt32.toNat_add] at more ⊢
  simp at more ⊢
  omega

/-- All ids that are in use were handed out, so there is room while there are more to come. -/
theorem hasRoom_of_handed {used : Table α} (more : s.next ≠ 0)
    (handed : ∀ k, used.contains k = true → s.Handed k) : used.HasRoom := by
  have among : used.keys.map UInt32.toNat ⊆ List.range' 1 (s.next.toNat - 1) := by
    intro n listed
    obtain ⟨k, present, rfl⟩ := List.mem_map.1 listed
    obtain ⟨nonzero, wrapped | before⟩ := handed k (Table.mem_keys_iff.1 present)
    · exact absurd wrapped more
    · have positive : k.toNat ≠ 0 := fun zero => nonzero (UInt32.toNat_inj.1 zero)
      have below := UInt32.lt_iff_toNat_lt.1 before
      rw [List.mem_range'_1]
      omega
  have distinct : (used.keys.map UInt32.toNat).Nodup :=
    List.pairwise_map.2 (used.keys_nodup.imp (fun different same =>
      different (UInt32.toNat_inj.1 same)))
  have count := distinct.length_le_of_subset among
  have bound := s.next.toNat_lt
  simp only [List.length_map, List.length_range', Table.length_keys] at count
  unfold Table.HasRoom
  omega

theorem take_of_handed {used : Table α} (more : s.next ≠ 0)
    (handed : ∀ k, used.contains k = true → s.Handed k) :
    s.take used = (s.next, ⟨s.next + 1⟩) := by
  apply take_of_fresh more
  rw [← Bool.not_eq_true]
  exact mt (handed s.next) (not_handed_next more)

/-- From one source to the other the next id was handed out, or none; a table has gained that id or
none, and may have lost others. -/
inductive Draws {β : Type} (s t : IdSource) (before : Table α) (after : Table β) : Prop where
  | rests (ids : t = s) (keys : ∀ k, after.contains k = true → before.contains k = true)
  | draws (more : s.next ≠ 0) (ids : t = ⟨s.next + 1⟩)
      (keys : ∀ k, after.contains k = true → k = s.next ∨ before.contains k = true)

namespace Draws
variable {β : Type} {before : Table α} {after : Table β}

theorem handed (draws : Draws s t before after) (handed : s.Handed id) : t.Handed id := by
  cases draws with
  | rests ids => exact ids ▸ handed
  | draws more ids => exact ids ▸ (handed_succ_iff more).2 (.inl handed)

theorem all_handed (draws : Draws s t before after)
    (all : ∀ k, before.contains k = true → s.Handed k) :
    ∀ k, after.contains k = true → t.Handed k := by
  intro k present
  cases draws with
  | rests ids keys => exact ids ▸ all k (keys k present)
  | draws more ids keys =>
    rw [ids, handed_succ_iff more]
    exact (keys k present).symm.imp_left (all k)

theorem followed {γ : Type} {last : Table γ} (draws : Draws s t before after)
    (keys : ∀ k, last.contains k = true → after.contains k = true) : Draws s t before last := by
  cases draws with
  | rests ids kept => exact .rests ids (fun k present => kept k (keys k present))
  | draws more ids kept => exact .draws more ids (fun k present => kept k (keys k present))

/-- An id is handed out once. -/
theorem contained (draws : Draws s t before after) (handed : s.Handed id)
    (present : after.contains id = true) : before.contains id = true := by
  cases draws with
  | rests _ keys => exact keys id present
  | draws more _ keys =>
    apply (keys id present).resolve_left
    rintro rfl
    exact not_handed_next more handed

end Draws

end IdSource

namespace Hub
variable {h g : Hub}

structure Numbered (h : Hub) : Prop where
  listeners : ∀ l, h.listeners.contains l = true → h.ids.Handed l
  outlets : ∀ l, h.outlets.contains l = true → h.ids.Handed l

structure Draws (h g : Hub) : Prop where
  listeners : IdSource.Draws h.ids g.ids h.listeners g.listeners
  outlets : IdSource.Draws h.ids g.ids h.outlets g.outlets

theorem Numbered.draws (numbered : h.Numbered) (draws : h.Draws g) : g.Numbered :=
  ⟨draws.listeners.all_handed numbered.listeners, draws.outlets.all_handed numbered.outlets⟩

theorem draws_of_subset (ids : g.ids = h.ids)
    (listeners : ∀ l, g.listeners.contains l = true → h.listeners.contains l = true)
    (outlets : ∀ l, g.outlets.contains l = true → h.outlets.contains l = true) : h.Draws g :=
  ⟨.rests ids listeners, .rests ids outlets⟩

theorem Draws.refl (h : Hub) : h.Draws h := draws_of_subset rfl (fun _ => id) (fun _ => id)

theorem draws_act (numbered : h.Numbered) (s : HubStep)
    (counts : ∀ uid sink, s = .register uid sink → sink.isConnected = true → h.ids.next ≠ 0) :
    h.Draws (h.act s) := by
  have modified {l : ListenerId} {f : Outlet → Outlet} {k : ListenerId}
      (present : (h.outlets.modify l f).contains k = true) : h.outlets.contains k = true := by
    rwa [Table.contains_modify] at present
  cases s with
  | register uid sink =>
    simp only [act]
    split
    · rename_i l g done
      have connected := (register_eq_ok done).1
      have more := counts uid sink rfl connected
      have taken := IdSource.take_of_handed more numbered.listeners
      unfold register at done
      rw [if_neg (by simp [connected]), taken] at done
      cases done
      constructor
      · refine .draws more rfl (fun k present => ?_)
        rw [Table.contains_insert, Bool.or_eq_true, decide_eq_true_eq] at present
        exact present
      · refine .draws more rfl (fun k present => ?_)
        rw [Table.contains_insert, Bool.or_eq_true, decide_eq_true_eq] at present
        exact present
    · exact .refl h
  | remove l =>
    simp only [act, remove]
    split
    · exact .refl h
    · refine draws_of_subset rfl (fun k present => ?_) (fun k => modified)
      rw [Table.contains_erase, Bool.and_eq_true] at present
      exact present.2
  | attach l q =>
    simp only [act, attach]
    split
    · rename_i done
      split at done
      · cases done
        refine draws_of_subset rfl (fun k present => ?_) (fun k => modified)
        rwa [Table.contains_modify] at present
      · cases done
    · exact .refl h
  | detach l q =>
    simp only [act, detach]
    split
    · refine draws_of_subset rfl (fun k present => ?_) (fun k => modified)
      rwa [Table.contains_modify] at present
    · exact .refl h
  | send l n =>
    simp only [act, send]
    split
    · exact draws_of_subset rfl (fun _ => id) (fun k => modified)
    · exact .refl h
  | turn | read | disconnect | report =>
    exact draws_of_subset rfl (fun _ => id) (fun k => modified)
  | shutdown =>
    refine draws_of_subset rfl (fun k present => by cases present) (fun k present => ?_)
    simpa only [act, shutdown, Table.contains, Table.find?_mapValues, Option.isSome_map] using present

end Hub

namespace Hub

theorem sendAll_ids (h : Hub) (sent : List (ListenerId × Notification)) :
    (h.sendAll sent).ids = h.ids := by
  unfold sendAll
  induction sent generalizing h with
  | nil => rfl
  | cons s rest ih =>
    rw [List.foldl_cons, ih, send]
    split <;> rfl

theorem sendAll_contains (h : Hub) (sent : List (ListenerId × Notification)) (l : ListenerId) :
    (h.sendAll sent).outlets.contains l = h.outlets.contains l := by
  unfold sendAll
  induction sent generalizing h with
  | nil => rfl
  | cons s rest ih =>
    rw [List.foldl_cons, ih, send]
    split
    · exact Table.contains_modify ..
    · rfl

theorem Draws.sendAll {h g : Hub} (draws : h.Draws g) (sent : List (ListenerId × Notification)) :
    h.Draws (g.sendAll sent) := by
  constructor
  · rw [sendAll_ids, sendAll_listeners]
    exact draws.listeners
  · rw [sendAll_ids]
    exact draws.outlets.followed (fun l present => (g.sendAll_contains sent l).symm.trans present)

end Hub

namespace Turn
variable {t : Turn}

theorem reelect_ids (t : Turn) : t.reelect.broker.matcher.ids = t.broker.matcher.ids := by
  unfold reelect
  rw [publish_matcher]
  unfold Matcher.elect
  dsimp only
  split <;> rfl

theorem reevaluate_ids (t : Turn) (scope : Scope) :
    (t.reevaluate scope).broker.matcher.ids = t.broker.matcher.ids := by
  refine (congrArg Matcher.ids (publish_matcher _ _)).trans ?_
  unfold Matcher.reevaluate Matcher.elect
  dsimp only
  split <;> rfl

theorem equip_ids (t : Turn) (s : SupplierId) (previous capabilities : Capabilities)
    (watching : List RequestId) :
    (t.equip s previous capabilities watching).broker.matcher.ids = t.broker.matcher.ids := by
  unfold equip
  dsimp only
  split <;> split <;> rfl

end Turn

namespace Registry
variable {r s : Registry} {id : SupplierId}

theorem draws_of_insert {e f : SupplierEntry} (ids : s.ids = r.ids) (found : r.find? id = some e)
    (put : s.suppliers = r.suppliers.insert id f) :
    IdSource.Draws r.ids s.ids r.suppliers s.suppliers := by
  refine .rests ids (fun k present => ?_)
  rw [put, Table.contains_insert, Bool.or_eq_true, decide_eq_true_eq] at present
  rcases present with rfl | present
  · exact Table.contains_eq_true_iff.2 ⟨e, found⟩
  · exact present

theorem draws_register {netType : NetType} {identity : String} {capabilities : Capabilities}
    {g : Registration} (handed : ∀ k, r.suppliers.contains k = true → r.ids.Handed k)
    (more : r.ids.next ≠ 0) (unnamed : r.named? netType identity = none)
    (done : r.register netType identity capabilities = .ok (g, s)) :
    IdSource.Draws r.ids s.ids r.suppliers s.suppliers := by
  have taken := IdSource.take_of_handed more handed
  unfold register at done
  simp only [unnamed, taken] at done
  cases done
  refine .draws more rfl (fun k present => ?_)
  rw [Table.contains_insert, Bool.or_eq_true, decide_eq_true_eq] at present
  exact present

theorem draws_unregister {e : SupplierEntry} (done : r.unregister id = .ok (e, s)) :
    IdSource.Draws r.ids s.ids r.suppliers s.suppliers := by
  obtain ⟨f, found, same⟩ := bind_eq_ok_iff.1 done
  cases same
  refine .rests rfl (fun k present => ?_)
  rw [Table.contains_erase, Bool.and_eq_true] at present
  exact present.2

theorem draws_updateInfo {info : SupplierInfo} {change : InfoChange}
    (done : r.updateInfo id info = .ok (change, s)) :
    IdSource.Draws r.ids s.ids r.suppliers s.suppliers := by
  obtain ⟨e, seq, revised⟩ := updateInfo_eq_ok done
  refine draws_of_insert ?_ revised.found revised.suppliers
  obtain ⟨f, _, step⟩ := bind_eq_ok_iff.1 done
  dsimp only at step
  split at step <;> cases step <;> rfl

theorem draws_updateCapabilities {capabilities previous : Capabilities}
    (done : r.updateCapabilities id capabilities = .ok (previous, s)) :
    IdSource.Draws r.ids s.ids r.suppliers s.suppliers := by
  obtain ⟨e, found, step⟩ := bind_eq_ok_iff.1 done
  cases step
  exact draws_of_insert rfl (entry_eq_ok_iff.1 found) rfl

theorem draws_updateLink {link : LinkInfo} (done : r.updateLink id link = .ok s) :
    IdSource.Draws r.ids s.ids r.suppliers s.suppliers := by
  obtain ⟨e, found, step⟩ := bind_eq_ok_iff.1 done
  cases step
  exact draws_of_insert rfl (entry_eq_ok_iff.1 found) rfl

end Registry

/-- The call on the hub that an input can come to. -/
inductive Input.Makes : Input → HubStep → Prop where
  | register {uid sink} : Makes (.command (.registerListener uid sink)) (.register uid sink)
  | unregister {l} : Makes (.command (.unregisterListener l)) (.remove l)
  | activate {kind specifier l q} : Makes (.command (.activate kind specifier l)) (.attach l q)
  | deactivate {caller q l} : Makes (.command (.deactivate caller q)) (.detach l q)
  | death {l} : Makes (.death l) (.remove l)

namespace Broker
variable {b c p : Broker} {t : Turn}

/-- Before it sent what it did, the turn has made one call on the hub of `b` or none. -/
def Called (b : Broker) (i : Input) (t : Turn) : Prop :=
  ∃ p, t.From p ∧ (p.hub = b.hub ∨ ∃ s, i.Makes s ∧ p.hub = b.hub.act s)

theorem Called.none {i : Input} (start : t.From p) (hub : p.hub = b.hub) : b.Called i t :=
  ⟨p, start, .inl hub⟩

theorem Called.one {i : Input} {s : HubStep} (start : t.From p) (makes : i.Makes s)
    (hub : p.hub = b.hub.act s) : b.Called i t :=
  ⟨p, start, .inr ⟨s, makes, hub⟩⟩

theorem called_repoliced {i : Input} (changed : b.Repoliced t) : b.Called i t := by
  cases changed with
  | idle access => exact .none (.begin _) rfl
  | told access => exact .none ((Turn.From.begin _).announce _).reelect rfl

theorem Carried.called {command : Command} {a : Answer} (carried : b.Carried command a t) :
    b.Called (.command command) t := by
  cases carried with
  | registered | informed => exact .none ((Turn.From.begin _).reevaluate _) rfl
  | unregistered system known done gone cleared =>
    exact .none ((Turn.From.callDevice_if cleared).reevaluate _) rfl
  | equipped => exact .none (((Turn.From.begin _).reevaluate _).equip _ _ _ _) rfl
  | linked => exact .none ((((Turn.From.begin _).callDevice _).reevaluate _).tell _ _ _) rfl
  | joined done =>
    apply Called.one (.begin _) .register
    rw [Hub.act, done]
  | left => exact .one (.begin _) .unregister rfl
  | activated sound done =>
    apply Called.one ((Turn.From.begin _).reevaluate _) .activate
    rw [Hub.act, done]
  | deactivated => exact .one (.begin _) .deactivate rfl
  | policed _ _ changed | restricted _ _ changed | grounded _ _ changed =>
    exact called_repoliced changed
  | known | looked | counted => exact .none (.begin _) rfl

theorem accept_called (b : Broker) (i : Input) : b.Called i (b.accept i) := by
  rcases b.accept_cases i with same | ⟨command, a, rfl, carried, _⟩ | ⟨l, rfl, there, dropped⟩
  · rw [same]
    exact .none (.begin b) rfl
  · exact carried.called
  · rw [dropped]
    exact .one (.begin _) .death rfl

/-- An id that the input draws is new, because the count has not come round. -/
def Counts (b : Broker) : Input → Prop
  | .command (.registerSupplier caller netType identity _) =>
    b.firewall.isSystem caller = true → b.registry.named? netType identity = none →
      b.registry.ids.next ≠ 0
  | .command (.registerListener _ sink) => sink.isConnected = true → b.hub.ids.next ≠ 0
  | .command (.activate _ specifier l) =>
    specifier.flaw? = none → b.hub.contains l = true → b.matcher.ids.next ≠ 0
  | _ => True

instance (b : Broker) : (i : Input) → Decidable (b.Counts i)
  | .command (.registerSupplier caller netType identity _) =>
    inferInstanceAs (Decidable (b.firewall.isSystem caller = true →
      b.registry.named? netType identity = none → b.registry.ids.next ≠ 0))
  | .command (.registerListener _ sink) =>
    inferInstanceAs (Decidable (sink.isConnected = true → b.hub.ids.next ≠ 0))
  | .command (.activate _ specifier l) =>
    inferInstanceAs (Decidable (specifier.flaw? = none → b.hub.contains l = true →
      b.matcher.ids.next ≠ 0))
  | .command (.unregisterSupplier ..) | .command (.updateInfo ..) | .command (.updateLink ..)
  | .command (.updateCapabilities ..) | .command (.unregisterListener ..)
  | .command (.deactivate ..) | .command (.request ..) | .command (.setUidPolicy ..)
  | .command (.setBackgroundPolicy ..) | .command (.setUidBackground ..) | .command .status
  | .death _ => .isTrue trivial

/-- Whatever there is bears an id that its source has handed out. -/
structure Numbered (b : Broker) : Prop where
  suppliers : ∀ s, b.registry.suppliers.contains s = true → b.registry.ids.Handed s
  requests : ∀ q, b.matcher.requests.contains q = true → b.matcher.ids.Handed q
  hub : b.hub.Numbered

structure Draws (b c : Broker) : Prop where
  suppliers : IdSource.Draws b.registry.ids c.registry.ids b.registry.suppliers c.registry.suppliers
  requests : IdSource.Draws b.matcher.ids c.matcher.ids b.matcher.requests c.matcher.requests
  hub : b.hub.Draws c.hub

theorem Numbered.draws (numbered : b.Numbered) (draws : b.Draws c) : c.Numbered :=
  ⟨draws.suppliers.all_handed numbered.suppliers, draws.requests.all_handed numbered.requests,
    numbered.hub.draws draws.hub⟩

theorem Numbered.ends (numbered : b.Numbered) {i : Input} (counts : b.Counts i) : b.Ends i := by
  cases i with
  | command c =>
    cases c with
    | registerSupplier caller netType identity capabilities =>
      exact fun system unnamed => IdSource.hasRoom_of_handed (counts system unnamed) numbered.suppliers
    | registerListener uid sink =>
      exact fun connected => IdSource.hasRoom_of_handed (counts connected) numbered.hub.listeners
    | activate kind specifier l =>
      exact fun sound there => IdSource.hasRoom_of_handed (counts sound there) numbered.requests
    | _ => exact trivial
  | death l => exact trivial

theorem Carried.draws_suppliers (numbered : b.Numbered) {command : Command} {a : Answer}
    (carried : b.Carried command a t) (counts : b.Counts (.command command)) :
    IdSource.Draws b.registry.ids t.broker.registry.ids
      b.registry.suppliers t.broker.registry.suppliers := by
  have same (registry : t.broker.registry = b.registry) : IdSource.Draws b.registry.ids
      t.broker.registry.ids b.registry.suppliers t.broker.registry.suppliers :=
    registry ▸ .rests rfl (fun _ => id)
  cases carried with
  | registered system unnamed done =>
    rw [(Turn.reevaluate_kept _ _).registry]
    exact Registry.draws_register numbered.suppliers (counts system unnamed) unnamed done
  | @unregistered _ id e registry t system found done gone cleared =>
    have broker : t.broker.registry = registry := congrArg (·.registry) (t.broker_of_called cleared)
    rw [(Turn.reevaluate_kept _ _).registry, broker]
    exact Registry.draws_unregister done
  | informed system done revised =>
    rw [(Turn.reevaluate_kept _ _).registry]
    exact Registry.draws_updateInfo done
  | equipped system done revised =>
    rw [((Turn.reevaluate_kept _ _).trans (Turn.equip_kept _ _ _ _ _)).registry]
    exact Registry.draws_updateCapabilities done
  | linked system done revised =>
    rw [((Turn.reevaluate_kept _ _).trans (Turn.tell_kept _ _ _ _)).registry]
    exact Registry.draws_updateLink done
  | activated => exact same (Turn.reevaluate_kept _ _).registry
  | policed _ _ changed | restricted _ _ changed | grounded _ _ changed =>
    exact same changed.registry
  | known | joined | left | deactivated | looked | counted => exact same rfl

/-- Where a turn has only dealt with requests that there were, none has come. -/
theorem draws_of_kept (kept : p.Kept t.broker) (ids : t.broker.matcher.ids = b.matcher.ids)
    (requests : ∀ q r, p.matcher.find? q = some r → b.matcher.find? q = some r) :
    IdSource.Draws b.matcher.ids t.broker.matcher.ids
      b.matcher.requests t.broker.matcher.requests := by
  refine .rests ids (fun q present => ?_)
  obtain ⟨s, found⟩ := Table.contains_eq_true_iff.1 present
  obtain ⟨r, earlier, _⟩ := kept.found found
  exact Table.contains_eq_true_iff.2 ⟨r, requests q r earlier⟩

theorem Carried.draws_requests (orderly : b.Orderly) (numbered : b.Numbered) {command : Command}
    {a : Answer} (carried : b.Carried command a t) (counts : b.Counts (.command command)) :
    IdSource.Draws b.matcher.ids t.broker.matcher.ids
      b.matcher.requests t.broker.matcher.requests := by
  cases carried with
  | registered | informed =>
    exact draws_of_kept (Turn.reevaluate_kept _ _) (Turn.reevaluate_ids _ _) (fun _ _ => id)
  | @unregistered _ id e registry t system found done gone cleared =>
    have matcher : t.broker.matcher = b.matcher := congrArg (·.matcher) (t.broker_of_called cleared)
    refine draws_of_kept (Turn.reevaluate_kept _ _) ?_ (fun _ _ there => matcher ▸ there)
    rw [Turn.reevaluate_ids, matcher]
  | equipped =>
    refine draws_of_kept ((Turn.reevaluate_kept _ _).trans (Turn.equip_kept _ _ _ _ _)) ?_
      (fun _ _ => id)
    rw [Turn.equip_ids, Turn.reevaluate_ids]
    rfl
  | linked =>
    refine draws_of_kept ((Turn.reevaluate_kept _ _).trans (Turn.tell_kept _ _ _ _)) ?_
      (fun _ _ => id)
    rw [Turn.tell_matcher, Turn.reevaluate_ids]
    rfl
  | left there =>
    obtain ⟨owner, known⟩ := Hub.find?_of_contains there
    refine draws_of_kept (.refl _) ?_ (fun q r stays =>
      ((orderly.find?_dropListener_iff there).1 stays).1)
    exact congrArg (·.matcher.ids) (dropListener_eq known)
  | @activated kind specifier l hub sound done =>
    have more := counts sound (Hub.attach_eq_ok done).1
    have taken := IdSource.take_of_handed more numbered.requests
    have ids : (b.withRequest kind specifier l hub).matcher.ids = ⟨b.matcher.ids.next + 1⟩ :=
      congrArg Prod.snd taken
    refine .draws more ((Turn.reevaluate_ids _ _).trans ids) (fun q present => ?_)
    obtain ⟨s, found⟩ := Table.contains_eq_true_iff.1 present
    obtain ⟨r, earlier, _⟩ := (Turn.reevaluate_kept _ _).found found
    have entered : (b.withRequest kind specifier l hub).matcher.find? q = some r := earlier
    rw [find?_withRequest] at entered
    split at entered
    · rename_i here
      exact .inl (here.trans (congrArg Prod.fst taken))
    · exact .inr (Table.contains_eq_true_iff.2 ⟨r, entered⟩)
  | deactivated =>
    exact draws_of_kept (.refl _) rfl (fun q r stays => (Table.find?_erase_eq_some_iff.1 stays).2)
  | policed system done changed | restricted system done changed | grounded system done changed =>
    cases changed with
    | idle => exact .rests rfl (fun _ => id)
    | told =>
      refine draws_of_kept ((Turn.announce_kept _ _).trans (Turn.reelect_kept _)) ?_ (fun _ _ => id)
      rw [Turn.reelect_ids]
      rfl
  | known | joined | looked | counted => exact .rests rfl (fun _ => id)

theorem Called.draws (numbered : b.Numbered) {i : Input} (called : b.Called i t)
    (counts : b.Counts i) : b.hub.Draws t.broker.hub := by
  obtain ⟨p, start, hub⟩ := called
  rw [start.hub]
  apply Hub.Draws.sendAll
  rcases hub with same | ⟨s, makes, made⟩
  · rw [same]
    exact .refl b.hub
  · rw [made]
    apply Hub.draws_act numbered.hub
    rintro uid sink rfl connected
    cases makes
    exact counts connected

theorem Numbered.draws_accept (numbered : b.Numbered) (orderly : b.Orderly) {i : Input}
    (counts : b.Counts i) : b.Draws (b.accept i).broker := by
  have hub := (b.accept_called i).draws numbered counts
  rcases b.accept_cases i with same | ⟨command, a, rfl, carried, _⟩ | ⟨l, _, there, dropped⟩
  · rw [same] at hub ⊢
    exact ⟨.rests rfl (fun _ => id), .rests rfl (fun _ => id), hub⟩
  · exact ⟨carried.draws_suppliers numbered counts, carried.draws_requests orderly numbered counts, hub⟩
  · have left : b.Carried (.unregisterListener l) .done (b.dropListener l).begin := .left there
    rw [dropped] at hub ⊢
    exact ⟨left.draws_suppliers numbered trivial, left.draws_requests orderly numbered trivial, hub⟩

end Broker

namespace Desk
variable {d : Desk}

/-- An id that the step draws is new, because the count has not come round. -/
def Counts (d : Desk) : DeskStep → Prop
  | .command c => d.broker.Counts (.command c)
  | _ => True

def CountsAll (d : Desk) : List DeskStep → Prop
  | [] => True
  | s :: rest => d.Counts s ∧ (d.act s).2.CountsAll rest

instance (d : Desk) : (s : DeskStep) → Decidable (d.Counts s)
  | .command c => inferInstanceAs (Decidable (d.broker.Counts (.command c)))
  | .death | .turn _ | .read _ | .disconnect _ | .report _ => .isTrue trivial

instance decidableCountsAll : (d : Desk) → (steps : List DeskStep) → Decidable (d.CountsAll steps)
  | _, [] => .isTrue trivial
  | d, s :: rest =>
    have := decidableCountsAll (d.act s).2 rest
    inferInstanceAs (Decidable (d.Counts s ∧ (d.act s).2.CountsAll rest))

/-- The states of a desk in runs in which no count of ids comes round. -/
inductive Counted : Desk → Prop where
  | start (settings : BrokerSettings) (keeps : Bool) (file : PolicyFile) :
      Counted { broker := (Broker.new settings keeps file).start }
  | act {d : Desk} (earlier : Counted d) {s : DeskStep} (counts : d.Counts s) : Counted (d.act s).2

theorem Counted.run (counted : d.Counted) {steps : List DeskStep} (counts : d.CountsAll steps) :
    (d.run steps).Counted := by
  induction steps generalizing d with
  | nil => exact counted
  | cons s rest ih => exact ih (counted.act counts.1) counts.2

theorem draws_act (numbered : d.broker.Numbered) (orderly : d.broker.Orderly) {s : DeskStep}
    (counts : d.Counts s) : d.broker.Draws (d.act s).2.broker := by
  have atHub {step : HubStep} (own : ∀ uid sink, step ≠ .register uid sink) :
      d.broker.Draws (d.atHub step).broker :=
    ⟨.rests rfl (fun _ => id), .rests rfl (fun _ => id),
      Hub.draws_act numbered.hub step (fun uid sink same => absurd same (own uid sink))⟩
  cases s with
  | command c => exact numbered.draws_accept orderly counts
  | death =>
    obtain ⟨b, deaths⟩ := d
    cases deaths with
    | nil => exact ⟨.rests rfl (fun _ => id), .rests rfl (fun _ => id), .refl _⟩
    | cons l rest => exact numbered.draws_accept (i := .death l) orderly trivial
  | turn | read | disconnect | report => exact atHub (fun _ _ => nofun)

theorem Counted.grounded (counted : d.Counted) : (∃ failed, Ran d failed) ∧ d.broker.Numbered := by
  induction counted with
  | start settings keeps file =>
    refine ⟨⟨_, .start settings keeps file⟩, ?_, ?_, ?_, ?_⟩
    all_goals exact fun _ => nofun
  | @act d earlier s counts ih =>
    obtain ⟨⟨failed, ran⟩, numbered⟩ := ih
    have ends : d.Ends s := by
      cases s with
      | command c => exact numbered.ends counts
      | _ => exact trivial
    have draws := draws_act numbered ran.atWork.reachable.orderly counts
    exact ⟨⟨_, ran.act s ends⟩, numbered.draws draws⟩

theorem Counted.reachable (counted : d.Counted) : d.broker.Reachable := by
  obtain ⟨⟨_, ran⟩, -⟩ := counted.grounded
  exact ran.atWork.reachable

theorem Counted.numbered (counted : d.Counted) : d.broker.Numbered := counted.grounded.2

theorem Counted.draws (counted : d.Counted) {s : DeskStep} (counts : d.Counts s) :
    d.broker.Draws (d.act s).2.broker := draws_act counted.numbered counted.reachable.orderly counts

end Desk

end Connectivity
