import Connectivity.Proofs.PolicyFunction
import Connectivity.Proofs.Repetition
import Connectivity.Proofs.Visibility
/-! Policies of different uids. What is said of one uid is stored apart from what is said of another,
decides what other listeners may see, and is told to others, so it does not matter which is said
first. -/
namespace Connectivity

namespace Firewall

theorem find?_setPolicy (f : Firewall) (uid : Uid) (policy : PolicyBits) (u : Uid) :
    (f.setPolicy uid policy).2.policies.find? u =
      if u = uid then (if policy = 0 then none else some policy) else f.policies.find? u := by
  unfold setPolicy
  dsimp only
  by_cases zero : policy = 0
  · rw [if_pos zero, if_pos zero, Table.find?_erase]
  · rw [if_neg zero, if_neg zero, Table.find?_insert]

theorem find?_setBackground (f : Firewall) (uid : Uid) (background : Bool) (u : Uid) :
    (f.setBackground uid background).2.background.find? u =
      if u = uid then (if background then some () else none) else f.background.find? u := by
  unfold setBackground
  cases background with
  | true => exact Table.find?_insert f.background uid u ()
  | false => exact Table.find?_erase f.background uid u

theorem setPolicy_comm (f : Firewall) {u v : Uid} (apart : u ≠ v) (p q : PolicyBits) :
    ((f.setPolicy u p).2.setPolicy v q).2 = ((f.setPolicy v q).2.setPolicy u p).2 := by
  have policies : ((f.setPolicy u p).2.setPolicy v q).2.policies =
      ((f.setPolicy v q).2.setPolicy u p).2.policies := by
    refine Table.ext_find? (fun w => ?_)
    simp only [find?_setPolicy]
    exact ite_ite_comm _ _ _ _ (fun second first => apart (first.symm.trans second))
  exact congrArg (fun policies => { f with policies }) policies

theorem setBackground_comm (f : Firewall) {u v : Uid} (apart : u ≠ v) (p q : Bool) :
    ((f.setBackground u p).2.setBackground v q).2 =
      ((f.setBackground v q).2.setBackground u p).2 := by
  have background : ((f.setBackground u p).2.setBackground v q).2.background =
      ((f.setBackground v q).2.setBackground u p).2.background := by
    refine Table.ext_find? (fun w => ?_)
    simp only [find?_setBackground]
    exact ite_ite_comm _ _ _ _ (fun second first => apart (first.symm.trans second))
  exact congrArg (fun background => { f with background }) background

end Firewall

namespace PolicyStore
variable {s : PolicyStore}

def after (s : PolicyStore) : Command → PolicyStore
  | .setUidPolicy _ uid policy => (s.setPolicy uid policy).2
  | c => { s with firewall := s.firewall.after c }

theorem after_firewall (s : PolicyStore) (c : Command) :
    (s.after c).firewall = s.firewall.after c := by
  cases c with
  | setUidPolicy _ uid policy => exact s.setPolicy_firewall uid policy
  | _ => rfl

/-- What was written before is written over. -/
theorem save_withFirewall_save (s : PolicyStore) (f : Firewall) :
    PolicyStore.save { s.save with firewall := f } = PolicyStore.save { s with firewall := f } := by
  obtain ⟨_, keeps, file⟩ := s
  cases keeps with
  | false => rfl
  | true => cases file <;> rfl

/-- A policy that is set already is not set again, and any other is saved. -/
theorem setPolicy_eq (nonzero : ∀ u, s.firewall.policies.find? u ≠ some 0) (uid : Uid)
    (policy : PolicyBits) : (s.setPolicy uid policy).2 =
      if s.firewall.policy uid = policy then s
      else PolicyStore.save { s with firewall := (s.firewall.setPolicy uid policy).2 } := by
  by_cases same : s.firewall.policy uid = policy
  · have unchanged : (s.firewall.setPolicy uid policy).1 = false := bne_eq_false_iff_eq.2 same
    have policies := Firewall.setPolicy_same nonzero unchanged
    have firewall : (s.firewall.setPolicy uid policy).2 = s.firewall :=
      congrArg (fun policies => { s.firewall with policies }) policies
    rw [if_pos same, setPolicy_unchanged uid policy unchanged, firewall]
  · have changed : (s.firewall.setPolicy uid policy).1 = true := bne_iff_ne.2 same
    rw [if_neg same]
    simp only [PolicyStore.setPolicy, changed, if_true]

/-- The file ends up with both policies, whichever was saved last. -/
theorem setPolicy_comm (nonzero : ∀ u, s.firewall.policies.find? u ≠ some 0) {u v : Uid}
    (apart : u ≠ v) (p q : PolicyBits) :
    ((s.setPolicy u p).2.setPolicy v q).2 = ((s.setPolicy v q).2.setPolicy u p).2 := by
  have kept (w : Uid) (r : PolicyBits) :
      ∀ x, (s.setPolicy w r).2.firewall.policies.find? x ≠ some 0 := by
    rw [setPolicy_firewall]
    exact Firewall.setPolicy_nonzero nonzero w r
  have foreign {w x : Uid} (other : x ≠ w) (r : PolicyBits) :
      (s.setPolicy w r).2.firewall.policy x = s.firewall.policy x := by
    rw [setPolicy_firewall, Firewall.policy_setPolicy, if_neg other]
  rw [setPolicy_eq (kept u p), setPolicy_eq (kept v q), foreign apart.symm, foreign apart]
  by_cases first : s.firewall.policy u = p
  · have still : (s.setPolicy u p).2 = s := (setPolicy_eq nonzero u p).trans (if_pos first)
    rw [if_pos first, still, ← setPolicy_eq nonzero]
  · by_cases second : s.firewall.policy v = q
    · have still : (s.setPolicy v q).2 = s := (setPolicy_eq nonzero v q).trans (if_pos second)
      rw [if_pos second, still, ← setPolicy_eq nonzero]
    · rw [if_neg first, if_neg second, setPolicy_firewall, setPolicy_firewall,
        setPolicy_eq nonzero, setPolicy_eq nonzero, if_neg first, if_neg second,
        save_withFirewall_save, save_withFirewall_save, Firewall.setPolicy_comm _ apart]

theorem setPolicy_withBackground (s : PolicyStore) (u v : Uid) (p : PolicyBits) (background : Bool) :
    (PolicyStore.setPolicy { s with firewall := (s.firewall.setBackground v background).2 } u p).2 =
      { (s.setPolicy u p).2 with
        firewall := ((s.setPolicy u p).2.firewall.setBackground v background).2 } := by
  obtain ⟨f, keeps, file⟩ := s
  have alike : ((f.setBackground v background).2.setPolicy u p).1 = (f.setPolicy u p).1 := rfl
  simp only [PolicyStore.setPolicy, alike]
  cases (f.setPolicy u p).1 with
  | false => rfl
  | true =>
    cases keeps with
    | false => rfl
    | true => cases file <;> rfl

theorem after_comm (nonzero : ∀ u, s.firewall.policies.find? u ≠ some 0) {c d : Command} {u v : Uid}
    (first : c.policed? = some u) (second : d.policed? = some v) (apart : u ≠ v) :
    (s.after c).after d = (s.after d).after c := by
  cases c with
  | setUidPolicy _ _ p =>
    cases first
    cases d with
    | setUidPolicy _ _ q =>
      cases second
      exact setPolicy_comm nonzero apart p q
    | setUidBackground _ _ background =>
      cases second
      exact (s.setPolicy_withBackground u v p background).symm
    | _ => cases second
  | setUidBackground _ _ background =>
    cases first
    cases d with
    | setUidPolicy _ _ q =>
      cases second
      exact s.setPolicy_withBackground v u q background
    | setUidBackground _ _ other =>
      cases second
      exact congrArg (fun firewall => { s with firewall })
        (s.firewall.setBackground_comm apart background other)
    | _ => cases second
  | _ => cases first

end PolicyStore

namespace Table
variable {α β γ : Type}

theorem values_mapValues (f : α → β) (t : Table α) :
    (t.mapValues (fun _ v => f v)).values = t.values.map f := by
  simp [values, mapValues]

theorem mapValues_mapValues (f : UInt32 → α → β) (g : UInt32 → β → γ) (t : Table α) :
    (t.mapValues f).mapValues g = t.mapValues (fun k v => g k (f k v)) := by
  simp [mapValues]

end Table

namespace Hub

theorem send_comm (h : Hub) {k l : ListenerId} (apart : k ≠ l) (m n : Notification) :
    (h.send k m).send l n = (h.send l n).send k m := by
  have still (j i : ListenerId) (x : Notification) : (h.send i x).contains j = h.contains j := by
    unfold contains
    rw [send_listeners]
  rw [send, send.eq_def (h.send l n), still, still]
  unfold send
  by_cases first : h.contains k = true
  · by_cases second : h.contains l = true
    · simp only [if_pos first, if_pos second]
      rw [Table.modify_modify_comm (fun same => absurd same apart)]
    · simp only [if_pos first, if_neg second]
  · simp only [if_neg first]

theorem send_sendAll (h : Hub) {sent : List (ListenerId × Notification)} {l : ListenerId}
    (apart : ∀ s ∈ sent, s.1 ≠ l) (n : Notification) :
    (h.send l n).sendAll sent = (h.sendAll sent).send l n := by
  unfold sendAll
  induction sent generalizing h with
  | nil => rfl
  | cons s rest ih =>
    rw [List.foldl_cons, List.foldl_cons, h.send_comm (apart s List.mem_cons_self).symm]
    exact ih _ (fun t listed => apart t (List.mem_cons_of_mem s listed))

/-- What is sent to different listeners may be sent in any order. -/
theorem sendAll_comm (h : Hub) {first last : List (ListenerId × Notification)}
    (apart : ∀ s ∈ first, ∀ t ∈ last, s.1 ≠ t.1) :
    (h.sendAll first).sendAll last = (h.sendAll last).sendAll first := by
  induction first generalizing h with
  | nil => rfl
  | cons s rest ih =>
    have others := ih (h.send s.1 s.2) (fun t listed => apart t (List.mem_cons_of_mem s listed))
    have moved := h.send_sendAll (fun t listed => (apart s List.mem_cons_self t listed).symm) s.2
    exact others.trans (congrArg (·.sendAll rest) moved)

end Hub

namespace Broker
variable {b : Broker}

theorem Carried.store {c : Command} {a : Answer} {t : Turn} (carried : b.Carried c a t) :
    t.broker.store = b.store.after c := by
  have announced {u : Turn} {who : ActiveRequest → Bool} :
      (u.announce who).reelect.broker.store = u.broker.store :=
    ((u.announce_kept who).trans (Turn.reelect_kept _)).store
  cases carried with
  | known | joined | deactivated | looked | counted => rfl
  | registered | informed | activated => exact (Turn.reevaluate_kept _ _).store
  | unregistered _ _ _ _ cleared =>
    rw [(Turn.reevaluate_kept _ _).store, Turn.broker_of_called _ cleared]
    rfl
  | equipped => exact ((Turn.reevaluate_kept _ _).trans (Turn.equip_kept _ _ _ _ _)).store
  | linked => exact ((Turn.reevaluate_kept _ _).trans (Turn.tell_kept _ _ _ _)).store
  | left there =>
    obtain ⟨owner, known⟩ := Hub.find?_of_contains there
    rw [dropListener_eq known]
    rfl
  | policed _ done =>
    rw [← done, setUidPolicy]
    dsimp only
    split
    · exact announced
    · rfl
  | restricted _ done =>
    rw [← done, setBackgroundPolicy]
    dsimp only
    split
    · exact announced
    · rfl
  | grounded _ done =>
    rw [← done, setUidBackground]
    dsimp only
    split
    · exact announced
    · rfl

theorem Reachable.nonzero (reached : b.Reachable) (u : Uid) :
    b.firewall.policies.find? u ≠ some 0 := by
  induction reached generalizing u with
  | start settings keeps file => exact PolicyStore.load_nonzero (fun _ => by simp [Broker.new, Table.find?_empty]) u
  | @accept b earlier i ends ih =>
    rcases b.accept_cases i with same | ⟨c, a, -, carried, -⟩ | ⟨l, -, there, dropped⟩
    · rw [same]
      exact ih u
    · rw [firewall, carried.store, PolicyStore.after_firewall]
      cases c with
      | setUidPolicy _ uid policy => exact Firewall.setPolicy_nonzero ih uid policy u
      | _ => exact ih u
    · obtain ⟨owner, known⟩ := Hub.find?_of_contains there
      rw [dropped, dropListener_eq known]
      exact ih u
  | outlets _ _ ih => exact ih u

/-- A system uid says what the policy or the background state of `u` is. -/
inductive Polices (b : Broker) (u : Uid) : Command → Prop where
  | policy {caller : Uid} {policy : PolicyBits} (system : b.firewall.isSystem caller = true) :
      Polices b u (.setUidPolicy caller u policy)
  | background {caller : Uid} {background : Bool} (system : b.firewall.isSystem caller = true) :
      Polices b u (.setUidBackground caller u background)

theorem Polices.policed? {u : Uid} {c : Command} (polices : b.Polices u c) :
    c.policed? = some u := by
  cases polices <;> rfl

theorem Polices.reply {u : Uid} {c : Command} (polices : b.Polices u c) :
    (b.step c).reply = .ok .done := by
  cases polices with
  | policy system | background system =>
    simp only [step, perform, authorize_system system]
    rfl

theorem Polices.carried {u : Uid} {c : Command} (polices : b.Polices u c) :
    ∃ t, b.Carried c .done t ∧ b.step c = ⟨.ok .done, t.broker, t.deeds⟩ := by
  obtain ⟨t, carried, broker, deeds⟩ := carried_of_reply polices.reply
  exact ⟨t, carried, by rw [← polices.reply, ← broker, ← deeds]⟩

/-- Who may say it is not a matter of what was said before. -/
theorem Polices.after {u v : Uid} {c d : Command} (polices : b.Polices u c) (other : b.Polices v d) :
    (b.step d).broker.Polices u c := by
  obtain ⟨t, carried, stepped⟩ := other.carried
  have same (caller : Uid) :
      (b.step d).broker.firewall.isSystem caller = b.firewall.isSystem caller := by
    unfold Firewall.isSystem
    rw [stepped, firewall, carried.store, PolicyStore.after_firewall, Firewall.after_system]
    rfl
  cases polices with
  | policy system => exact .policy ((same _).trans system)
  | background system => exact .background ((same _).trans system)

theorem Reachable.polices (reached : b.Reachable) {u : Uid} {c : Command} (polices : b.Polices u c) :
    b.step c = ⟨.ok .done, (b.repolice (b.store.after c)).broker,
      (b.repolice (b.store.after c)).deeds⟩ := by
  obtain ⟨t, carried, stepped⟩ := polices.carried
  have policy : c.isPolicy = true := by cases polices <;> rfl
  have turn := (carried.repoliced policy).1.eq_repolice reached.informed reached.matched
  rw [carried.store] at turn
  rw [stepped, ← turn]

theorem repolice_deeds (b : Broker) (store : PolicyStore) : (b.repolice store).deeds =
    { sent := b.matcher.requests.values.flatMap (fun r =>
        r.notices (announcement r.kind r.announced ({ b with store }.visible r))) } := rfl

/-- What others may see stays as it is. -/
theorem visible_after (b : Broker) (s : PolicyStore) {c : Command} {u : Uid}
    (named : c.policed? = some u) {r : ActiveRequest} (foreign : b.hub.uid? r.listener ≠ some u) :
    { b with store := s.after c }.visible r = { b with store := s }.visible r := by
  refine visible_congr (fun _ _ => canSee_congr rfl rfl (fun v owner metered => ?_))
  have elsewhere := Firewall.after_elsewhere (f := s.firewall) (c := c) (v := v) (fun w same here => by
    cases named.symm.trans same
    exact foreign (here ▸ owner))
  refine Firewall.admits_congr ?_ ?_ ?_ ?_ metered
  · exact (congrArg Firewall.system (s.after_firewall c)).trans (s.firewall.after_system c)
  · exact (congrArg (·.policy v) (s.after_firewall c)).trans elsewhere.1
  · exact (congrArg (·.isBackground v) (s.after_firewall c)).trans elsewhere.2
  · exact (congrArg Firewall.restricted (s.after_firewall c)).trans
      (Firewall.after_restricted_of_named named)

theorem visible_repolice (b : Broker) (store next : PolicyStore) (r : ActiveRequest)
    (a : Option SupplierId) :
    { (b.repolice store).broker with store := next }.visible { r with announced := a } =
      { b with store := next }.visible r := by
  have kept := { b with store }.begin.announce_kept (fun _ => true)
  refine visible_congr (b := { b with store := next }) (r := r) (fun _ _ => canSee_congr rfl ?_ ?_)
  · exact congrArg (fun ls => (Table.find? ls r.listener).map Listener.uid) kept.listeners
  · exact fun _ _ _ => rfl

theorem repolice_broker (b : Broker) (store : PolicyStore) :
    (b.repolice store).broker =
      { registry := b.registry
        store
        matcher := { b.matcher with requests := (b.repolice store).broker.matcher.requests }
        hub := b.hub.sendAll (b.repolice store).deeds.sent
        published := b.published } := by
  rw [← (b.retold_repolice store).hub]
  rfl

theorem requests_repolice (b : Broker) (store : PolicyStore) :
    (b.repolice store).broker.matcher.requests =
      b.matcher.requests.mapValues (fun _ r => { r with announced := { b with store }.visible r }) :=
  rfl

theorem requests_repolice_repolice (b : Broker) (store next : PolicyStore) :
    ((b.repolice store).broker.repolice next).broker.matcher.requests =
      (b.repolice next).broker.matcher.requests := by
  simp only [requests_repolice, Table.mapValues_mapValues, visible_repolice]

theorem repolice_repolice (b : Broker) (store next : PolicyStore) :
    ((b.repolice store).broker.repolice next).broker =
      { (b.repolice next).broker with
        hub := (b.hub.sendAll (b.repolice store).deeds.sent).sendAll
          ((b.repolice store).broker.repolice next).deeds.sent } := by
  rw [repolice_broker (b.repolice store).broker, repolice_broker b next, requests_repolice_repolice,
    (b.retold_repolice store).hub]
  rfl

section Apart
variable {c d : Command} {u v : Uid}

/-- What is said of `v` is told as if nothing had been said of `u` before. -/
theorem repolice_deeds_after (informed : b.Informed) (first : c.policed? = some u)
    (second : d.policed? = some v) (apart : u ≠ v)
    (comm : (b.store.after c).after d = (b.store.after d).after c) :
    ((b.repolice (b.store.after c)).broker.repolice ((b.store.after c).after d)).deeds =
      (b.repolice (b.store.after d)).deeds := by
  rw [repolice_deeds, repolice_deeds, requests_repolice, Table.values_mapValues, List.flatMap_map]
  refine congrArg (Deeds.mk · [] []) (List.flatMap_congr (fun r listed => ?_))
  obtain ⟨q, found⟩ := Table.mem_values_iff.1 listed
  have current : r.announced = { b with store := b.store }.visible r := informed q r found
  simp only [visible_repolice]
  by_cases own : b.hub.uid? r.listener = some u
  · -- What its listener sees is settled by what was said of `u`.
    have foreign : b.hub.uid? r.listener ≠ some v := fun other =>
      apart (Option.some.inj (own.symm.trans other))
    rw [b.visible_after _ second foreign, b.visible_after _ second foreign, ← current,
      announcement_self, announcement_self]
    rfl
  · rw [comm, b.visible_after _ first own, b.visible_after _ first own, ← current]

theorem Reachable.polices_polices (reached : b.Reachable) (first : b.Polices u c)
    (second : b.Polices v d) (apart : u ≠ v) :
    (b.step c).broker.step d = ⟨.ok .done,
      { (b.repolice ((b.store.after c).after d)).broker with
        hub := (b.hub.sendAll (b.step c).deeds.sent).sendAll (b.step d).deeds.sent },
      (b.step d).deeds⟩ := by
  have between : (b.step c).broker.Reachable :=
    reached.accept (.command c) (by cases first <;> exact trivial)
  have deeds := repolice_deeds_after reached.informed first.policed? second.policed? apart
    (PolicyStore.after_comm reached.nonzero first.policed? second.policed? apart)
  have last := between.polices (second.after first)
  rw [reached.polices first] at last ⊢
  rw [reached.polices second, ← deeds, ← repolice_repolice]
  exact last

theorem Reachable.mem_polices_sent (reached : b.Reachable) (polices : b.Polices u c)
    {s : ListenerId × Notification} (sent : s ∈ (b.step c).deeds.sent) :
    b.hub.uid? s.1 = some u := by
  rw [reached.polices polices] at sent
  exact (confined_repolice reached.orderly reached.informed (b.store.after_firewall c)
    polices.policed?).sent s.1 s.2 sent

/-- Policies of different uids may be set, and their background states told, in either order: both are
done, the broker comes to the same, file and outlets included, and everyone is sent the same in the
same order. Neither does more or less for the other. -/
theorem Reachable.policies_commute (reached : b.Reachable) (first : b.Polices u c)
    (second : b.Polices v d) (apart : u ≠ v) :
    let cd := (b.step c).broker.step d
    let dc := (b.step d).broker.step c
    ((b.step c).reply = .ok .done ∧ cd.reply = .ok .done ∧ (b.step d).reply = .ok .done ∧
      dc.reply = .ok .done) ∧
    cd.broker = dc.broker ∧
    (∀ l, (b.step c).deeds.sentTo l ++ cd.deeds.sentTo l =
      (b.step d).deeds.sentTo l ++ dc.deeds.sentTo l) ∧
    cd.deeds = (b.step d).deeds ∧ dc.deeds = (b.step c).deeds := by
  have comm := PolicyStore.after_comm reached.nonzero first.policed? second.policed? apart
  have foreign : ∀ s ∈ (b.step c).deeds.sent, ∀ t ∈ (b.step d).deeds.sent, s.1 ≠ t.1 := by
    intro s mine t theirs same
    have owner := reached.mem_polices_sent first mine
    rw [same, reached.mem_polices_sent second theirs] at owner
    exact apart (Option.some.inj owner).symm
  rw [reached.polices_polices first second apart, reached.polices_polices second first apart.symm]
  refine ⟨⟨first.reply, rfl, second.reply, rfl⟩, ?_, fun l => ?_, rfl, rfl⟩
  · dsimp only
    rw [comm, b.hub.sendAll_comm foreign]
  · -- One of the two sends nothing to `l`.
    dsimp only
    by_cases own : b.hub.uid? l = some u
    · have nothing : (b.step d).deeds.sentTo l = [] := by
        refine Deeds.sentTo_eq_nil (fun t listed here => ?_)
        have owner := reached.mem_polices_sent second listed
        rw [here, own] at owner
        exact apart (Option.some.inj owner)
      rw [nothing, List.nil_append, List.append_nil]
    · have nothing : (b.step c).deeds.sentTo l = [] :=
        Deeds.sentTo_eq_nil (fun s listed here => own (here ▸ reached.mem_polices_sent first listed))
      rw [nothing, List.nil_append, List.append_nil]

def twoOwners : Broker := (Broker.new {} true .absent).start.after [
  .command (.registerSupplier 0 .wifi "lan" ⟨0⟩),
  .command (.registerListener 10 (.newChannel 4)),
  .command (.registerListener 11 (.newChannel 4)),
  .command (.activate .request {} 1),
  .command (.activate .listen {} 2),
  .command (.updateInfo 0 1 { isAvailable := true, signalStrength := 60 })]

theorem twoOwners_reachable : twoOwners.Reachable :=
  Reachable.after (.start {} true .absent) (by decide)

theorem policies_commute_twoOwners :
    twoOwners.Reachable ∧
      twoOwners.Polices 10 (.setUidPolicy 0 10 64) ∧
      twoOwners.Polices 11 (.setUidPolicy 0 11 16) ∧
      ((twoOwners.step (.setUidPolicy 0 10 64)).broker.step (.setUidPolicy 0 11 16)).broker =
        ((twoOwners.step (.setUidPolicy 0 11 16)).broker.step (.setUidPolicy 0 10 64)).broker ∧
      (twoOwners.step (.setUidPolicy 0 10 64)).deeds.sent = [(1, ⟨1, .lost 1⟩)] ∧
      (twoOwners.step (.setUidPolicy 0 11 16)).deeds.sent = [(2, ⟨2, .lost 1⟩)] := by
  have first : twoOwners.Polices 10 (.setUidPolicy 0 10 64) := .policy (by decide)
  have second : twoOwners.Polices 11 (.setUidPolicy 0 11 16) := .policy (by decide)
  obtain ⟨-, same, -⟩ := Reachable.policies_commute twoOwners_reachable first second (by decide)
  exact ⟨twoOwners_reachable, first, second, same, by decide, by decide⟩

end Apart

end Broker

end Connectivity
