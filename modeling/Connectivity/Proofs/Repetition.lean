import Connectivity.Proofs.Convergence
import Connectivity.Proofs.Notification
/-! What is said twice. A command that says how something is leaves the broker where the same command
has nothing more to do: the registry and the policies hold what was said, no binding moves, and
everyone has been told. -/
namespace Connectivity

namespace Registry
variable {r s : Registry} {id : SupplierId}

theorem insert_found {e : SupplierEntry} (found : r.find? id = some e) :
    r.suppliers.insert id e = r.suppliers := by
  refine Table.ext_find? (fun k => ?_)
  rw [Table.find?_insert]
  split
  · rename_i here
    rw [here]
    exact found.symm
  · rfl

theorem updateInfo_again {info : SupplierInfo} {change : InfoChange}
    (done : r.updateInfo id info = .ok (change, s)) :
    ∃ same, s.updateInfo id info = .ok (same, s) := by
  obtain ⟨e, seq, revised⟩ := updateInfo_eq_ok done
  have found : s.find? id = some { e with info, availableSeq := seq } := by
    rw [find?_of_insert revised.suppliers, if_pos rfl]
  -- It is as available as it was, so that no moment is counted.
  have steady : (info.isAvailable && !info.isAvailable) = false := by simp
  refine ⟨⟨info.isAvailable, info.isAvailable⟩, ?_⟩
  simp only [updateInfo, entry_eq_ok_iff.2 found, ok_bind, steady, Bool.false_eq_true, if_false,
    ok_pure, insert_found found]

theorem updateCapabilities_again {capabilities previous : Capabilities}
    (done : r.updateCapabilities id capabilities = .ok (previous, s)) :
    s.updateCapabilities id capabilities = .ok (capabilities, s) := by
  obtain ⟨e, revised, -⟩ := updateCapabilities_eq_ok done
  have found : s.find? id = some { e with descriptor := { e.descriptor with capabilities } } := by
    rw [find?_of_insert revised.suppliers, if_pos rfl]
  simp only [updateCapabilities, entry_eq_ok_iff.2 found, ok_bind, ok_pure, insert_found found]
  rfl

theorem updateLink_again {link : LinkInfo} (done : r.updateLink id link = .ok s) :
    s.updateLink id link = .ok s := by
  obtain ⟨e, revised⟩ := updateLink_eq_ok done
  have found : s.find? id = some { e with link := some link } := by
    rw [find?_of_insert revised.suppliers, if_pos rfl]
  simp only [updateLink, entry_eq_ok_iff.2 found, ok_bind, ok_pure, insert_found found]

end Registry

namespace Firewall

theorem setPolicy_again (f : Firewall) (uid : Uid) (policy : PolicyBits) :
    (f.setPolicy uid policy).2.setPolicy uid policy = (false, (f.setPolicy uid policy).2) := by
  have known : (f.setPolicy uid policy).2.policy uid = policy := by
    rw [policy_setPolicy, if_pos rfl]
  have table : (if policy = 0 then (f.setPolicy uid policy).2.policies.erase uid
      else (f.setPolicy uid policy).2.policies.insert uid policy) =
        (f.setPolicy uid policy).2.policies := by
    refine Table.ext_find? (fun u => ?_)
    simp only [setPolicy]
    split
    · rw [Table.find?_erase, Table.find?_erase]
      split <;> rfl
    · rw [Table.find?_insert, Table.find?_insert]
      split <;> rfl
  conv_lhs => rw [setPolicy, known, table]
  simp

theorem setRestricted_again (f : Firewall) (restricted : Bool) :
    (f.setRestricted restricted).2.setRestricted restricted =
      (false, (f.setRestricted restricted).2) := by
  simp [setRestricted]

theorem setBackground_again (f : Firewall) (uid : Uid) (background : Bool) :
    (f.setBackground uid background).2.setBackground uid background =
      (false, (f.setBackground uid background).2) := by
  have known := (f.isBackground_setBackground uid background uid).trans (if_pos rfl)
  have set : (if background then (f.setBackground uid background).2.background.insert uid
      else (f.setBackground uid background).2.background.erase uid) =
        (f.setBackground uid background).2.background := by
    refine Table.ext_find? (fun u => ?_)
    cases background with
    | true =>
      simp only [setBackground, if_true, IdSet.insert, Table.find?_insert]
      split <;> rfl
    | false =>
      simp only [setBackground, Bool.false_eq_true, if_false, Table.find?_erase]
      split <;> rfl
  conv_lhs => rw [setBackground, known, set]
  simp

end Firewall

/-- Nothing but the outlets changes where notifications are sent. -/
theorem Hub.sendAll_withOutlets (h : Hub) (sent : List (ListenerId × Notification)) :
    h.sendAll sent = { h with outlets := (h.sendAll sent).outlets } := by
  unfold sendAll
  induction sent generalizing h with
  | nil => rfl
  | cons s rest ih =>
    rw [List.foldl_cons, ih]
    unfold send
    split <;> rfl

/-- The supplier's link, to everyone who was told of the supplier. -/
def Matcher.linkNews (m : Matcher) (id : SupplierId) (link : LinkInfo) :
    List (ListenerId × Notification) :=
  (m.requests.values.filter (·.announced == some id)).map
    (fun r => (r.listener, ⟨r.id, .linkChanged link⟩))

namespace Turn

theorem tell_informed {t : Turn} (informed : t.broker.Informed) (id : SupplierId) (link : LinkInfo) :
    t.tell id (.linkChanged link) (fun _ => true) = t.send (t.broker.matcher.linkNews id link) := by
  -- Whoever was told of the supplier may see it.
  have heard : ∀ r ∈ t.broker.matcher.requests.values,
      (Bool.true && r.announced == some id && t.broker.canSee r.listener id) =
        (r.announced == some id) := by
    intro r listed
    obtain ⟨q, found⟩ := Table.mem_values_iff.1 listed
    rw [Bool.true_and]
    cases told : r.announced == some id with
    | false => rfl
    | true =>
      have visible := (informed q r found).symm.trans (eq_of_beq told)
      rw [Broker.visible, Option.filter_eq_some_iff] at visible
      simpa using visible.2
  rw [tell, Matcher.linkNews, ← List.filter_congr heard]

theorem announce_nobody (t : Turn) : t.announce (fun _ => false) = t := by
  have untold : t.broker.matcher.requests.mapValues (fun _ r => { r with announced := r.announced }) =
      t.broker.matcher.requests := Table.mapValues_eq_self (fun _ _ _ => rfl)
  simp only [announce, Bool.false_eq_true, if_false, announcement_self, untold, send,
    List.map_nil, List.flatMap_eq_nil_iff.2 (fun _ _ => rfl), List.append_nil]
  rfl

end Turn

namespace Broker
variable {b : Broker}

/-- Where everyone is served as they may be, looking again does nothing and says nothing. -/
theorem Matched.reevaluate_eq (matched : b.Matched) (keyed : b.registry.Keyed) {t : Turn}
    (matcher : t.broker.matcher = b.matcher)
    (candidates : t.broker.registry.candidates = b.registry.candidates) (scope : Scope) :
    t.reevaluate scope = t := by
  have pass : t.broker.matcher.reevaluate t.broker.registry scope = ⟨t.broker.matcher, [], none⟩ := by
    rw [matcher]
    refine Matcher.reevaluate_of_still (by rw [candidates, matched.elected]) (fun q r found => ?_)
    have settled := (matched.settled q r found).nextBinding keyed scope
    rw [matched.elected] at settled
    rw [ActiveRequest.revisited, candidates, settled]
  rw [Turn.reevaluate, pass]
  exact t.announce_nobody

/-- The same broker, with another file in place. -/
def withFile (b : Broker) (file : PolicyFile) : Broker := { b with store := { b.store with file } }

/-- What a command that succeeded has left. -/
theorem carried_of_reply {c : Command} {a : Answer} (done : (b.step c).reply = .ok a) :
    ∃ t, b.Carried c a t ∧ (b.step c).broker = t.broker ∧ (b.step c).deeds = t.deeds := by
  rcases b.step_cases c with ⟨e, refused⟩ | ⟨answer, t, carried, same⟩
  · rw [refused] at done
    cases done
  · rw [same] at done ⊢
    cases done
    exact ⟨t, carried, rfl, rfl⟩

theorem authorize_system {caller : Uid} (system : b.firewall.isSystem caller = true) :
    b.authorize caller = .ok () := if_pos system

/-! Each command, where what it says is so. -/

section Said
variable {caller : Uid} {id : SupplierId} (system : b.firewall.isSystem caller = true)
include system

theorem step_said_info {info : SupplierInfo} {change : InfoChange} (matched : b.Matched)
    (keyed : b.registry.Keyed)
    (said : b.registry.updateInfo id info = .ok (change, b.registry)) :
    b.step (.updateInfo caller id info) = ⟨.ok .done, b, {}⟩ := by
  obtain ⟨e, _, revised⟩ := Registry.updateInfo_eq_ok said
  have rests := matched.reevaluate_eq keyed (t := b.begin) rfl rfl (.supplier id e.netType)
  simp only [step, perform, authorize_system system, updateInfo,
    Registry.entry_eq_ok_iff.2 revised.found, said, ok_bind, ok_pure]
  change (⟨.ok .done, (b.begin.reevaluate _).broker, (b.begin.reevaluate _).deeds⟩ : Outcome) = _
  rw [rests]
  rfl

theorem step_said_capabilities {capabilities : Capabilities} (matched : b.Matched)
    (keyed : b.registry.Keyed)
    (said : b.registry.updateCapabilities id capabilities = .ok (capabilities, b.registry)) :
    b.step (.updateCapabilities caller id capabilities) = ⟨.ok .done, b, {}⟩ := by
  obtain ⟨e, revised, _⟩ := Registry.updateCapabilities_eq_ok said
  have rests := matched.reevaluate_eq keyed (t := b.begin) rfl rfl (.supplier id e.netType)
  simp only [step, perform, authorize_system system, updateCapabilities,
    Registry.entry_eq_ok_iff.2 revised.found, said, ok_bind, ok_pure, beq_self_eq_true, if_true]
  change (⟨.ok .done, (b.begin.reevaluate _).broker, (b.begin.reevaluate _).deeds⟩ : Outcome) = _
  rw [rests]
  rfl

theorem step_said_link {link : LinkInfo} (matched : b.Matched) (keyed : b.registry.Keyed)
    (informed : b.Informed) (said : b.registry.updateLink id link = .ok b.registry) :
    b.step (.updateLink caller id link) = ⟨.ok .done,
      { b with hub := b.hub.sendAll (b.matcher.linkNews id link) },
      { sent := b.matcher.linkNews id link, calls := [.apply id link] }⟩ := by
  obtain ⟨e, revised⟩ := Registry.updateLink_eq_ok said
  have rests := matched.reevaluate_eq keyed (t := b.begin.callDevice (.apply id link)) rfl rfl
    (.supplier id e.netType)
  simp only [step, perform, authorize_system system, updateLink,
    Registry.entry_eq_ok_iff.2 revised.found, said, ok_bind, ok_pure]
  change (⟨.ok .done, (((b.begin.callDevice _).reevaluate _).tell id _ _).broker,
    (((b.begin.callDevice _).reevaluate _).tell id _ _).deeds⟩ : Outcome) = _
  rw [rests, Turn.tell_informed informed]
  rfl

theorem step_said_policy {uid : Uid} {policy : PolicyBits}
    (said : b.firewall.setPolicy uid policy = (false, b.firewall)) :
    b.step (.setUidPolicy caller uid policy) = ⟨.ok .done, b, {}⟩ := by
  have store : b.store.setPolicy uid policy = (false, b.store) := by
    rw [firewall] at said
    simp [PolicyStore.setPolicy, said]
  simp only [step, perform, authorize_system system, setUidPolicy, store, ok_bind, ok_pure,
    Bool.false_eq_true, if_false]
  rfl

theorem step_said_restricted {restricted : Bool}
    (said : b.firewall.setRestricted restricted = (false, b.firewall)) :
    b.step (.setBackgroundPolicy caller restricted) = ⟨.ok .done, b, {}⟩ := by
  simp only [step, perform, authorize_system system, setBackgroundPolicy, said, ok_bind, ok_pure,
    Bool.false_eq_true, if_false]
  rfl

theorem step_said_background {uid : Uid} {background : Bool}
    (said : b.firewall.setBackground uid background = (false, b.firewall)) :
    b.step (.setUidBackground caller uid background) = ⟨.ok .done, b, {}⟩ := by
  simp only [step, perform, authorize_system system, setUidBackground, said, ok_bind, ok_pure,
    Bool.false_eq_true, if_false]
  rfl

end Said

/-! What a command that succeeded has left is what it says. -/

theorem setUidPolicy_firewall (b : Broker) (uid : Uid) (policy : PolicyBits) :
    (b.setUidPolicy uid policy).2.broker.firewall = (b.firewall.setPolicy uid policy).2 := by
  unfold setUidPolicy firewall
  dsimp only
  rw [← b.store.setPolicy_firewall]
  split
  · rw [Turn.refresh, (Turn.reelect_kept _).store, (Turn.announce_kept _ _).store]
    rfl
  · rfl

theorem setBackgroundPolicy_firewall (b : Broker) (restricted : Bool) :
    (b.setBackgroundPolicy restricted).2.broker.firewall =
      (b.firewall.setRestricted restricted).2 := by
  unfold setBackgroundPolicy firewall
  dsimp only
  split
  · rw [(Turn.reelect_kept _).store, (Turn.announce_kept _ _).store]
    rfl
  · rfl

theorem setUidBackground_firewall (b : Broker) (uid : Uid) (background : Bool) :
    (b.setUidBackground uid background).2.broker.firewall =
      (b.firewall.setBackground uid background).2 := by
  unfold setUidBackground firewall
  dsimp only
  split
  · rw [Turn.refresh, (Turn.reelect_kept _).store, (Turn.announce_kept _ _).store]
    rfl
  · rfl

end Broker

/-- The commands that only say how something is. -/
def Command.states : Command → Bool
  | .updateInfo .. | .updateCapabilities .. | .setUidPolicy .. | .setBackgroundPolicy ..
  | .setUidBackground .. => true
  | _ => false

namespace Broker
variable {b : Broker}

/-- The command is dealt with in the end, in whatever state. -/
theorem reachable_of_states {c : Command} (reached : b.Reachable) (states : c.states = true) :
    (b.step c).broker.Reachable := by
  refine reached.accept (.command c) ?_
  cases c <;> first | exact trivial | cases states

theorem Matched.withFile (matched : b.Matched) (file : PolicyFile) : (b.withFile file).Matched :=
  ⟨matched.elected, matched.settled⟩

theorem step_states_again {c : Command} {a : Answer} (reached : b.Reachable)
    (reply : (b.step c).reply = .ok a) (states : c.states = true) (file : PolicyFile) :
    ((b.step c).broker.withFile file).step c = ⟨.ok a, (b.step c).broker.withFile file, {}⟩ := by
  have after := reachable_of_states reached states
  obtain ⟨t, carried, broker, -⟩ := carried_of_reply reply
  rw [broker] at after ⊢
  have matched := after.matched.withFile file
  have keyed := after.orderly.suppliers
  cases carried with
  | @informed _ id info e seq change registry system done revised =>
    have kept := Turn.reevaluate_kept { b with registry }.begin (.supplier id e.netType)
    obtain ⟨same, said⟩ := Registry.updateInfo_again done
    refine step_said_info ?_ matched keyed (?_ : _ = Except.ok (same, _))
    · rwa [firewall, withFile, kept.store]
    · rwa [withFile, kept.registry]
  | @equipped _ id capabilities e registry system done revised =>
    have kept := (Turn.reevaluate_kept { b with registry }.begin (.supplier id e.netType)).trans
      (Turn.equip_kept _ id e.capabilities capabilities (b.matcher.announcedOn id))
    refine step_said_capabilities ?_ matched keyed ?_
    · rwa [firewall, withFile, kept.store]
    · rw [withFile, kept.registry]
      exact Registry.updateCapabilities_again done
  | @policed _ uid policy t system done changed =>
    subst done
    have given : ((b.setUidPolicy uid policy).2.broker.withFile file).firewall =
        (b.firewall.setPolicy uid policy).2 := b.setUidPolicy_firewall uid policy
    refine step_said_policy (by rw [given]; exact system) ?_
    rw [given]
    exact b.firewall.setPolicy_again uid policy
  | @restricted _ restricted t system done changed =>
    subst done
    have given : ((b.setBackgroundPolicy restricted).2.broker.withFile file).firewall =
        (b.firewall.setRestricted restricted).2 := b.setBackgroundPolicy_firewall restricted
    refine step_said_restricted (by rw [given]; exact system) ?_
    rw [given]
    exact b.firewall.setRestricted_again restricted
  | @grounded _ uid background t system done changed =>
    subst done
    have given : ((b.setUidBackground uid background).2.broker.withFile file).firewall =
        (b.firewall.setBackground uid background).2 := b.setUidBackground_firewall uid background
    refine step_said_background (by rw [given]; exact system) ?_
    rw [given]
    exact b.firewall.setBackground_again uid background
  | _ => cases states

theorem step_link_again {caller : Uid} {id : SupplierId} {link : LinkInfo} {a : Answer}
    (reached : b.Reachable) (reply : (b.step (.updateLink caller id link)).reply = .ok a)
    (file : PolicyFile) :
    let before := (b.step (.updateLink caller id link)).broker.withFile file
    let news := before.matcher.linkNews id link
    before.step (.updateLink caller id link) = ⟨.ok a,
        { before with hub := before.hub.sendAll news }, { sent := news, calls := [.apply id link] }⟩ ∧
      (b.step (.updateLink caller id link)).deeds = { sent := news, calls := [.apply id link] } := by
  have after : (b.step (.updateLink caller id link)).broker.Reachable :=
    reached.accept (.command (.updateLink caller id link)) trivial
  obtain ⟨t, carried, broker, deeds⟩ := carried_of_reply reply
  cases carried with
  | @linked _ _ _ e registry system done revised =>
    have rests := reached.matched.reevaluate_eq reached.orderly.suppliers
      (t := { b with registry }.begin.callDevice (.apply id link)) rfl
      (revised.candidates rfl rfl rfl) (.supplier id e.netType)
    rw [rests] at broker deeds
    have informed := after.informed
    rw [broker, informed_tell_iff] at informed
    rw [Turn.tell_informed informed] at broker deeds
    -- The first time round the requests were told the same, and stay as they were.
    have matcher : (b.step (.updateLink caller id link)).broker.matcher = b.matcher := by
      rw [broker]
      rfl
    refine ⟨?_, ?_⟩
    · refine step_said_link ?_ (after.matched.withFile file) after.orderly.suppliers
        after.informed ?_
      · rw [firewall, withFile, broker]
        exact system
      · rw [withFile, broker]
        exact Registry.updateLink_again done
    · rw [withFile, matcher, deeds]
      rfl

/-- To say again how something is, right after it was said, is to say nothing: the reply is the same,
and broker and file stay as they are, whatever the file holds by then. The device is told of a link
again, and so is everyone who was told of the supplier; but that is all that is sent, it is what was
sent the first time, and no state but that of the outlets changes. -/
theorem repetition_law {c : Command} {a : Answer} (reached : b.Reachable)
    (reply : (b.step c).reply = .ok a) (file : PolicyFile) :
    let before := (b.step c).broker.withFile file
    (c.states = true → before.step c = ⟨.ok a, before, {}⟩) ∧
    ∀ caller id link, c = .updateLink caller id link →
      (before.step c).reply = .ok a ∧
      (∃ outlets, (before.step c).broker = before.withOutlets outlets) ∧
      (before.step c).deeds =
        { sent := before.matcher.linkNews id link, calls := [.apply id link] } ∧
      (b.step c).deeds = (before.step c).deeds := by
  intro before
  refine ⟨fun states => step_states_again reached reply states file, ?_⟩
  rintro caller id link rfl
  obtain ⟨again, first⟩ := step_link_again reached reply file
  rw [again, first]
  let news := before.matcher.linkNews id link
  have outlets := before.hub.sendAll_withOutlets news
  exact ⟨rfl, ⟨(before.hub.sendAll news).outlets, congrArg (fun hub => { before with hub }) outlets⟩,
    rfl, rfl⟩

theorem repetition_law_firstNetwork :
    firstNetwork.Reachable ∧
      (firstNetwork.step (.setUidPolicy 0 10 64)).deeds.sent = [(1, ⟨1, .lost 1⟩)] ∧
      ((firstNetwork.step (.setUidPolicy 0 10 64)).broker.withFile .absent).step
          (.setUidPolicy 0 10 64) =
        ⟨.ok .done, (firstNetwork.step (.setUidPolicy 0 10 64)).broker.withFile .absent, {}⟩ ∧
      (((firstNetwork.step (.updateLink 0 1 { ifaceName := "wlan" })).broker.withFile .absent).step
        (.updateLink 0 1 { ifaceName := "wlan" })).deeds =
          { sent := [(1, ⟨1, .linkChanged { ifaceName := "wlan" }⟩)]
            calls := [.apply 1 { ifaceName := "wlan" }] } := by
  have policy := (repetition_law (c := .setUidPolicy 0 10 64) firstNetwork_reachable (by rfl)
    .absent).1 rfl
  obtain ⟨-, -, again, -⟩ := (repetition_law (c := .updateLink 0 1 { ifaceName := "wlan" })
    firstNetwork_reachable (by rfl) .absent).2 0 1 _ rfl
  refine ⟨firstNetwork_reachable, by decide, policy, again.trans ?_⟩
  decide

end Broker

end Connectivity
