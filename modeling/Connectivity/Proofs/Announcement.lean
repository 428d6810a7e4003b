import Connectivity.Proofs.Matching
/-! What listeners were told. After every command each of them knows exactly of the supplier that
serves its request and that it may see, though a command goes over some of the requests only: what a
listener may see of the others stays as it was. -/
namespace Connectivity

theorem Hub.uid?_of_modify {h g : Hub} {l : ListenerId} {f : Listener → Listener}
    (listeners : g.listeners = h.listeners.modify l f) (same : ∀ x, (f x).uid = x.uid)
    (k : ListenerId) : g.uid? k = h.uid? k := by
  unfold uid?
  rw [listeners, Table.find?_modify]
  split
  · cases h.listeners.find? k with
    | none => rfl
    | some x => exact congrArg some (same x)
  · rfl

namespace Broker

/-- What was told of every request is what its listener may see of its supplier. -/
def Informed (b : Broker) : Prop :=
  ∀ q r, b.matcher.find? q = some r → r.announced = b.visible r

theorem visible_congr {b c : Broker} {r : ActiveRequest}
    (same : ∀ s, r.bound = some s → c.canSee r.listener s = b.canSee r.listener s) :
    c.visible r = b.visible r := by
  unfold visible
  cases bound : r.bound with
  | none => rfl
  | some s => simp only [Option.filter_some, same s bound]

theorem Matched.registered {b : Broker} (matched : b.Matched) (keyed : b.registry.Keyed)
    {q : RequestId} {r : ActiveRequest} (found : b.matcher.find? q = some r) {s : SupplierId}
    (bound : r.bound = some s) : ∃ e, b.registry.find? s = some e := by
  have settled := matched.settled q r found
  by_cases track : r.kind = .trackDefault
  · rw [settled.follows track, matched.elected] at bound
    obtain ⟨e, there, _⟩ := Registry.serves_of_selectBest keyed bound
    exact ⟨e, there⟩
  · obtain ⟨e, there, _⟩ := settled.served track s bound
    exact ⟨e, there⟩

theorem rebind_announced {b : Broker} {scope : Scope} {r : ActiveRequest}
    (stays : (b.rebind scope r).bound = r.bound → r.announced = b.visible r) :
    (b.rebind scope r).announced = b.visible (b.rebind scope r) := by
  -- Only a binding that moves is announced, so one that stays must have been told already.
  by_cases same : (b.rebind scope r).bound = r.bound
  · have told := stays same
    simp only [rebind] at same ⊢
    rw [if_pos same, told]
    unfold visible
    rw [same]
  · simp only [rebind] at same ⊢
    rw [if_neg same]
    rfl

/-- Being bound anew leaves a request informed, if it was so as things stand or moves. -/
theorem announced_reevaluate {t : Turn} (keyed : t.broker.matcher.Keyed) {scope : Scope}
    {q : RequestId} {s : ActiveRequest}
    (found : (t.reevaluate scope).broker.matcher.find? q = some s)
    (stays : ∀ r, t.broker.matcher.find? q = some r → s.bound = r.bound →
      r.announced = t.broker.visible r) :
    s.announced = (t.reevaluate scope).broker.visible s := by
  rw [(t.reevaluate_kept scope).visible]
  rw [Turn.reevaluate_find? keyed, Option.map_eq_some_iff] at found
  obtain ⟨r, hr, rfl⟩ := found
  exact rebind_announced (stays r hr)

theorem informed_announce {t : Turn} {who : ActiveRequest → Bool}
    (others : ∀ q r, t.broker.matcher.find? q = some r → who r = false →
      r.announced = t.broker.visible r) : (t.announce who).broker.Informed := by
  intro q s found
  rw [(t.announce_kept who).visible]
  rw [Turn.announce_find?, Option.map_eq_some_iff] at found
  obtain ⟨r, hr, rfl⟩ := found
  change (if who r then t.broker.visible r else r.announced) = t.broker.visible r
  cases asked : who r with
  | true => rfl
  | false => exact others q r hr asked

theorem Informed.reelect {t : Turn} (informed : t.broker.Informed) : t.reelect.broker.Informed := by
  intro q r found
  rw [t.reelect_kept.visible]
  unfold Matcher.find? at found
  rw [Turn.reelect_requests] at found
  exact informed q r found

theorem informed_tell_iff {t : Turn} {s : SupplierId} {e : NetworkEvent}
    {who : ActiveRequest → Bool} : (t.tell s e who).broker.Informed ↔ t.broker.Informed := by
  unfold Informed
  simp only [(t.tell_kept s e who).visible]
  rfl

/-- The listeners on a supplier whose metering flips are gone over even where no binding moves. -/
theorem informed_equip {t : Turn} {s : SupplierId} {previous capabilities : Capabilities}
    {watching : List RequestId}
    (others : ∀ q r, t.broker.matcher.find? q = some r →
      (previous.isMetered = capabilities.isMetered ∨ r.bound ≠ some s) →
      r.announced = t.broker.visible r) :
    (t.equip s previous capabilities watching).broker.Informed := by
  have settled : (if previous.isMetered == capabilities.isMetered then t
      else t.announce (fun r => r.bound == some s)).broker.Informed := by
    split
    · rename_i same
      exact fun q r found => others q r found (.inl (eq_of_beq same))
    · exact informed_announce (fun q r found elsewhere =>
        others q r found (.inr (by simpa using elsewhere)))
  unfold Turn.equip
  dsimp only
  split
  · exact settled
  · exact informed_tell_iff.2 settled

theorem canSee_elsewhere {b : Broker} {registry : Registry} {id : SupplierId} {netType : NetType}
    (changed : b.registry.ChangedAt registry id netType) {s : SupplierId} (other : s ≠ id)
    (l : ListenerId) : { b with registry }.canSee l s = b.canSee l s := by
  refine canSee_congr ?_ rfl (fun _ _ _ => rfl)
  unfold Registry.capabilities?
  rw [changed.elsewhere s other]

/-- Who was informed stays so when one supplier changes, save perhaps those it serves. -/
theorem Informed.changedAt {b : Broker} (informed : b.Informed) {registry : Registry}
    {id : SupplierId} {netType : NetType} (changed : b.registry.ChangedAt registry id netType)
    {q : RequestId} {r : ActiveRequest} (found : b.matcher.find? q = some r)
    (there : r.bound = some id →
      { b with registry }.canSee r.listener id = b.canSee r.listener id) :
    r.announced = { b with registry }.visible r := by
  rw [informed q r found]
  refine (visible_congr (fun s bound => ?_)).symm
  by_cases here : s = id
  · subst here
    exact there bound
  · exact canSee_elsewhere changed here r.listener

theorem canSee_of_metering {b : Broker} {registry : Registry} {id : SupplierId}
    {e f : SupplierEntry} (revised : b.registry.Revised registry id e f)
    (metering : f.capabilities.isMetered = e.capabilities.isMetered) (l : ListenerId) :
    { b with registry }.canSee l id = b.canSee l id := by
  refine canSee_congr ?_ rfl (fun _ _ _ => rfl)
  unfold Registry.capabilities?
  rw [Registry.find?_of_insert revised.suppliers, if_pos rfl, revised.found]
  exact congrArg some metering

theorem Informed.congr {b c : Broker} (informed : b.Informed)
    (requests : ∀ q r, c.matcher.find? q = some r → b.matcher.find? q = some r)
    (sees : ∀ q r, c.matcher.find? q = some r →
      ∀ s, c.canSee r.listener s = b.canSee r.listener s) : c.Informed := by
  intro q r found
  rw [informed q r (requests q r found), visible_congr (fun s _ => sees q r found s)]

/-- A policy of one uid is of no matter to the listeners of any other. -/
theorem Informed.repoliced {b : Broker} (informed : b.Informed) {t : Turn}
    (changed : b.Repoliced t) : t.broker.Informed := by
  cases changed with
  | idle access =>
    exact informed.congr (fun _ _ found => found)
      (fun _ _ _ _ => canSee_congr rfl rfl (fun u _ metered => access u metered))
  | told access =>
    refine Informed.reelect (informed_announce (fun q r found foreign => ?_))
    rw [informed q r found]
    exact Eq.symm (visible_congr (fun s _ => canSee_congr rfl rfl (access r foreign)))

theorem canSee_of_same_owner {b : Broker} {hub : Hub} {k : ListenerId}
    (other : hub.listeners.find? k = b.hub.listeners.find? k) (s : SupplierId) :
    { b with hub }.canSee k s = b.canSee k s := by
  refine canSee_congr rfl ?_ (fun _ _ _ => rfl)
  unfold Hub.uid?
  rw [other]

theorem Informed.dropListener {b : Broker} (informed : b.Informed) (orderly : b.Orderly)
    {l : ListenerId} (there : b.hub.contains l = true) : (b.dropListener l).Informed := by
  obtain ⟨owner, hl⟩ := Hub.find?_of_contains there
  refine informed.congr (fun q r stays => ((orderly.find?_dropListener_iff there).1 stays).1)
    (fun q r stays s => ?_)
  have foreign := ((orderly.find?_dropListener_iff there).1 stays).2
  rw [dropListener_eq hl]
  refine canSee_congr rfl ?_ (fun _ _ _ => rfl)
  unfold Hub.uid?
  dsimp only
  rw [Table.find?_erase, if_neg foreign]

theorem Informed.activate {b : Broker} (informed : b.Informed) (orderly : b.Orderly)
    {kind : RequestKind} {specifier : Specifier} {l : ListenerId} {hub : Hub}
    (room : b.matcher.requests.HasRoom)
    (done : b.hub.attach l (b.matcher.activate kind specifier l).1 = .ok hub) :
    ((b.withRequest kind specifier l hub).begin.reevaluate
      (.request (b.matcher.activate kind specifier l).1)).broker.Informed := by
  intro q s found
  refine announced_reevaluate (orderly.activate room done).requests found (fun r hr _ => ?_)
  change (b.withRequest kind specifier l hub).matcher.find? q = some r at hr
  rw [find?_withRequest] at hr
  split at hr
  · cases hr
    rfl
  · rw [informed q r hr]
    refine Eq.symm (visible_congr (fun s _ => canSee_congr rfl ?_ (fun _ _ _ => rfl)))
    exact Hub.uid?_of_modify (Hub.attach_eq_ok done).2 (fun _ => rfl) r.listener

theorem Informed.deactivate {b : Broker} (informed : b.Informed) {id : RequestId}
    {l : ListenerId} : { b with
      matcher := { b.matcher with requests := b.matcher.requests.erase id }
      hub := b.hub.detach l id }.Informed := by
  refine informed.congr (fun q r stays => (Table.find?_erase_eq_some_iff.1 stays).2)
    (fun q r stays s => canSee_congr rfl ?_ (fun _ _ _ => rfl))
  unfold Hub.detach
  dsimp only
  split
  · exact Hub.uid?_of_modify (f := fun x => { x with requests := x.requests.erase id }) rfl
      (fun _ => rfl) r.listener
  · rfl

/-- What a supplier's change leaves to be told is told where bindings move. -/
theorem Informed.reevaluate {b : Broker} (informed : b.Informed) (orderly : b.Orderly) {t : Turn}
    {registry : Registry} {id : SupplierId} {netType : NetType}
    (changed : b.registry.ChangedAt registry id netType) (broker : t.broker = { b with registry })
    {q : RequestId} {s : ActiveRequest}
    (found : (t.reevaluate (.supplier id netType)).broker.matcher.find? q = some s)
    (there : ∀ r, b.matcher.find? q = some r → s.bound = r.bound → r.bound = some id →
      { b with registry }.canSee r.listener id = b.canSee r.listener id) :
    s.announced = (t.reevaluate (.supplier id netType)).broker.visible s := by
  have keyed : t.broker.matcher.Keyed := by rw [broker]; exact orderly.requests
  refine announced_reevaluate keyed found (fun r hr same => ?_)
  rw [broker] at hr ⊢
  exact informed.changedAt changed hr (there r hr same)

theorem Informed.carried {b : Broker} (informed : b.Informed) (orderly : b.Orderly)
    (matched : b.Matched) {c : Command} {a : Answer} {t : Turn} (carried : b.Carried c a t)
    (ends : b.Ends (.command c)) : t.broker.Informed := by
  have after := matched.carried orderly carried ends
  cases carried with
  | registered system unnamed done drawn put =>
    have fresh := (b.registry.ids.take_fresh (ends system unnamed)).2
    have changed := Registry.changedAt_of_register (drawn ▸ fresh) put
    intro q s found
    refine informed.reevaluate orderly changed rfl found (fun r hr _ bound => ?_)
    -- A supplier that is only now registered serves no request yet.
    obtain ⟨e, known⟩ := matched.registered orderly.suppliers hr bound
    exact absurd drawn (Table.ne_of_contains_eq_false fresh known)
  | @unregistered _ id e registry t system there done gone cleared =>
    have changed := Registry.changedAt_of_unregister there gone
    have keyed := Registry.keyed_of_erase orderly.suppliers gone
    have broker : t.broker = { b with registry } := t.broker_of_called cleared
    have kept := (t.reevaluate_kept (.supplier id e.netType)).registry
    rw [broker] at kept
    intro q s found
    refine informed.reevaluate orderly changed broker found (fun r hr same bound => ?_)
    -- Whatever the supplier served has moved, for it serves nothing once it is gone.
    obtain ⟨f, known⟩ := after.registered (kept ▸ keyed) found (same.trans bound)
    rw [kept, Registry.find?_of_erase gone, if_pos rfl] at known
    cases known
  | informed system done revised =>
    intro q s found
    exact informed.reevaluate orderly revised.changedAt rfl found
      (fun r _ _ _ => canSee_of_metering revised rfl r.listener)
  | equipped system done revised =>
    refine informed_equip (fun q s found settled => ?_)
    refine informed.reevaluate orderly revised.changedAt rfl found (fun r _ same bound => ?_)
    rcases settled with metering | elsewhere
    · exact canSee_of_metering revised metering.symm r.listener
    · exact absurd (same.trans bound) elsewhere
  | linked system done revised =>
    refine informed_tell_iff.2 (fun q s found => ?_)
    exact informed.reevaluate orderly revised.changedAt rfl found
      (fun r _ _ _ => canSee_of_metering revised rfl r.listener)
  | joined done =>
    obtain ⟨connected, -, put⟩ := Hub.register_eq_ok done
    have fresh := Hub.fresh_of_register (ends connected) done
    refine informed.congr (fun _ _ found => found) (fun q r found s => ?_)
    obtain ⟨owner, known, _⟩ := orderly.owned q r found
    apply canSee_of_same_owner
    rw [put, Table.find?_insert, if_neg (Table.ne_of_contains_eq_false fresh known)]
  | left there => exact informed.dropListener orderly there
  | activated sound done =>
    exact informed.activate orderly (ends sound (Hub.attach_eq_ok done).1) done
  | deactivated found allowed => exact informed.deactivate
  | policed system done changed | restricted system done changed | grounded system done changed =>
    exact informed.repoliced changed
  | known | looked | counted => exact informed

theorem informed_new (settings : BrokerSettings) (keeps : Bool) (file : PolicyFile) :
    (Broker.new settings keeps file).start.Informed := by
  intro q r found
  cases found

theorem Informed.accept {b : Broker} (informed : b.Informed) (orderly : b.Orderly)
    (matched : b.Matched) (i : Input) (ends : b.Ends i) : (b.accept i).broker.Informed := by
  rcases b.accept_cases i with same | ⟨c, a, rfl, carried, _⟩ | ⟨l, _, there, dropped⟩
  · rw [same]
    exact informed
  · exact informed.carried orderly matched carried ends
  · rw [dropped]
    exact informed.dropListener orderly there

theorem Reachable.informed {b : Broker} (reached : b.Reachable) : b.Informed := by
  induction reached with
  | start settings keeps file => exact informed_new settings keeps file
  | accept earlier i ends ih => exact ih.accept earlier.orderly earlier.matched i ends
  | outlets _ _ ih => exact ih.congr (fun _ _ found => found) (fun _ _ _ _ => rfl)

theorem Informed.announce_eq {b : Broker} (informed : b.Informed) (who : ActiveRequest → Bool) :
    b.begin.announce who = b.begin := by
  have known : ∀ q r, b.matcher.requests.find? q = some r →
      (if who r then b.visible r else r.announced) = r.announced := by
    intro q r found
    split
    · exact (informed q r found).symm
    · rfl
  have requests : b.matcher.requests.mapValues (fun _ r =>
      { r with announced := if who r then b.visible r else r.announced }) = b.matcher.requests :=
    Table.mapValues_eq_self (fun q r found => by rw [known q r found])
  have silent : b.matcher.requests.values.flatMap (fun r => (announcement r.kind r.announced
      (if who r then b.visible r else r.announced)).map (fun e =>
        (r.listener, (⟨r.id, e⟩ : Notification)))) = [] := by
    rw [List.flatMap_eq_nil_iff]
    intro r listed
    obtain ⟨q, found⟩ := Table.mem_values_iff.1 listed
    rw [known q r found, announcement_self, List.map_nil]
  simp only [Turn.announce, begin, requests, silent]
  rfl

/-- What was told is what is bound as far as it may be seen, so that announcing it again to anyone
would change nothing and send nothing. -/
theorem Reachable.announcements {b : Broker} (reached : b.Reachable) :
    (∀ q r, b.matcher.find? q = some r →
      (r.bound = none → r.announced = none) ∧
        ∀ s, r.bound = some s → ∃ uid c, b.hub.uid? r.listener = some uid ∧
          b.registry.capabilities? s = some c ∧
          r.announced =
            if b.firewall.allowed uid c.isMetered (b.firewall.isBackground uid) = true then some s
            else none) ∧
      ∀ who, b.begin.announce who = b.begin := by
  refine ⟨fun q r found => ⟨fun none => ?_, fun s bound => ?_⟩, reached.informed.announce_eq⟩
  · rw [reached.informed q r found, visible, none]
    rfl
  · obtain ⟨owner, there, _⟩ := reached.orderly.owned q r found
    obtain ⟨e, known⟩ := reached.matched.registered reached.orderly.suppliers found bound
    have uid : b.hub.uid? r.listener = some owner.uid := by rw [Hub.uid?, there]; rfl
    have capabilities : b.registry.capabilities? s = some e.capabilities := by
      rw [Registry.capabilities?, known]; rfl
    refine ⟨owner.uid, e.capabilities, uid, capabilities, ?_⟩
    rw [reached.informed q r found, visible, bound, Option.filter_some, canSee, capabilities]
    simp only [Hub.accessAllowed, uid]

theorem announcements_firstNetwork :
    firstNetwork.Reachable ∧ (∀ who, firstNetwork.begin.announce who = firstNetwork.begin) ∧
      ∃ uid c, firstNetwork.hub.uid? 1 = some uid ∧
        firstNetwork.registry.capabilities? 1 = some c ∧
        some (1 : SupplierId) = if firstNetwork.firewall.allowed uid c.isMetered
          (firstNetwork.firewall.isBackground uid) = true then some 1 else none := by
  have announcements := Reachable.announcements firstNetwork_reachable
  exact ⟨firstNetwork_reachable, announcements.2,
    (announcements.1 1 _ firstNetwork_request).2 1 rfl⟩

end Broker

end Connectivity
