import Connectivity.Proofs.Access
import Connectivity.Proofs.Bystanders
/-! What listeners come to see as policies change. A change of policies comes to telling everyone what
they may see now, so a looser policy only shows suppliers and a tighter one only hides them. -/
namespace Connectivity

namespace Turn
variable {t : Turn}

theorem announce_congr {who other : ActiveRequest → Bool}
    (same : ∀ q r, t.broker.matcher.find? q = some r → t.broker.told who r = t.broker.told other r) :
    t.announce who = t.announce other := by
  have alike : ∀ q r, t.broker.matcher.requests.find? q = some r →
      (if who r then t.broker.visible r else r.announced) =
        if other r then t.broker.visible r else r.announced :=
    fun q r found => congrArg ActiveRequest.announced (same q r found)
  have requests := Table.mapValues_congr (f := fun _ r => t.broker.told who r)
    (g := fun _ r => t.broker.told other r) same
  have sent : ∀ r ∈ t.broker.matcher.requests.values,
      (announcement r.kind r.announced (if who r then t.broker.visible r else r.announced)).map
          (fun e => (r.listener, (⟨r.id, e⟩ : Notification))) =
        (announcement r.kind r.announced (if other r then t.broker.visible r else r.announced)).map
          (fun e => (r.listener, ⟨r.id, e⟩)) := by
    intro r listed
    obtain ⟨q, found⟩ := Table.mem_values_iff.1 listed
    rw [alike q r found]
  unfold Broker.told at requests
  simp only [announce, requests, List.flatMap_congr sent]

theorem reelect_of_elected
    (elected : t.broker.matcher.default = selectBest t.broker.registry.candidates {}) :
    t.reelect = t := by
  have unchanged : t.broker.matcher.elect t.broker.registry = (none, t.broker.matcher) := by
    unfold Matcher.elect
    dsimp only
    rw [if_pos elected.symm]
  simp only [reelect, unchanged, publish]

theorem mem_announce_sent (keyed : t.broker.matcher.Keyed) (silent : t.deeds.sent = [])
    {who : ActiveRequest → Bool} {l : ListenerId} {n : Notification} :
    (l, n) ∈ (t.announce who).deeds.sent ↔ ∃ r, t.broker.matcher.find? n.request = some r ∧
      r.listener = l ∧
      n.event ∈ announcement r.kind r.announced (t.broker.told who r).announced := by
  have about : (l, n) ∈ (t.announce who).deeds.sent ↔
      (l, n) ∈ (t.announce who).deeds.about n.request := by
    rw [Deeds.about, List.mem_filter, and_iff_left (beq_self_eq_true n.request)]
  have nothing : t.deeds.about n.request = [] := by rw [Deeds.about, silent]; rfl
  rw [about, about_announce keyed, nothing, List.nil_append]
  cases found : t.broker.matcher.find? n.request with
  | none => simp
  | some r =>
    have named := keyed n.request r found
    simp only [Option.map_some, Option.getD_some, ActiveRequest.notices, List.mem_map,
      Option.some.injEq, exists_eq_left', Prod.mk.injEq]
    constructor
    · rintro ⟨e, listed, own, rfl⟩
      exact ⟨own, listed⟩
    · rintro ⟨own, listed⟩
      exact ⟨n.event, listed, own, by rw [named]⟩

end Turn

namespace Command

def isPolicy : Command → Bool
  | .setUidPolicy .. | .setBackgroundPolicy .. | .setUidBackground .. => true
  | _ => false

/-- The uid whose policy or background state is set, where it is one. -/
def policed? : Command → Option Uid
  | .setUidPolicy _ uid _ | .setUidBackground _ uid _ => some uid
  | _ => none

/-- As things stand under `f`, the command changes policies in favour of access only. -/
def Relaxes (f : Firewall) : Command → Prop
  | .setUidPolicy _ uid policy => (f.policy uid).Relaxes policy
  | .setBackgroundPolicy _ restricted => restricted = false
  | .setUidBackground _ _ background => background = false
  | _ => False

def Tightens (f : Firewall) : Command → Prop
  | .setUidPolicy _ uid policy => policy.Relaxes (f.policy uid)
  | .setBackgroundPolicy _ restricted => restricted = true
  | .setUidBackground _ _ background => background = true
  | _ => False

end Command

namespace Firewall
variable {f : Firewall} {c : Command} {v : Uid}

def after (f : Firewall) : Command → Firewall
  | .setUidPolicy _ uid policy => (f.setPolicy uid policy).2
  | .setBackgroundPolicy _ restricted => (f.setRestricted restricted).2
  | .setUidBackground _ uid background => (f.setBackground uid background).2
  | _ => f

theorem after_system (f : Firewall) (c : Command) : (f.after c).system = f.system := by
  cases c <;> rfl

theorem after_policy (f : Firewall) (c : Command) (v : Uid) :
    (f.after c).policy v = match c with
      | .setUidPolicy _ uid policy => if v = uid then policy else f.policy v
      | _ => f.policy v := by
  cases c with
  | setUidPolicy _ uid policy => exact f.policy_setPolicy uid policy v
  | _ => rfl

theorem after_background (f : Firewall) (c : Command) (v : Uid) :
    (f.after c).isBackground v = match c with
      | .setUidBackground _ uid background => if v = uid then background else f.isBackground v
      | _ => f.isBackground v := by
  cases c with
  | setUidBackground _ uid background => exact f.isBackground_setBackground uid background v
  | _ => rfl

theorem after_restricted (f : Firewall) (c : Command) :
    (f.after c).restricted = match c with
      | .setBackgroundPolicy _ restricted => restricted
      | _ => f.restricted := by
  cases c <;> rfl

theorem eases_after (relaxes : c.Relaxes f) : f.Eases (f.after c) := by
  have same (p : PolicyBits) : p.Relaxes p := PolicyBits.relaxes_of_known rfl
  constructor
  · exact f.after_system c
  · intro v
    rw [after_policy]
    cases c with
    | setUidPolicy _ uid policy =>
      dsimp only
      split
      · rename_i here
        exact here ▸ relaxes
      · exact same _
    | _ => exact same _
  · intro v known
    rw [after_background] at known
    cases c with
    | setUidBackground _ uid background =>
      cases show background = false from relaxes
      dsimp only at known
      split at known
      · cases known
      · exact known
    | _ => exact known
  · intro known
    rw [after_restricted] at known
    cases c with
    | setBackgroundPolicy _ restricted =>
      cases show restricted = false from relaxes
      cases known
    | _ => exact known

theorem eased_after (tightens : c.Tightens f) : (f.after c).Eases f := by
  have same (p : PolicyBits) : p.Relaxes p := PolicyBits.relaxes_of_known rfl
  constructor
  · exact (f.after_system c).symm
  · intro v
    rw [after_policy]
    cases c with
    | setUidPolicy _ uid policy =>
      dsimp only
      split
      · rename_i here
        exact here ▸ tightens
      · exact same _
    | _ => exact same _
  · intro v known
    rw [after_background]
    cases c with
    | setUidBackground _ uid background =>
      cases show background = true from tightens
      dsimp only
      split
      · rfl
      · exact known
    | _ => exact known
  · intro known
    rw [after_restricted]
    cases c with
    | setBackgroundPolicy _ restricted => exact tightens
    | _ => exact known

theorem after_elsewhere (other : ∀ u, c.policed? = some u → v ≠ u) :
    (f.after c).policy v = f.policy v ∧ (f.after c).isBackground v = f.isBackground v := by
  rw [after_policy, after_background]
  cases c with
  | setUidPolicy _ uid policy => exact ⟨if_neg (other uid rfl), rfl⟩
  | setUidBackground _ uid background => exact ⟨rfl, if_neg (other uid rfl)⟩
  | _ => exact ⟨rfl, rfl⟩

theorem after_restricted_of_named {u : Uid} (named : c.policed? = some u) :
    (f.after c).restricted = f.restricted := by
  cases c <;> first | rfl | cases named

end Firewall

namespace Broker
variable {b : Broker} {store : PolicyStore} {t : Turn}

def repolice (b : Broker) (store : PolicyStore) : Turn :=
  { b with store }.begin.announce (fun _ => true)

/-- Those who are not told anything are those for whom nothing has changed. -/
theorem Repoliced.eq_repolice (informed : b.Informed) (matched : b.Matched)
    (changed : b.Repoliced t) : t = b.repolice t.broker.store := by
  cases changed with
  | @idle store access =>
    have unmoved : { b with store }.Informed := informed.congr (fun _ _ found => found)
      (fun _ _ _ _ => canSee_congr rfl rfl (fun u _ metered => access u metered))
    exact (unmoved.announce_eq _).symm
  | @told store who access =>
    have elected : ({ b with store }.begin.announce who).reelect =
        { b with store }.begin.announce who := Turn.reelect_of_elected matched.elected
    rw [elected]
    apply Turn.announce_congr
    intro q r found
    cases asked : who r with
    | true => simp only [Broker.told, asked, if_true]
    | false =>
      have unmoved : { b with store }.visible r = b.visible r :=
        visible_congr (fun s _ => canSee_congr rfl rfl (access r asked))
      have current : r.announced = { b with store }.visible r := (informed q r found).trans unmoved.symm
      simp only [Broker.told, asked, begin, ← current]
      rfl

/-- A change of policies is one of the firewall, whose file may be written besides. -/
theorem Carried.repoliced {c : Command} {a : Answer} (carried : b.Carried c a t)
    (policy : c.isPolicy = true) :
    b.Repoliced t ∧ t.broker.firewall = b.firewall.after c := by
  have announced {u : Turn} {who : ActiveRequest → Bool} :
      (u.announce who).reelect.broker.firewall = u.broker.firewall :=
    congrArg PolicyStore.firewall ((u.announce_kept who).trans (Turn.reelect_kept _)).store
  cases carried with
  | @policed _ uid bits _ _ done changed =>
    refine ⟨changed, ?_⟩
    rw [← done, setUidPolicy]
    dsimp only
    split
    · exact announced.trans (b.store.setPolicy_firewall uid bits)
    · exact b.store.setPolicy_firewall uid bits
  | restricted _ done changed =>
    refine ⟨changed, ?_⟩
    rw [← done, setBackgroundPolicy]
    dsimp only
    split
    · exact announced
    · rfl
  | grounded _ done changed =>
    refine ⟨changed, ?_⟩
    rw [← done, setUidBackground]
    dsimp only
    split
    · exact announced
    · rfl
  | known | registered | unregistered | informed | equipped | linked | joined | left | activated |
    deactivated | looked | counted => cases policy

theorem Reachable.repolice (reached : b.Reachable) {c : Command} {a : Answer}
    (policy : c.isPolicy = true) (done : (b.step c).reply = .ok a) :
    ∃ store, store.firewall = b.firewall.after c ∧ b.accept (.command c) = b.repolice store := by
  rcases b.step_cases c with ⟨e, refused⟩ | ⟨_, t, carried, stepped⟩
  · rw [refused] at done
    cases done
  · obtain ⟨changed, firewall⟩ := carried.repoliced policy
    have turn : b.accept (.command c) = t := by simp only [Broker.accept, stepped]
    rw [turn]
    exact ⟨t.broker.store, firewall, changed.eq_repolice reached.informed reached.matched⟩

theorem visible_eq_some_iff {r : ActiveRequest} {s : SupplierId} :
    b.visible r = some s ↔ r.bound = some s ∧ b.canSee r.listener s = true :=
  Option.filter_eq_some_iff

theorem repolice_find? (b : Broker) (store : PolicyStore) (q : RequestId) :
    (b.repolice store).broker.matcher.find? q = (b.matcher.find? q).map (fun r =>
      { r with announced := { b with store }.visible r }) :=
  Turn.announce_find? _ _ q

theorem mem_repolice_sent (orderly : b.Orderly) {l : ListenerId} {n : Notification} :
    (l, n) ∈ (b.repolice store).deeds.sent ↔ ∃ r, b.matcher.find? n.request = some r ∧
      r.listener = l ∧ n.event ∈ announcement r.kind r.announced ({ b with store }.visible r) :=
  Turn.mem_announce_sent (t := { b with store }.begin) orderly.requests rfl

theorem visible_mono {c : Broker} (registry : c.registry = b.registry) (hub : c.hub = b.hub)
    (access : ∀ u metered, b.firewall.admits u metered = true → c.firewall.admits u metered = true)
    {r : ActiveRequest} {s : SupplierId} (visible : b.visible r = some s) : c.visible r = some s := by
  rw [visible_eq_some_iff] at visible ⊢
  obtain ⟨bound, sees⟩ := visible
  refine ⟨bound, ?_⟩
  unfold canSee Hub.accessAllowed at sees ⊢
  rw [registry, hub]
  cases known : b.registry.capabilities? s with
  | none => simp [known] at sees
  | some capabilities =>
    cases owner : b.hub.uid? r.listener with
    | none => simp [known, owner] at sees
    | some u =>
      simp only [known, owner] at sees
      exact access u capabilities.isMetered sees

/-- Suppliers come into sight: those bound, to listeners that saw none. -/
structure Reveals (b : Broker) (t : Turn) : Prop where
  sent : ∀ l n, (l, n) ∈ t.deeds.sent → ∃ r s, b.matcher.find? n.request = some r ∧
    r.listener = l ∧ r.announced = none ∧ r.bound = some s ∧ n.event = .available s
  seen : ∀ q r s, b.matcher.find? q = some r → r.announced = some s →
    ∃ r', t.broker.matcher.find? q = some r' ∧ r'.announced = some s

/-- Suppliers go out of sight: those that were announced. -/
structure Conceals (b : Broker) (t : Turn) : Prop where
  sent : ∀ l n, (l, n) ∈ t.deeds.sent → ∃ r s, b.matcher.find? n.request = some r ∧
    r.listener = l ∧ r.announced = some s ∧ n.event = .lost s
  seen : ∀ q r' s, t.broker.matcher.find? q = some r' → r'.announced = some s →
    ∃ r, b.matcher.find? q = some r ∧ r.announced = some s

theorem reveals_repolice (orderly : b.Orderly) (informed : b.Informed)
    (access : ∀ u metered, b.firewall.admits u metered = true →
      store.firewall.admits u metered = true) : b.Reveals (b.repolice store) := by
  have lasts {r : ActiveRequest} {s : SupplierId} (visible : b.visible r = some s) :
      { b with store }.visible r = some s :=
    visible_mono (b := b) (c := { b with store }) rfl rfl access visible
  constructor
  · intro l n sent
    obtain ⟨r, found, own, told⟩ := (mem_repolice_sent orderly).1 sent
    have current := informed n.request r found
    cases before : b.visible r with
    | some s =>
      rw [current, before, lasts before, announcement_self] at told
      cases told
    | none =>
      cases after : { b with store }.visible r with
      | none =>
        rw [current, before, after, announcement_self] at told
        cases told
      | some s =>
        have bound := (visible_eq_some_iff.1 after).1
        refine ⟨r, s, found, own, current.trans before, bound, ?_⟩
        simpa [current, before, after, announcement] using told
  · intro q r s found announced
    have visible := lasts ((informed q r found).symm.trans announced)
    refine ⟨{ r with announced := { b with store }.visible r }, ?_, visible⟩
    rw [repolice_find?, found]
    rfl

theorem conceals_repolice (orderly : b.Orderly) (informed : b.Informed)
    (access : ∀ u metered, store.firewall.admits u metered = true →
      b.firewall.admits u metered = true) : b.Conceals (b.repolice store) := by
  have lasted {r : ActiveRequest} {s : SupplierId} (visible : { b with store }.visible r = some s) :
      b.visible r = some s :=
    visible_mono (b := { b with store }) (c := b) rfl rfl access visible
  constructor
  · intro l n sent
    obtain ⟨r, found, own, told⟩ := (mem_repolice_sent orderly).1 sent
    have current := informed n.request r found
    cases after : { b with store }.visible r with
    | some s =>
      rw [current, lasted after, after, announcement_self] at told
      cases told
    | none =>
      cases before : b.visible r with
      | none =>
        rw [current, before, after, announcement_self] at told
        cases told
      | some s =>
        refine ⟨r, s, found, own, current.trans before, ?_⟩
        simpa [current, before, after, announcement] using told
  · intro q r' s found announced
    rw [repolice_find?, Option.map_eq_some_iff] at found
    obtain ⟨r, earlier, rfl⟩ := found
    exact ⟨r, earlier, (informed q r earlier).trans (lasted announced)⟩

/-- Nothing has changed but policies and what was told under them. -/
structure Retold (b : Broker) (t : Turn) : Prop where
  registry : t.broker.registry = b.registry
  requests : ∀ q, t.broker.matcher.find? q =
    (b.matcher.find? q).map (fun r => { r with announced := t.broker.visible r })
  default : t.broker.matcher.default = b.matcher.default
  published : t.broker.published = b.published
  hub : t.broker.hub = b.hub.sendAll t.deeds.sent
  calls : t.deeds.calls = []
  publishes : t.deeds.published = []

theorem retold_repolice (b : Broker) (store : PolicyStore) : b.Retold (b.repolice store) where
  registry := rfl
  requests q := by
    have kept := { b with store }.begin.announce_kept (fun _ => true)
    rw [repolice_find?, repolice]
    simp only [kept.visible]
    rfl
  default := rfl
  published := rfl
  hub := ((Turn.From.begin { b with store }).announce _).hub
  calls := rfl
  publishes := rfl

/-- Where the policies of `u` alone have changed, nothing is told to others and nothing of theirs
changes. -/
structure Confined (u : Uid) (b : Broker) (t : Turn) : Prop where
  sent : ∀ l n, (l, n) ∈ t.deeds.sent → b.hub.uid? l = some u
  untouched : Untouched u { b with store := t.broker.store } t.broker
  policy : ∀ v, v ≠ u → t.broker.firewall.policy v = b.firewall.policy v
  background : ∀ v, v ≠ u → t.broker.firewall.isBackground v = b.firewall.isBackground v
  restricted : t.broker.firewall.restricted = b.firewall.restricted
  system : t.broker.firewall.system = b.firewall.system

theorem confined_repolice (orderly : b.Orderly) (informed : b.Informed) {c : Command} {u : Uid}
    (firewall : store.firewall = b.firewall.after c) (named : c.policed? = some u) :
    b.Confined u (b.repolice store) := by
  have elsewhere {v : Uid} (other : v ≠ u) : store.firewall.policy v = b.firewall.policy v ∧
      store.firewall.isBackground v = b.firewall.isBackground v := by
    rw [firewall]
    apply Firewall.after_elsewhere
    intro w same
    cases named.symm.trans same
    exact other
  have restricted : store.firewall.restricted = b.firewall.restricted :=
    firewall ▸ Firewall.after_restricted_of_named named
  have system : store.firewall.system = b.firewall.system := firewall ▸ b.firewall.after_system c
  have unmoved {r : ActiveRequest} {v : Uid} (other : v ≠ u)
      (owner : b.hub.uid? r.listener = some v) : { b with store }.visible r = b.visible r := by
    refine visible_congr (fun s _ => canSee_congr rfl rfl (fun w same metered => ?_))
    cases owner.symm.trans same
    exact Firewall.admits_congr system (elsewhere other).1 (elsewhere other).2 restricted metered
  have sent : ∀ l n, (l, n) ∈ (b.repolice store).deeds.sent → b.hub.uid? l = some u := by
    intro l n listed
    obtain ⟨r, found, rfl, told⟩ := (mem_repolice_sent orderly).1 listed
    obtain ⟨owner, there, _⟩ := orderly.owned n.request r found
    have known : b.hub.uid? r.listener = some owner.uid := Hub.uid?_eq_some_iff.2 ⟨owner, there, rfl⟩
    by_cases own : owner.uid = u
    · exact own ▸ known
    -- another uid's listener was told of what it still may see, so there is nothing to announce
    · rw [informed n.request r found, unmoved own known, announcement_self] at told
      cases told
  have start := (Turn.From.begin { b with store }).announce (fun _ => true)
  have listeners : (b.repolice store).broker.hub.listeners = b.hub.listeners := start.kept.listeners
  exact {
    sent
    untouched := {
      registry := rfl
      store := rfl
      default := rfl
      published := rfl
      listeners := fun l owner _ => by rw [listeners]
      outlets := by
        intro l v other known
        have nothing : (b.repolice store).deeds.sentTo l = [] := by
          refine Deeds.sentTo_eq_nil (fun x listed mine => ?_)
          have own := sent x.1 x.2 listed
          rw [mine] at own
          exact other (Option.some.inj (known.symm.trans own))
        have there := Hub.contains_of_uid? known
        refine (congrArg (·.outlets.find? l) start.hub).trans ?_
        refine (Hub.sendAll_outlet there (b.repolice store).deeds).trans ?_
        rw [nothing]
        cases b.hub.outlets.find? l <;> rfl
      requests := by
        apply requests_of_foreign (fun l owner _ => by rw [listeners])
        intro q r v other known
        rw [repolice_find?, Option.map_eq_some_iff]
        constructor
        · rintro ⟨s, found, rfl⟩
          have same : { b with store }.visible s = s.announced :=
            (unmoved other known).trans (informed q s found).symm
          simp only [same]
          exact found
        · intro found
          have same : { b with store }.visible r = r.announced :=
            (unmoved other known).trans (informed q r found).symm
          refine ⟨r, found, ?_⟩
          simp only [same] }
    policy := fun v other => (elsewhere other).1
    background := fun v other => (elsewhere other).2
    restricted
    system }

theorem repolice_congr {other : PolicyStore} (access : ∀ u metered,
      other.firewall.admits u metered = store.firewall.admits u metered) :
    (b.repolice other).deeds = (b.repolice store).deeds ∧
      (b.repolice other).broker = { (b.repolice store).broker with store := other } := by
  have visible : { b with store := other }.visible = { b with store }.visible :=
    funext (fun r => visible_congr (fun s _ => canSee_congr rfl rfl (fun u _ => access u)))
  unfold repolice Turn.announce begin
  simp only [visible]
  exact ⟨rfl, rfl⟩

/-- Two commands have come to the same but for what is stored, which grants the same access. -/
structure Outcome.Alike (o p : Outcome) : Prop where
  reply : p.reply = o.reply
  deeds : p.deeds = o.deeds
  broker : p.broker = { o.broker with store := p.broker.store }
  access : ∀ u metered background,
    p.broker.firewall.allowed u metered background = o.broker.firewall.allowed u metered background

theorem Reachable.alike_of_known (reached : b.Reachable) {p q : PolicyBits}
    (same : p &&& PolicyBits.known = q &&& PolicyBits.known) (caller uid : Uid) :
    (b.step (.setUidPolicy caller uid p)).Alike (b.step (.setUidPolicy caller uid q)) := by
  by_cases system : b.firewall.isSystem caller = true
  · have done (bits : PolicyBits) :
        (b.step (.setUidPolicy caller uid bits)).reply = .ok .done := by
      simp only [step, perform, authorize, if_pos system]
      rfl
    obtain ⟨store, given, first⟩ := reached.repolice rfl (done p)
    obtain ⟨other, taken, second⟩ := reached.repolice rfl (done q)
    have eases {x y : PolicyBits} (known : x &&& PolicyBits.known = y &&& PolicyBits.known) :
        (b.firewall.after (.setUidPolicy caller uid x)).Eases
          (b.firewall.after (.setUidPolicy caller uid y)) := by
      refine ⟨rfl, fun v => ?_, fun _ => id, id⟩
      rw [Firewall.after_policy, Firewall.after_policy]
      dsimp only
      split
      · exact PolicyBits.relaxes_of_known known
      · exact PolicyBits.relaxes_of_known rfl
    have access : ∀ u metered background,
        other.firewall.allowed u metered background = store.firewall.allowed u metered background := by
      rw [given, taken]
      exact (eases same).antisymm (eases same.symm)
    have background (v : Uid) : other.firewall.isBackground v = store.firewall.isBackground v := by
      rw [given, taken]
      rfl
    have admits (u : Uid) (metered : Bool) :
        other.firewall.admits u metered = store.firewall.admits u metered := by
      unfold Firewall.admits
      rw [background u]
      exact access u metered _
    obtain ⟨deeds, broker⟩ := repolice_congr (b := b) admits
    have stepped {bits : PolicyBits} {s : PolicyStore}
        (turn : b.accept (.command (.setUidPolicy caller uid bits)) = b.repolice s) :
        (b.step (.setUidPolicy caller uid bits)).broker = (b.repolice s).broker ∧
          (b.step (.setUidPolicy caller uid bits)).deeds = (b.repolice s).deeds :=
      ⟨congrArg Turn.broker turn, congrArg Turn.deeds turn⟩
    constructor
    · rw [done p, done q]
    · rw [(stepped first).2, (stepped second).2, deeds]
    · rw [(stepped first).1, (stepped second).1]
      exact broker
    · rw [(stepped first).1, (stepped second).1]
      exact access
  · have refused (bits : PolicyBits) : b.step (.setUidPolicy caller uid bits) =
        ⟨.error (.notPermitted caller), b, {}⟩ := by
      simp only [step, perform, authorize, if_neg system]
      rfl
    rw [refused p, refused q]
    exact ⟨rfl, rfl, rfl, fun _ _ _ => rfl⟩

/-- Looser policies show what is bound where nothing was seen, tighter ones hide what was announced,
and neither moves a binding or the default. A change for one uid is of no matter to others, and bits
that no rule reads are of no matter at all. -/
theorem Reachable.policies_monotone (reached : b.Reachable) {c : Command} {a : Answer}
    (policy : c.isPolicy = true) (done : (b.step c).reply = .ok a) :
    (c.Relaxes b.firewall → b.Reveals (b.accept (.command c))) ∧
      (c.Tightens b.firewall → b.Conceals (b.accept (.command c))) ∧
      b.Retold (b.accept (.command c)) ∧
      (∀ u, c.policed? = some u → b.Confined u (b.accept (.command c))) ∧
      ∀ caller uid p q, p &&& PolicyBits.known = q &&& PolicyBits.known →
        (b.step (.setUidPolicy caller uid p)).Alike (b.step (.setUidPolicy caller uid q)) := by
  have orderly := reached.orderly
  have informed := reached.informed
  obtain ⟨store, firewall, turn⟩ := reached.repolice policy done
  rw [turn]
  refine ⟨fun relaxes => ?_, fun tightens => ?_, b.retold_repolice store,
    fun u named => confined_repolice orderly informed firewall named,
    fun caller uid p q same => reached.alike_of_known same caller uid⟩
  · apply reveals_repolice orderly informed
    rw [firewall]
    exact fun u metered => (Firewall.eases_after relaxes).admits
  · apply conceals_repolice orderly informed
    rw [firewall]
    exact fun u metered => (Firewall.eased_after tightens).admits

def curtailed : Broker := (firstNetwork.accept (.command (.setUidPolicy 0 10 16))).broker

theorem curtailed_reachable : curtailed.Reachable :=
  firstNetwork_reachable.accept (.command (.setUidPolicy 0 10 16)) trivial

/-- The rejection is lifted in favour of a bit that no rule reads. -/
theorem policies_monotone_curtailed :
    (firstNetwork.Conceals (firstNetwork.accept (.command (.setUidPolicy 0 10 16))) ∧
      (firstNetwork.accept (.command (.setUidPolicy 0 10 16))).deeds.sent = [(1, ⟨1, .lost 1⟩)]) ∧
    (curtailed.Reveals (curtailed.accept (.command (.setUidPolicy 0 10 128))) ∧
      (curtailed.accept (.command (.setUidPolicy 0 10 128))).deeds.sent =
        [(1, ⟨1, .available 1⟩)]) ∧
    (curtailed.step (.setUidPolicy 0 10 128)).Alike (curtailed.step (.setUidPolicy 0 10 0)) := by
  have tightens := Reachable.policies_monotone firstNetwork_reachable (c := .setUidPolicy 0 10 16)
    rfl rfl
  have relaxes := Reachable.policies_monotone curtailed_reachable (c := .setUidPolicy 0 10 128)
    rfl rfl
  refine ⟨⟨tightens.2.1 ?_, by decide⟩, ⟨relaxes.1 ?_, by decide⟩, relaxes.2.2.2.2 0 10 128 0 rfl⟩
  · exact show PolicyBits.Relaxes 16 (firstNetwork.firewall.policy 10) by decide
  · exact show PolicyBits.Relaxes (curtailed.firewall.policy 10) 128 by decide

end Broker

end Connectivity
