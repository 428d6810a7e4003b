import Connectivity.Proofs.Policies
import Connectivity.Proofs.Registry
/-! The runs of a broker: commands in any order, the deaths of listeners, and whatever the outlets
do in between. A command that succeeds is told apart by what it changes before the requests are
looked at. -/
namespace Connectivity

namespace Broker

/-- All that a command can come to if it is not refused: what it answers, and the turn it ends in. -/
inductive Carried (b : Broker) : Command → Answer → Turn → Prop where
  | known {caller netType identity capabilities id} (system : b.firewall.isSystem caller = true)
      (named : b.registry.named? netType identity = some id)
      (returns : b.registry.duplicates = .returnExisting) :
      Carried b (.registerSupplier caller netType identity capabilities) (.id id) b.begin
  | registered {caller netType identity capabilities id registry}
      (system : b.firewall.isSystem caller = true)
      (unnamed : b.registry.named? netType identity = none)
      (done : b.registry.register netType identity capabilities = .ok (⟨id, true⟩, registry))
      (drawn : id = (b.registry.ids.take b.registry.suppliers).1)
      (put : registry.suppliers = b.registry.suppliers.insert id
        { descriptor := { id, netType, identity, capabilities } }) :
      Carried b (.registerSupplier caller netType identity capabilities) (.id id)
        ({ b with registry }.begin.reevaluate (.supplier id netType))
  | unregistered {caller id e registry} {t : Turn} (system : b.firewall.isSystem caller = true)
      (found : b.registry.find? id = some e)
      (done : b.registry.unregister id = .ok (e, registry))
      (gone : registry.suppliers = b.registry.suppliers.erase id)
      (cleared : t = if e.link.isSome then { b with registry }.begin.callDevice (.clear id)
        else { b with registry }.begin) :
      Carried b (.unregisterSupplier caller id) .done (t.reevaluate (.supplier id e.netType))
  | informed {caller id info e seq change registry} (system : b.firewall.isSystem caller = true)
      (done : b.registry.updateInfo id info = .ok (change, registry))
      (revised : b.registry.Revised registry id e { e with info, availableSeq := seq }) :
      Carried b (.updateInfo caller id info) .done
        ({ b with registry }.begin.reevaluate (.supplier id e.netType))
  | equipped {caller id capabilities e registry} (system : b.firewall.isSystem caller = true)
      (done : b.registry.updateCapabilities id capabilities = .ok (e.capabilities, registry))
      (revised : b.registry.Revised registry id e
        { e with descriptor := { e.descriptor with capabilities } }) :
      Carried b (.updateCapabilities caller id capabilities) .done
        (({ b with registry }.begin.reevaluate (.supplier id e.netType)).equip id e.capabilities
          capabilities (b.matcher.announcedOn id))
  | linked {caller id link e registry} (system : b.firewall.isSystem caller = true)
      (done : b.registry.updateLink id link = .ok registry)
      (revised : b.registry.Revised registry id e { e with link := some link }) :
      Carried b (.updateLink caller id link) .done
        ((({ b with registry }.begin.callDevice (.apply id link)).reevaluate
          (.supplier id e.netType)).tell id (.linkChanged link) (fun _ => true))
  | joined {uid sink l hub} (done : b.hub.register uid sink = .ok (l, hub)) :
      Carried b (.registerListener uid sink) (.id l) { b with hub }.begin
  | left {l} (there : b.hub.contains l = true) :
      Carried b (.unregisterListener l) .done (b.dropListener l).begin
  | activated {kind specifier l hub} (sound : specifier.flaw? = none)
      (done : b.hub.attach l (b.matcher.activate kind specifier l).1 = .ok hub) :
      Carried b (.activate kind specifier l) (.id (b.matcher.activate kind specifier l).1)
        ({ b with matcher := (b.matcher.activate kind specifier l).2, hub }.begin.reevaluate
          (.request (b.matcher.activate kind specifier l).1))
  | deactivated {caller id r} (found : b.matcher.find? id = some r)
      (allowed : b.firewall.isSystem caller = true ∨ b.hub.uid? r.listener = some caller) :
      Carried b (.deactivate caller id) .done
        { b with
          matcher := { b.matcher with requests := b.matcher.requests.erase id }
          hub := b.hub.detach r.listener id }.begin
  | looked {id r} (found : b.matcher.find? id = some r) :
      Carried b (.request id) (.request r) b.begin
  | policed {caller uid policy t} (system : b.firewall.isSystem caller = true)
      (done : (b.setUidPolicy uid policy).2 = t) (changed : b.Repoliced t) :
      Carried b (.setUidPolicy caller uid policy) .done t
  | restricted {caller restricted t} (system : b.firewall.isSystem caller = true)
      (done : (b.setBackgroundPolicy restricted).2 = t) (changed : b.Repoliced t) :
      Carried b (.setBackgroundPolicy caller restricted) .done t
  | grounded {caller uid background t} (system : b.firewall.isSystem caller = true)
      (done : (b.setUidBackground uid background).2 = t) (changed : b.Repoliced t) :
      Carried b (.setUidBackground caller uid background) .done t
  | counted : Carried b .status (.status b.status) b.begin

theorem authorize_eq_ok {b : Broker} {caller : Uid} {u : Unit} (done : b.authorize caller = .ok u) :
    b.firewall.isSystem caller = true := by
  unfold authorize at done
  split at done
  · assumption
  · cases done

theorem entry_eq_ok {m : Matcher} {q : RequestId} {r : ActiveRequest} (done : m.entry q = .ok r) :
    m.find? q = some r := by
  unfold Matcher.entry at done
  split at done
  · rename_i found
    exact Except.ok.inj done ▸ found
  · cases done

theorem validate_eq_ok {s : Specifier} {u : Unit} (done : s.validate = .ok u) : s.flaw? = none := by
  unfold Specifier.validate at done
  split at done
  · cases done
  · assumption

theorem carried_of_perform {b : Broker} {c : Command} {a : Answer} {t : Turn}
    (done : b.perform c = .ok (a, t)) : b.Carried c a t := by
  cases c with
  | registerSupplier caller netType identity capabilities =>
    obtain ⟨_, system, done⟩ := bind_eq_ok_iff.1 done
    obtain ⟨⟨⟨id, created⟩, registry⟩, registered, done⟩ := bind_eq_ok_iff.1 done
    cases done
    rcases Registry.register_eq_ok registered with
      ⟨named, made, returns, rfl⟩ | ⟨unnamed, made, drawn, put⟩
    · cases made
      exact .known (authorize_eq_ok system) named returns
    · cases made
      exact .registered (authorize_eq_ok system) unnamed registered drawn put
  | unregisterSupplier caller id =>
    obtain ⟨_, system, done⟩ := bind_eq_ok_iff.1 done
    obtain ⟨⟨e, registry⟩, gone, done⟩ := bind_eq_ok_iff.1 done
    cases done
    obtain ⟨found, erased⟩ := Registry.unregister_eq_ok gone
    exact .unregistered (authorize_eq_ok system) found gone erased rfl
  | updateInfo caller id info =>
    obtain ⟨_, system, done⟩ := bind_eq_ok_iff.1 done
    obtain ⟨e, found, done⟩ := bind_eq_ok_iff.1 done
    obtain ⟨⟨change, registry⟩, updated, done⟩ := bind_eq_ok_iff.1 done
    cases done
    obtain ⟨_, _, revised⟩ := Registry.updateInfo_eq_ok updated
    cases (Registry.entry_eq_ok_iff.1 found).symm.trans revised.found
    exact .informed (authorize_eq_ok system) updated revised
  | updateCapabilities caller id capabilities =>
    obtain ⟨_, system, done⟩ := bind_eq_ok_iff.1 done
    obtain ⟨e, found, done⟩ := bind_eq_ok_iff.1 done
    obtain ⟨⟨previous, registry⟩, updated, done⟩ := bind_eq_ok_iff.1 done
    cases done
    obtain ⟨_, revised, rfl⟩ := Registry.updateCapabilities_eq_ok updated
    cases (Registry.entry_eq_ok_iff.1 found).symm.trans revised.found
    exact .equipped (authorize_eq_ok system) updated revised
  | updateLink caller id link =>
    obtain ⟨_, system, done⟩ := bind_eq_ok_iff.1 done
    obtain ⟨e, found, done⟩ := bind_eq_ok_iff.1 done
    obtain ⟨registry, updated, done⟩ := bind_eq_ok_iff.1 done
    cases done
    obtain ⟨_, revised⟩ := Registry.updateLink_eq_ok updated
    cases (Registry.entry_eq_ok_iff.1 found).symm.trans revised.found
    exact .linked (authorize_eq_ok system) updated revised
  | registerListener uid sink =>
    obtain ⟨⟨l, hub⟩, registered, done⟩ := bind_eq_ok_iff.1 done
    cases done
    exact .joined registered
  | unregisterListener l =>
    simp only [perform, unregisterListener] at done
    split at done
    · rename_i there
      cases done
      exact .left there
    · cases done
  | activate kind specifier l =>
    obtain ⟨_, sound, done⟩ := bind_eq_ok_iff.1 done
    obtain ⟨hub, attached, done⟩ := bind_eq_ok_iff.1 done
    cases done
    exact .activated (validate_eq_ok sound) attached
  | deactivate caller id =>
    obtain ⟨⟨r, matcher⟩, gone, done⟩ := bind_eq_ok_iff.1 done
    obtain ⟨s, found, same⟩ := bind_eq_ok_iff.1 gone
    cases same
    dsimp only at done
    split at done
    · rename_i allowed
      cases done
      exact .deactivated (entry_eq_ok found) (by simpa using allowed)
    · cases done
  | request id =>
    obtain ⟨r, found, done⟩ := bind_eq_ok_iff.1 done
    cases done
    exact .looked (entry_eq_ok found)
  | setUidPolicy caller uid policy =>
    obtain ⟨_, system, done⟩ := bind_eq_ok_iff.1 done
    cases done
    exact .policed (authorize_eq_ok system) rfl (repoliced_setUidPolicy _ _)
  | setBackgroundPolicy caller restricted =>
    obtain ⟨_, system, done⟩ := bind_eq_ok_iff.1 done
    cases done
    exact .restricted (authorize_eq_ok system) rfl (repoliced_setBackgroundPolicy _)
  | setUidBackground caller uid background =>
    obtain ⟨_, system, done⟩ := bind_eq_ok_iff.1 done
    cases done
    exact .grounded (authorize_eq_ok system) rfl (repoliced_setUidBackground _ _)
  | status =>
    cases done
    exact .counted

/-- A command is refused and nothing happens, or it is carried out. -/
theorem step_cases (b : Broker) (c : Command) :
    (∃ e, b.step c = ⟨.error e, b, {}⟩) ∨
      ∃ a t, b.Carried c a t ∧ b.step c = ⟨.ok a, t.broker, t.deeds⟩ := by
  unfold step
  cases done : b.perform c with
  | error e => exact .inl ⟨e, rfl⟩
  | ok result => exact .inr ⟨result.1, result.2, carried_of_perform done, rfl⟩

end Broker

/-- What reaches a serving broker: a command, or the report that a listener's remote end has gone. -/
inductive Input where
  | command (c : Command)
  | death (l : ListenerId)

namespace Broker

def accept (b : Broker) : Input → Turn
  | .command c => ⟨(b.step c).broker, (b.step c).deeds⟩
  | .death l => (b.bury l).begin

def after (b : Broker) (inputs : List Input) : Broker :=
  inputs.foldl (fun b i => (b.accept i).broker) b

/-- The input is dealt with in the end. A search for a fresh id is not, where every id is in use. -/
def Ends (b : Broker) : Input → Prop
  | .command (.registerSupplier caller netType identity _) =>
    b.firewall.isSystem caller = true → b.registry.named? netType identity = none →
      b.registry.suppliers.HasRoom
  | .command (.registerListener _ sink) => sink.isConnected = true → b.hub.listeners.HasRoom
  | .command (.activate _ specifier l) =>
    specifier.flaw? = none → b.hub.contains l = true → b.matcher.requests.HasRoom
  | _ => True

instance (b : Broker) : (i : Input) → Decidable (b.Ends i)
  | .command (.registerSupplier caller netType identity _) =>
    inferInstanceAs (Decidable (b.firewall.isSystem caller = true →
      b.registry.named? netType identity = none → b.registry.suppliers.size < 0xFFFFFFFF))
  | .command (.registerListener _ sink) =>
    inferInstanceAs (Decidable (sink.isConnected = true → b.hub.listeners.size < 0xFFFFFFFF))
  | .command (.activate _ specifier l) =>
    inferInstanceAs (Decidable (specifier.flaw? = none → b.hub.contains l = true →
      b.matcher.requests.size < 0xFFFFFFFF))
  | .command (.unregisterSupplier ..) | .command (.updateInfo ..) | .command (.updateLink ..)
  | .command (.updateCapabilities ..) | .command (.unregisterListener ..)
  | .command (.deactivate ..) | .command (.request ..) | .command (.setUidPolicy ..)
  | .command (.setBackgroundPolicy ..) | .command (.setUidBackground ..) | .command .status
  | .death _ => .isTrue trivial

def EndsAll (b : Broker) : List Input → Prop
  | [] => True
  | i :: rest => b.Ends i ∧ (b.accept i).broker.EndsAll rest

instance decidableEndsAll : (b : Broker) → (is : List Input) → Decidable (b.EndsAll is)
  | _, [] => .isTrue trivial
  | b, i :: rest =>
    have := decidableEndsAll (b.accept i).broker rest
    inferInstanceAs (Decidable (b.Ends i ∧ (b.accept i).broker.EndsAll rest))

theorem accept_cases (b : Broker) (i : Input) :
    b.accept i = b.begin ∨
      (∃ c a, i = .command c ∧ b.Carried c a (b.accept i) ∧ (b.step c).reply = .ok a) ∨
      ∃ l, i = .death l ∧ b.hub.contains l = true ∧ b.accept i = (b.dropListener l).begin := by
  cases i with
  | command c =>
    rcases b.step_cases c with ⟨e, refused⟩ | ⟨a, t, carried, done⟩
    · exact .inl (by simp only [accept, refused]; rfl)
    · exact .inr (.inl ⟨c, a, rfl, by simpa only [accept, done] using carried, by rw [done]⟩)
  | death l =>
    by_cases there : b.hub.contains l = true
    · exact .inr (.inr ⟨l, rfl, there, by simp only [accept, bury, if_pos there]⟩)
    · exact .inl (by simp only [accept, bury, if_neg there])

end Broker

/-- What an outlet does of itself: it delivers, its remote end reads or goes away, and that is
reported. -/
inductive Outlet.Moves : Outlet → Outlet → Prop where
  | rest (o : Outlet) : Moves o o
  | deliver {o p q : Outlet} (turned : o.turn? = some p) (more : Moves p q) : Moves o q
  | read {o q : Outlet} {n : Notification} {sink : Sink} (taken : o.sink.read? = some (n, sink))
      (more : Moves { o with sink } q) : Moves o q
  | disconnect {o q : Outlet} (more : Moves { o with sink := o.sink.disconnect } q) : Moves o q
  | report {o q : Outlet} (more : Moves o.watch.2 q) : Moves o q

def Hub.Moved (h : Hub) (outlets : Table Outlet) : Prop :=
  (∀ l, outlets.contains l = h.outlets.contains l) ∧
    ∀ l o p, h.outlets.find? l = some o → outlets.find? l = some p → o.Moves p

namespace Broker

def withOutlets (b : Broker) (outlets : Table Outlet) : Broker :=
  { b with hub := { b.hub with outlets } }

/-- The states of a broker that has read what policies were kept, and served since. -/
inductive Reachable : Broker → Prop where
  | start (settings : BrokerSettings) (keeps : Bool) (file : PolicyFile) :
      Reachable (Broker.new settings keeps file).start
  | accept {b : Broker} (earlier : Reachable b) (i : Input) (ends : b.Ends i) :
      Reachable (b.accept i).broker
  | outlets {b : Broker} (earlier : Reachable b) {outlets : Table Outlet}
      (moved : b.hub.Moved outlets) : Reachable (b.withOutlets outlets)

theorem Reachable.after {b : Broker} (reached : b.Reachable) {is : List Input}
    (ends : b.EndsAll is) : (b.after is).Reachable := by
  induction is generalizing b with
  | nil => exact reached
  | cons i rest ih => exact ih (reached.accept i ends.1) ends.2

/-- A network has come up, and a listener of uid 10 was told so for the one request it has. -/
def firstNetwork : Broker := (Broker.new {} false .absent).start.after [
  .command (.registerSupplier 0 .wifi "lan" ⟨0⟩),
  .command (.registerListener 10 (.newChannel 4)),
  .command (.activate .request {} 1),
  .command (.updateInfo 0 1 { isAvailable := true, signalStrength := 60 })]

theorem firstNetwork_reachable : firstNetwork.Reachable :=
  Reachable.after (.start {} false .absent) (by decide)

theorem firstNetwork_request : firstNetwork.matcher.find? 1 = some
    { id := 1, kind := .request, specifier := {}, listener := 1, bound := some 1
      announced := some 1 } := by
  decide

end Broker

end Connectivity
