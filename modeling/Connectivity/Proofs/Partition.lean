import Connectivity.Hub.Step
import Connectivity.Proofs.Round
/-! The requests are divided among the registered listeners, in the two sets that the hub keeps for
each of them. Of the listeners whose remote end has gone, none stays once all deaths are dealt
with. -/
namespace Connectivity

namespace Hub
variable {h : Hub} {R : ListenerId → Listener → Outlet → Prop}

/-- Each registered listener has an outlet, and the two belong together. -/
def Each (h : Hub) (R : ListenerId → Listener → Outlet → Prop) : Prop :=
  ∀ l owner, h.listeners.find? l = some owner → ∃ o, h.outlets.find? l = some o ∧ R l owner o

/-- No call on the hub parts a listener and its outlet. -/
structure Stable (R : ListenerId → Listener → Outlet → Prop) : Prop where
  fresh : ∀ l uid capacity sink, R l { uid } { capacity, sink }
  attach : ∀ l owner o q, R l owner o →
    R l { owner with requests := owner.requests.insert q } (o.attach q)
  detach : ∀ l owner o q, R l owner o →
    R l { owner with requests := owner.requests.erase q } (o.detach q)
  enqueue : ∀ l owner o n, R l owner o → R l owner (o.enqueue n)

theorem Each.modify (each : h.Each R) {k : ListenerId} {f : Listener → Listener}
    {g : Outlet → Outlet} (kept : ∀ owner o, R k owner o → R k (f owner) (g o)) :
    { h with listeners := h.listeners.modify k f, outlets := h.outlets.modify k g }.Each R := by
  intro l owner there
  dsimp only at there ⊢
  rw [Table.find?_modify] at there ⊢
  by_cases same : l = k
  · subst same
    rw [if_pos rfl, Option.map_eq_some_iff] at there
    obtain ⟨earlier, known, rfl⟩ := there
    obtain ⟨o, found, fits⟩ := each l earlier known
    exact ⟨g o, by rw [if_pos rfl, found]; rfl, kept earlier o fits⟩
  · rw [if_neg same] at there ⊢
    exact each l owner there

theorem Each.act (each : h.Each R) (stable : Stable R) {s : HubStep} (call : s.isCall = true) :
    (h.act s).Each R := by
  cases s with
  | register uid sink =>
    simp only [Hub.act]
    split
    · rename_i k g done
      obtain ⟨-, -, listeners⟩ := register_eq_ok done
      have outlets := (register_outlets done).2
      intro l owner there
      rw [listeners, Table.find?_insert] at there
      rw [outlets, Table.find?_insert]
      split at there
      · rename_i here
        cases there
        exact ⟨_, if_pos here, stable.fresh l uid _ sink⟩
      · rename_i elsewhere
        obtain ⟨o, found, fits⟩ := each l owner there
        exact ⟨o, by rw [if_neg elsewhere, found], fits⟩
    · exact each
  | remove k =>
    simp only [Hub.act, remove]
    split
    · exact each
    · intro l owner there
      obtain ⟨other, known⟩ := Table.find?_erase_eq_some_iff.1 there
      obtain ⟨o, found, fits⟩ := each l owner known
      exact ⟨o, by rw [Table.find?_modify, if_neg other, found], fits⟩
  | attach k q =>
    simp only [Hub.act, Hub.attach]
    by_cases known : h.contains k = true
    · rw [if_pos known]
      exact each.modify (fun owner o => stable.attach k owner o q)
    · rw [if_neg known]
      exact each
  | detach k q =>
    simp only [Hub.act, Hub.detach]
    split
    · exact each.modify (fun owner o => stable.detach k owner o q)
    · exact each
  | send k n =>
    simp only [Hub.act, Hub.send]
    split
    · intro l owner there
      obtain ⟨o, found, fits⟩ := each l owner there
      dsimp only
      rw [Table.find?_modify]
      split
      · exact ⟨o.enqueue n, by rw [found]; rfl, stable.enqueue l owner o n fits⟩
      · exact ⟨o, found, fits⟩
    · exact each
  | turn | read | disconnect | report | shutdown => cases call

theorem Each.acts (each : h.Each R) (stable : Stable R) {steps : List HubStep}
    (calls : ∀ s ∈ steps, s.isCall = true) : (h.acts steps).Each R := by
  induction steps generalizing h with
  | nil => exact each
  | cons s rest ih =>
    have here := each.act stable (calls s List.mem_cons_self)
    exact ih here (fun t listed => calls t (List.mem_cons_of_mem s listed))

theorem sendAll_eq_acts (h : Hub) (sent : List (ListenerId × Notification)) :
    h.sendAll sent = h.acts (sent.map (fun s => .send s.1 s.2)) := by
  rw [sendAll, acts, List.foldl_map]
  rfl

end Hub

namespace Outlet
variable {o p : Outlet}

@[simp] theorem enqueue_live (o : Outlet) (n : Notification) : (o.enqueue n).live = o.live := by
  unfold enqueue
  split <;> rfl

@[simp] theorem enqueue_watched (o : Outlet) (n : Notification) :
    (o.enqueue n).watched = o.watched := by
  unfold enqueue
  split <;> rfl

theorem turn?_kept (turned : o.turn? = some p) : p.live = o.live ∧ p.watched = o.watched := by
  rcases turn?_cases turned with ⟨n, sink, hand, taken, rfl⟩ | ⟨n, hand, refused, rfl⟩ |
    ⟨n, queue, hand, more, rfl⟩ | ⟨draining, rfl⟩
  all_goals exact ⟨rfl, rfl⟩

@[simp] theorem watch_live (o : Outlet) : o.watch.2.live = o.live := by
  unfold watch
  split <;> rfl

theorem Moves.live (moves : o.Moves p) : p.live = o.live := by
  induction moves with
  | rest => rfl
  | deliver turned _ ih => exact ih.trans (turn?_kept turned).1
  | read _ _ ih => exact ih
  | disconnect _ ih => exact ih
  | report _ ih => exact ih.trans (watch_live _)

theorem settle_watched (o : Outlet) : o.settle.watched = o.watched :=
  settle_same (fun _ _ turned => (turn?_kept turned).2) o

/-- There is a death to report as long as the remote end has gone and that is not reported. -/
theorem watch_eq_false_iff : o.watch.1 = false ↔ o.watched = false ∨ o.sink.isConnected = true := by
  unfold watch
  cases watched : o.watched <;> cases connected : o.sink.isConnected <;> simp

theorem watch_of_quiet (quiet : o.watch.1 = false) : o.watch.2 = o := by
  unfold watch at quiet ⊢
  split
  · rename_i reports
    simp [reports] at quiet
  · rfl

theorem watch_watch (o : Outlet) : o.watch.2.watch.1 = false := by
  rw [watch_eq_false_iff]
  unfold watch
  cases watched : o.watched <;> cases connected : o.sink.isConnected <;> simp [watched, connected]

end Outlet

theorem Hub.Moved.found_after {h : Hub} {outlets : Table Outlet} (moved : h.Moved outlets)
    {l : ListenerId} {o : Outlet} (found : h.outlets.find? l = some o) :
    ∃ p, outlets.find? l = some p ∧ o.Moves p := by
  have present : outlets.contains l = true := by
    rw [moved.1, Table.contains, found]
    rfl
  obtain ⟨p, after⟩ := Table.contains_eq_true_iff.1 present
  exact ⟨p, after, moved.2 l o p found after⟩

namespace Broker
variable {b c : Broker}

/-- The hub has got where it is by calls that the broker has made. -/
def Calls (b c : Broker) : Prop :=
  ∃ steps : List HubStep, (∀ s ∈ steps, s.isCall = true) ∧ c.hub = b.hub.acts steps

theorem Calls.same (hub : c.hub = b.hub) : b.Calls c := ⟨[], by simp, hub⟩

theorem Calls.one {s : HubStep} (call : s.isCall = true) (hub : c.hub = b.hub.act s) : b.Calls c :=
  ⟨[s], fun _ listed => List.mem_singleton.1 listed ▸ call, hub⟩

theorem Calls.from {t : Turn} {p : Broker} (start : t.From p) (calls : b.Calls p) :
    b.Calls t.broker := by
  obtain ⟨steps, first, hub⟩ := calls
  refine ⟨steps ++ t.deeds.sent.map (fun s => .send s.1 s.2), fun s listed => ?_, ?_⟩
  · rcases List.mem_append.1 listed with early | late
    · exact first s early
    · obtain ⟨_, _, rfl⟩ := List.mem_map.1 late
      rfl
  · rw [start.hub, hub, Hub.sendAll_eq_acts]
    exact (List.foldl_append ..).symm

theorem calls_dropListener (b : Broker) (l : ListenerId) : b.Calls (b.dropListener l) :=
  .one (s := .remove l) rfl rfl

theorem calls_repoliced {t : Turn} (changed : b.Repoliced t) : b.Calls t.broker := by
  cases changed with
  | idle access => exact .same rfl
  | told access => exact .from ((Turn.From.begin _).announce _).reelect (.same rfl)

/-- A command comes to at most one call on the hub, and to what is sent. -/
theorem Carried.calls {c : Command} {a : Answer} {t : Turn} (carried : b.Carried c a t) :
    b.Calls t.broker := by
  cases carried with
  | registered | informed => exact .from ((Turn.From.begin _).reevaluate _) (.same rfl)
  | unregistered system known done gone cleared =>
    exact .from ((Turn.From.callDevice_if cleared).reevaluate _) (.same rfl)
  | equipped => exact .from (((Turn.From.begin _).reevaluate _).equip _ _ _ _) (.same rfl)
  | linked =>
    exact .from ((((Turn.From.begin _).callDevice _).reevaluate _).tell _ _ _) (.same rfl)
  | @joined uid sink l hub done =>
    refine .one (s := .register uid sink) rfl ?_
    rw [Hub.act, done]
    rfl
  | @left l there => exact b.calls_dropListener l
  | @activated kind specifier l hub sound done =>
    have attached : b.Calls (b.withRequest kind specifier l hub) := by
      refine .one (s := .attach l (b.matcher.activate kind specifier l).1) rfl ?_
      rw [Hub.act, done]
      rfl
    exact .from ((Turn.From.begin _).reevaluate _) attached
  | @deactivated caller id r found allowed => exact .one (s := .detach r.listener id) rfl rfl
  | policed system done changed | restricted system done changed | grounded system done changed =>
    exact calls_repoliced changed
  | known | looked | counted => exact .same rfl

theorem accept_calls (b : Broker) (i : Input) : b.Calls (b.accept i).broker := by
  rcases b.accept_cases i with same | ⟨c, a, _, carried, _⟩ | ⟨l, _, _, dropped⟩
  · rw [same]
    exact .same rfl
  · exact carried.calls
  · rw [dropped]
    exact b.calls_dropListener l

theorem Calls.each {R : ListenerId → Listener → Outlet → Prop} (calls : b.Calls c)
    (stable : Hub.Stable R) (each : b.hub.Each R) : c.hub.Each R := by
  obtain ⟨steps, all, hub⟩ := calls
  rw [hub]
  exact each.acts stable all

/-- The set that the deliveries look at is the set of the listener's requests. -/
theorem Reachable.live (reached : b.Reachable) :
    b.hub.Each (fun _ owner o => o.live = owner.requests) := by
  have stable : Hub.Stable (fun _ owner o => o.live = owner.requests) := {
    fresh := fun _ _ _ _ => rfl
    attach := fun _ _ _ q same => congrArg (·.insert q) same
    detach := fun _ _ _ q same => congrArg (·.erase q) same
    enqueue := fun _ _ o n same => (o.enqueue_live n).trans same }
  induction reached with
  | start => exact fun l owner there => nomatch there
  | accept _ i _ ih => exact (accept_calls _ i).each stable ih
  | outlets _ moved ih =>
    intro l owner there
    obtain ⟨o, found, same⟩ := ih l owner there
    obtain ⟨p, after, moves⟩ := moved.found_after found
    exact ⟨p, after, moves.live.trans same⟩

/-- The states of a broker together with the deaths that are reported and not dealt with, oldest
first. A report may come at any time once a remote end has gone. -/
inductive AtWork : Broker → List ListenerId → Prop where
  | start (settings : BrokerSettings) (keeps : Bool) (file : PolicyFile) :
      AtWork (Broker.new settings keeps file).start []
  | command {b : Broker} {deaths : List ListenerId} (earlier : AtWork b deaths) (c : Command)
      (ends : b.Ends (.command c)) : AtWork (b.accept (.command c)).broker deaths
  | outlets {b : Broker} {deaths : List ListenerId} (earlier : AtWork b deaths)
      {outlets : Table Outlet} (moved : b.hub.Moved outlets)
      (unreported : ∀ l o p, b.hub.outlets.find? l = some o → outlets.find? l = some p →
        p.watched = o.watched) : AtWork (b.withOutlets outlets) deaths
  | report {b : Broker} {deaths : List ListenerId} (earlier : AtWork b deaths)
      (who : ListenerId → Bool) :
      AtWork (b.withOutlets (b.hub.outlets.mapValues (fun l o => if who l then o.watch.2 else o)))
        (deaths ++ (b.hub.outlets.filter (fun l o => who l && o.watch.1)).keys)
  | death {b : Broker} {l : ListenerId} {deaths : List ListenerId}
      (earlier : AtWork b (l :: deaths)) : AtWork (b.accept (.death l)).broker deaths

/-- Nothing moves of itself: no delivery, and no report of a death. -/
structure Idle (b : Broker) : Prop where
  still : ∀ l o, b.hub.outlets.find? l = some o → o.turn? = none
  quiet : ∀ l o, b.hub.outlets.find? l = some o → o.watch.1 = false

theorem Idle.map_settle (idle : b.Idle) (l : ListenerId) :
    (b.hub.outlets.find? l).map Outlet.settle = b.hub.outlets.find? l := by
  cases found : b.hub.outlets.find? l with
  | none => rfl
  | some o => exact congrArg some (Outlet.settle_of_still (idle.still l o found))

theorem Idle.map_watch (idle : b.Idle) (l : ListenerId) :
    (b.hub.outlets.find? l).map (fun o => o.watch.2) = b.hub.outlets.find? l := by
  cases found : b.hub.outlets.find? l with
  | none => rfl
  | some o => exact congrArg some (Outlet.watch_of_quiet (idle.quiet l o found))

theorem AtWork.reachable {deaths : List ListenerId} (work : b.AtWork deaths) : b.Reachable := by
  induction work with
  | start settings keeps file => exact .start settings keeps file
  | command _ c ends ih => exact ih.accept (.command c) ends
  | outlets _ moved _ ih => exact ih.outlets moved
  | report _ who ih =>
    refine ih.outlets (Hub.moved_mapValues _ (fun l o => ?_))
    split
    · exact .report (.rest _)
    · exact .rest o
  | @death b l _ _ ih => exact ih.accept (.death l) trivial

theorem contains_bury (b : Broker) (l : ListenerId) : (b.bury l).hub.contains l = false := by
  unfold bury
  split
  · rename_i there
    obtain ⟨owner, known⟩ := Hub.find?_of_contains there
    simp [dropListener_eq known, Hub.contains, Table.contains_erase]
  · rename_i absent
    simpa using absent

/-- A registered listener's death has still to be reported, if it comes, or still to be dealt with. -/
theorem AtWork.minded {deaths : List ListenerId} (work : b.AtWork deaths) :
    b.hub.Each (fun l _ o => o.watched = true ∨ l ∈ deaths) := by
  have stable (deaths : List ListenerId) :
      Hub.Stable (fun l _ o => o.watched = true ∨ l ∈ deaths) := {
    fresh := fun _ _ _ _ => .inl rfl
    attach := fun _ _ _ _ minded => minded
    detach := fun _ _ _ _ minded => minded
    enqueue := fun _ _ o n minded => by rwa [o.enqueue_watched n] }
  induction work with
  | start => exact fun l owner there => nomatch there
  | command _ c _ ih => exact (accept_calls _ (.command c)).each (stable _) ih
  | outlets _ moved unreported ih =>
    intro l owner there
    obtain ⟨o, found, minded⟩ := ih l owner there
    obtain ⟨p, after, -⟩ := moved.found_after found
    exact ⟨p, after, minded.imp_left (unreported l o p found after).trans⟩
  | @report b deaths _ who ih =>
    intro l owner there
    obtain ⟨o, found, minded⟩ := ih l owner there
    have after : (b.hub.outlets.mapValues (fun l o => if who l then o.watch.2 else o)).find? l =
        some (if who l then o.watch.2 else o) := by
      rw [Table.find?_mapValues, found]
      rfl
    refine ⟨_, after, ?_⟩
    -- What is reported now joins the queue, and where nothing is reported nothing has changed.
    rcases minded with watched | late
    · by_cases reports : who l = true ∧ o.watch.1 = true
      · refine .inr (List.mem_append_right _ (Table.mem_keys_iff.2 ?_))
        rw [Table.contains, Table.find?_filter, found, Option.filter_some]
        simp [reports]
      · left
        split
        · rename_i asked
          have silent : o.watch.1 = false := by simpa [asked] using reports
          rw [Outlet.watch_of_quiet silent]
          exact watched
        · exact watched
    · exact .inr (List.mem_append_left _ late)
  | @death b l deaths _ ih =>
    intro k owner there
    obtain ⟨o, found, minded⟩ := (accept_calls b (.death l)).each (stable _) ih k owner there
    refine ⟨o, found, minded.imp_right (fun late => ?_)⟩
    -- Whoever is still registered is not the one that has just been buried.
    rcases List.mem_cons.1 late with same | others
    · have gone := b.contains_bury l
      rw [Hub.contains, Table.contains, ← same, show (b.bury k).hub.listeners.find? k = some owner from
        same ▸ there] at gone
      cases gone
    · exact others

/-- Once all deaths are dealt with, nobody registered has gone. -/
theorem AtWork.connected (work : b.AtWork []) (idle : b.Idle) :
    b.hub.Each (fun _ _ o => o.sink.isConnected = true) := by
  intro l owner there
  obtain ⟨o, found, minded⟩ := work.minded l owner there
  have watched : o.watched = true := minded.resolve_right List.not_mem_nil
  rcases Outlet.watch_eq_false_iff.1 (idle.quiet l o found) with reported | connected
  · rw [watched] at reported
    cases reported
  · exact ⟨o, found, connected⟩

theorem AtWork.settle {deaths : List ListenerId} (work : b.AtWork deaths) :
    { b with hub := b.hub.settle }.AtWork deaths := by
  refine work.outlets (b.hub.moved_mapValues (fun _ => Outlet.moves_settle)) (fun l o p found settled => ?_)
  rw [Table.find?_mapValues, found] at settled
  cases settled
  exact o.settle_watched

theorem AtWork.disconnect {deaths : List ListenerId} (work : b.AtWork deaths) (l : ListenerId) :
    { b with hub := b.hub.disconnect l }.AtWork deaths := by
  refine work.outlets (b.hub.moved_disconnect l) (fun k o p found gone => ?_)
  rw [Table.find?_modify, found] at gone
  split at gone <;> cases gone <;> rfl

theorem AtWork.after {deaths : List ListenerId} (work : b.AtWork deaths) {commands : List Command}
    (ends : b.EndsAll (commands.map .command)) :
    (b.after (commands.map .command)).AtWork deaths := by
  induction commands generalizing b with
  | nil => exact work
  | cons c rest ih => exact ih (work.command c ends.1) ends.2

theorem AtWork.foldl_bury {dead : List ListenerId} (work : b.AtWork dead) :
    (dead.foldl bury b).AtWork [] := by
  induction dead generalizing b with
  | nil => exact work
  | cons l rest ih => exact ih work.death

theorem quiet_foldl_bury {dead : List ListenerId}
    (quiet : ∀ l o, b.hub.outlets.find? l = some o → o.watch.1 = false) :
    ∀ l o, (dead.foldl bury b).hub.outlets.find? l = some o → o.watch.1 = false := by
  induction dead generalizing b with
  | nil => exact quiet
  | cons k rest ih =>
    refine ih (fun l o found => ?_)
    unfold bury at found
    split at found
    · rename_i there
      obtain ⟨owner, known⟩ := Hub.find?_of_contains there
      rw [dropListener_eq known] at found
      dsimp only at found
      rw [Table.find?_modify] at found
      split at found
      · obtain ⟨p, -, rfl⟩ := Option.map_eq_some_iff.1 found
        exact Outlet.watch_eq_false_iff.2 (.inl rfl)
      · exact quiet l o found
    · exact quiet l o found

/-- Left to itself, a broker that owes no death comes to an idle state. -/
theorem AtWork.idle (work : b.AtWork []) : b.idle.AtWork [] ∧ b.idle.Idle := by
  have reported : { b with hub := b.hub.settle.reportDeaths.2 }.AtWork
      b.hub.settle.reportDeaths.1 := work.settle.report (fun _ => true)
  refine ⟨reported.foldl_bury.settle, fun l o found => ?_, fun l o found => ?_⟩
  · obtain ⟨p, -, rfl⟩ := Option.map_eq_some_iff.1 ((Table.find?_mapValues ..).symm.trans found)
    exact p.turn?_settle
  · obtain ⟨p, before, rfl⟩ := Option.map_eq_some_iff.1 ((Table.find?_mapValues ..).symm.trans found)
    have quiet := quiet_foldl_bury (b := { b with hub := b.hub.settle.reportDeaths.2 })
      (fun k q listed => by
        obtain ⟨r, -, rfl⟩ := Option.map_eq_some_iff.1 ((Table.find?_mapValues ..).symm.trans listed)
        exact r.watch_watch) l p before
    rw [Outlet.watch_eq_false_iff] at quiet ⊢
    rwa [p.settle_watched, p.settle_connected]

/-- A registered listener's set of requests, the set its deliveries look at, and the requests that
name it are the same; every request stands under its own id in the set of one listener; and in an
idle state, with no death left to deal with, the remote end of each listener is there. -/
theorem Reachable.partition (reached : b.Reachable) :
    (∀ l owner, b.hub.listeners.find? l = some owner →
      (∃ o, b.hub.outlets.find? l = some o ∧ o.live = owner.requests) ∧
      ∀ q, owner.requests.contains q = true ↔ ∃ r, b.matcher.find? q = some r ∧ r.listener = l) ∧
    (∀ q r, b.matcher.find? q = some r → r.id = q ∧
      (∃ owner, b.hub.listeners.find? r.listener = some owner ∧
        owner.requests.contains q = true) ∧
      ∀ l owner, b.hub.listeners.find? l = some owner → owner.requests.contains q = true →
        l = r.listener) ∧
    (b.AtWork [] → b.Idle →
      (∀ l, b.hub.contains l = true →
        ∃ o, b.hub.outlets.find? l = some o ∧ o.sink.isConnected = true) ∧
      ∀ q r, b.matcher.find? q = some r →
        ∃ o, b.hub.outlets.find? r.listener = some o ∧ o.sink.isConnected = true) := by
  have orderly := reached.orderly
  refine ⟨fun l owner there => ⟨reached.live l owner there, fun q => ⟨?_, ?_⟩⟩,
    fun q r found => ⟨orderly.requests q r found, orderly.owned q r found, ?_⟩,
    fun work idle => ⟨fun l there => ?_, fun q r found => ?_⟩⟩
  · exact orderly.owns l owner q there
  · rintro ⟨r, found, rfl⟩
    obtain ⟨same, known, has⟩ := orderly.owned q r found
    cases there.symm.trans known
    exact has
  · intro l owner there has
    obtain ⟨s, listed, rfl⟩ := orderly.owns l owner q there has
    rw [Option.some.inj (found.symm.trans listed)]
  · obtain ⟨owner, known⟩ := Hub.find?_of_contains there
    exact work.connected idle l owner known
  · obtain ⟨owner, known, _⟩ := orderly.owned q r found
    exact work.connected idle r.listener owner known

def deserted : Broker :=
  let b := (Broker.new {} false .absent).start.after ([
    .registerListener 10 (.newChannel 4),
    .registerListener 11 (.newChannel 4),
    .activate .request {} 1,
    .activate .listen {} 2,
    .activate .trackDefault {} 1].map .command)
  { b with hub := b.hub.disconnect 1 }

theorem deserted_atWork : deserted.AtWork [] :=
  ((AtWork.start {} false .absent).after (by decide)).disconnect 1

theorem partition_deserted : deserted.idle.Reachable ∧ deserted.idle.AtWork [] ∧
    deserted.idle.Idle ∧ deserted.idle.hub.contains 1 = false ∧
    deserted.idle.matcher.requests.keys = [2] ∧
    ∀ q r, deserted.idle.matcher.find? q = some r →
      ∃ o, deserted.idle.hub.outlets.find? r.listener = some o ∧ o.sink.isConnected = true := by
  obtain ⟨work, idle⟩ := deserted_atWork.idle
  refine ⟨work.reachable, work, idle, by decide, by decide, ?_⟩
  exact (Reachable.partition work.reachable).2.2 work idle |>.2

end Broker

end Connectivity
