import Connectivity.Broker.Desk
import Connectivity.Hub.Remote
import Connectivity.Proofs.Partition
import Connectivity.Proofs.Pipeline
/-! What becomes of a listener whose sink fails. It is the closing of the sink that is watched; a
failure ends the delivery and is reported to nobody. -/
namespace Connectivity

namespace Sink
variable {s t : Sink} {n : Notification}

def fails : Sink → Bool
  | channel _ _ connected => !connected
  | recorder left _ _ => left == some 0

theorem offer_of_fails (broken : s.fails = true) (n : Notification) : s.offer n = .refused := by
  cases s with
  | channel depth buffer connected =>
    simp only [fails] at broken
    simp only [offer, if_pos broken]
  | recorder left buffer connected =>
    have none_left : left = some 0 := by simpa [fails] using broken
    subst none_left
    rfl

theorem fails_of_offer (refused : s.offer n = .refused) : s.fails = true := by
  cases s with
  | channel depth buffer connected =>
    simp only [offer] at refused
    split at refused
    · assumption
    · split at refused <;> cases refused
  | recorder left buffer connected =>
    cases left with
    | none => cases refused
    | some left =>
      cases left with
      | zero => rfl
      | succ left => cases refused

theorem fails_disconnect (broken : s.fails = true) : s.disconnect.fails = true := by
  cases s with
  | channel depth buffer connected => rfl
  | recorder left buffer connected => exact broken

theorem read?_fails (taken : s.read? = some (n, t)) : t.fails = s.fails := by
  cases s with
  | channel depth buffer connected => cases buffer <;> cases taken; rfl
  | recorder left buffer connected => cases buffer <;> cases taken; rfl

/-- A channel fails only once it has closed. -/
theorem not_isChannel_of_fails (broken : s.fails = true) (connected : s.isConnected = true) :
    s.isChannel = false := by
  cases s with
  | channel depth buffer open_ =>
    simp only [isConnected] at connected
    simp [fails, connected] at broken
  | recorder left buffer open_ => rfl

end Sink

def Outlet.breaks (o : Outlet) : Bool := o.phase != .ended && o.fails

theorem Outlet.breaks_iff {o : Outlet} : o.breaks = true ↔
    o.phase ≠ .ended ∧ ∃ n, o.hand = some n ∧ o.sink.offer n = .refused := by
  cases hand : o.hand with
  | none => simp [breaks, fails, hand]
  | some n => cases offered : o.sink.offer n <;> simp [breaks, fails, hand, offered]

/-- The outlet of a registered listener, by whether its sink has failed. -/
structure Outlet.Stands (failed : Bool) (o : Outlet) : Prop where
  active : o.phase ≠ .draining
  ended : failed = true ↔ o.phase = .ended
  broken : failed = true → o.sink.fails = true
  empty : failed = true → o.queue = [] ∧ o.hand = none

namespace Outlet.Stands
variable {failed : Bool} {o p : Outlet}

theorem new (capacity : Nat) (sink : Sink) : Stands false { capacity, sink } where
  active := by simp
  ended := by simp
  broken := by simp
  empty := by simp

theorem enqueue (stands : Stands failed o) (n : Notification) : Stands failed (o.enqueue n) := by
  unfold Outlet.enqueue
  split
  · rename_i takes
    have fine : failed ≠ true := by
      intro bad
      rw [stands.ended.1 bad] at takes
      cases takes.1
    exact ⟨stands.active, stands.ended, stands.broken, fun bad => absurd bad fine⟩
  · exact stands

theorem foldl_enqueue (stands : Stands failed o) (sent : List Notification) :
    Stands failed (sent.foldl Outlet.enqueue o) := by
  induction sent generalizing o with
  | nil => exact stands
  | cons n rest ih => exact ih (stands.enqueue n)

theorem going (stands : Stands failed o) (turned : o.turn? = some p) :
    o.phase ≠ .ended ∧ failed = false := by
  have going : o.phase ≠ .ended := by
    intro ended
    simp [Outlet.turn?, ended] at turned
  refine ⟨going, Bool.eq_false_iff.2 (fun bad => going (stands.ended.1 bad))⟩

theorem turn (stands : Stands failed o) : Stands (failed || o.breaks) (o.turn?.getD o) := by
  cases turned : o.turn? with
  | none =>
    have whole : o.breaks = false := by
      cases breaks : o.breaks with
      | false => rfl
      | true =>
        obtain ⟨going, n, hand, refused⟩ := breaks_iff.1 breaks
        simp [Outlet.turn?, going, hand, refused] at turned
    rw [whole, Bool.or_false]
    exact stands
  | some p =>
    -- The sink has not failed before this move, or there would be none.
    obtain ⟨going, rfl⟩ := stands.going turned
    rw [Bool.false_or]
    rcases turn?_cases turned with ⟨n, sink, hand, taken, rfl⟩ | ⟨n, hand, refused, rfl⟩ |
      ⟨n, queue, hand, more, rfl⟩ | ⟨draining, rfl⟩
    · have whole : o.breaks = false := by simp [Outlet.breaks, Outlet.fails, hand, taken]
      rw [whole]
      exact ⟨stands.active, stands.ended, by simp, by simp⟩
    · have breaks : o.breaks = true := breaks_iff.2 ⟨going, n, hand, refused⟩
      rw [breaks]
      exact ⟨by simp, by simp, fun _ => Sink.fails_of_offer refused, by simp⟩
    · have whole : o.breaks = false := by simp [Outlet.breaks, Outlet.fails, hand]
      rw [whole]
      exact ⟨stands.active, stands.ended, by simp, by simp⟩
    · exact absurd draining stands.active

theorem read (stands : Stands failed o) : Stands failed o.read := by
  unfold Outlet.read
  split
  · rename_i taken
    have broken (bad : failed = true) := (Sink.read?_fails taken).trans (stands.broken bad)
    exact ⟨stands.active, stands.ended, broken, stands.empty⟩
  · exact stands

theorem disconnect (stands : Stands failed o) :
    Stands failed { o with sink := o.sink.disconnect } :=
  ⟨stands.active, stands.ended, fun bad => Sink.fails_disconnect (stands.broken bad), stands.empty⟩

theorem watch (stands : Stands failed o) : Stands failed o.watch.2 := by
  unfold Outlet.watch
  split
  · exact ⟨stands.active, stands.ended, stands.broken, stands.empty⟩
  · exact stands

end Outlet.Stands

namespace Broker
variable {b : Broker} {l : ListenerId}

/-- Who is registered changes by registering and unregistering alone. -/
theorem Carried.contains {c : Command} {a : Answer} {t : Turn} (carried : b.Carried c a t)
    (l : ListenerId) : t.broker.hub.contains l = b.hub.contains l ∨
      (∃ uid sink, c = .registerListener uid sink ∧ a = .id l) ∨
      (c = .unregisterListener l ∧ b.hub.contains l = true) := by
  have same {t : Turn} {p : Broker} (start : t.From p)
      (before : p.hub.listeners = b.hub.listeners) :
      t.broker.hub.contains l = b.hub.contains l := by
    rw [Hub.contains, start.kept.listeners, before]
    rfl
  cases carried with
  | registered | informed => exact .inl (same ((Turn.From.begin _).reevaluate _) rfl)
  | unregistered system known done gone cleared =>
    exact .inl (same ((Turn.From.callDevice_if cleared).reevaluate _) rfl)
  | equipped => exact .inl (same (((Turn.From.begin _).reevaluate _).equip _ _ _ _) rfl)
  | linked =>
    exact .inl (same ((((Turn.From.begin _).callDevice _).reevaluate _).tell _ _ _) rfl)
  | @joined uid sink k hub done =>
    by_cases here : l = k
    · exact .inr (.inl ⟨uid, sink, rfl, by rw [here]⟩)
    · left
      change hub.contains l = b.hub.contains l
      rw [Hub.contains, (Hub.register_eq_ok done).2.2, Table.contains_insert, decide_eq_false here]
      rfl
  | @left k there =>
    by_cases here : l = k
    · exact .inr (.inr (by rw [here]; exact ⟨rfl, there⟩))
    · left
      obtain ⟨owner, known⟩ := Hub.find?_of_contains there
      change (b.dropListener k).hub.contains l = b.hub.contains l
      simp [dropListener_eq known, Hub.contains, Table.contains_erase, here]
  | @activated kind specifier k hub sound done =>
    have start := (Turn.From.begin (b.withRequest kind specifier k hub)).reevaluate
      (.request (b.matcher.activate kind specifier k).1)
    left
    change (((b.withRequest kind specifier k hub).begin.reevaluate _).broker.hub).contains l = _
    rw [Hub.contains, start.kept.listeners]
    change hub.listeners.contains l = _
    rw [(Hub.attach_eq_ok done).2, Table.contains_modify]
    rfl
  | @deactivated caller id r found allowed =>
    left
    change (b.hub.detach r.listener id).contains l = _
    unfold Hub.detach
    split
    · exact Table.contains_modify ..
    · rfl
  | policed system done changed | restricted system done changed | grounded system done changed =>
    left
    cases changed with
    | idle access => rfl
    | told access => exact same ((Turn.From.begin _).announce _).reelect rfl
  | known | looked | counted => exact .inl rfl

theorem Reachable.covers (reached : b.Reachable) {o : Outlet}
    (found : b.hub.outlets.find? l = some o) : b.Covers l o.live := by
  rintro q r known rfl
  obtain ⟨owner, there, has⟩ := reached.orderly.owned q r known
  obtain ⟨p, listed, live⟩ := reached.live r.listener owner there
  rw [Option.some.inj (found.symm.trans listed), live]
  exact has

end Broker

namespace Desk
variable {d : Desk} {failed : IdSet} {l : ListenerId}

/-- The listeners whose sink has failed since they were registered, after one more step. -/
def broken (d : Desk) (failed : IdSet) : DeskStep → IdSet
  | .turn l => if (d.outlet? l).any (·.breaks) then failed.insert l else failed
  | .command (.registerListener uid sink) =>
    match (d.broker.step (.registerListener uid sink)).reply with
    | .ok (.id l) => failed.erase l
    | _ => failed
  | _ => failed

def Ends (d : Desk) : DeskStep → Prop
  | .command c => d.broker.Ends (.command c)
  | _ => True

/-- The states of a desk, and the listeners whose sink has failed since they were registered. -/
inductive Ran : Desk → IdSet → Prop where
  | start (settings : BrokerSettings) (keeps : Bool) (file : PolicyFile) :
      Ran { broker := (Broker.new settings keeps file).start } .empty
  | act {d : Desk} {failed : IdSet} (earlier : Ran d failed) (s : DeskStep) (ends : d.Ends s) :
      Ran (d.act s).2 (d.broken failed s)

theorem atHub_atWork {k : ListenerId} {f : Outlet → Outlet} {hub : Hub}
    (work : d.broker.AtWork d.deaths)
    (modified : hub = { d.broker.hub with outlets := d.broker.hub.outlets.modify k f })
    (moves : ∀ o : Outlet, o.Moves (f o)) (watched : ∀ o : Outlet, (f o).watched = o.watched) :
    { d.broker with hub }.AtWork d.deaths := by
  subst modified
  refine work.outlets (d.broker.hub.moved_mapValues (fun j o => ?_)) (fun j o p found after => ?_)
  · split
    · exact moves o
    · exact .rest o
  · rw [Table.find?_modify, found] at after
    split at after
    · cases after
      exact watched o
    · cases after
      rfl

theorem Ran.atWork (ran : Ran d failed) : d.broker.AtWork d.deaths := by
  induction ran with
  | start settings keeps file => exact .start settings keeps file
  | @act d failed _ s ends ih =>
    cases s with
    | command c => exact ih.command c ends
    | death =>
      obtain ⟨b, deaths⟩ := d
      cases deaths with
      | nil => exact ih
      | cons l rest => exact ih.death
    | turn k =>
      refine atHub_atWork ih rfl (fun o => ?_) (fun o => ?_)
      · cases turned : o.turn? with
        | none => exact .rest o
        | some p => exact .deliver turned (.rest p)
      · cases turned : o.turn? with
        | none => rfl
        | some p => exact (Outlet.turn?_kept turned).2
    | read k =>
      refine atHub_atWork ih rfl (fun o => ?_) (fun o => ?_)
      · unfold Outlet.read
        split
        · rename_i taken
          exact .read taken (.rest _)
        · exact .rest o
      · unfold Outlet.read
        split <;> rfl
    | disconnect k =>
      exact atHub_atWork ih rfl (fun o => .disconnect (.rest _)) (fun o => rfl)
    | report k =>
      have reported := ih.report (fun j => decide (j = k))
      rw [Table.keys_filter_at] at reported
      simp only [decide_eq_true_eq] at reported
      change ({ d.broker with hub := d.broker.hub.act (.report k) } : Broker).AtWork
        (if (d.outlet? k).any (·.watch.1) then d.deaths ++ [k] else d.deaths)
      split
      · rename_i reports
        rw [outlet?] at reports
        rw [if_pos reports] at reported
        exact reported
      · rename_i silent
        rw [outlet?] at silent
        rw [if_neg silent, List.append_nil] at reported
        exact reported

def Stands (d : Desk) (failed : IdSet) : Prop :=
  ∀ l, d.broker.hub.contains l = true → ∃ o, d.outlet? l = some o ∧ o.Stands (failed.contains l)

theorem Stands.atHub (stands : d.Stands failed) {k : ListenerId} {f : Outlet → Outlet} {hub : Hub}
    {after : IdSet} {deaths : List ListenerId}
    (modified : hub = { d.broker.hub with outlets := d.broker.hub.outlets.modify k f })
    (here : ∀ o, d.outlet? k = some o → o.Stands (failed.contains k) →
      (f o).Stands (after.contains k))
    (others : ∀ l, l ≠ k → after.contains l = failed.contains l) :
    ({ broker := { d.broker with hub }, deaths } : Desk).Stands after := by
  subst modified
  intro l there
  obtain ⟨o, found, marks⟩ := stands l there
  change ∃ p, (d.broker.hub.outlets.modify k f).find? l = some p ∧ p.Stands (after.contains l)
  rw [Table.find?_modify]
  by_cases same : l = k
  · subst same
    rw [outlet?] at found
    exact ⟨f o, by rw [if_pos rfl, found]; rfl, here o found marks⟩
  · rw [if_neg same]
    exact ⟨o, found, by rw [others l same]; exact marks⟩

theorem Stands.command (stands : d.Stands failed) (reached : d.broker.Reachable) {c : Command}
    (ends : d.broker.Ends (.command c)) :
    (d.act (.command c)).2.Stands (d.broken failed (.command c)) := by
  intro l still
  change ((d.broker.accept (.command c)).broker).hub.contains l = true at still
  change ∃ o, ((d.broker.accept (.command c)).broker).hub.outlets.find? l = some o ∧ _
  by_cases there : d.broker.hub.contains l = true
  · obtain ⟨o, found, marks⟩ := stands l there
    obtain ⟨live, after, -⟩ := (Broker.served_accept reached.orderly there found
      (reached.covers found) _ ends still).outlet
    have unchanged : (d.broken failed (.command c)).contains l = failed.contains l := by
      cases c with
      | registerListener uid sink =>
        simp only [broken]
        split
        · rename_i k answered
          obtain ⟨hub, registered, -⟩ := Broker.accept_registerListener answered
          rw [Table.contains_erase, decide_eq_true (Broker.ne_of_registered ends registered there)]
          rfl
        · rfl
      | _ => rfl
    rw [unchanged]
    refine ⟨_, after, Outlet.Stands.foldl_enqueue ?_ _⟩
    exact ⟨marks.active, marks.ended, marks.broken, marks.empty⟩
  · -- Whoever is new has just been registered.
    rcases d.broker.accept_cases (.command c) with same | ⟨_, a, same, carried, answered⟩ |
      ⟨_, same, _⟩
    · rw [same] at still
      exact absurd still there
    · cases same
      rcases carried.contains l with same | ⟨uid, sink, rfl, rfl⟩ | ⟨-, registered⟩
      · exact absurd (same.symm.trans still) there
      · obtain ⟨hub, registered, turned⟩ := Broker.accept_registerListener answered
        have put : hub.outlets.find? l = some { capacity := d.broker.hub.queueDepth, sink } := by
          rw [(Hub.register_outlets registered).2, Table.find?_insert, if_pos rfl]
        rw [turned]
        refine ⟨_, put, ?_⟩
        simp only [broken, answered, Table.contains_erase, ne_eq, not_true_eq_false, decide_false,
          Bool.false_and]
        exact .new _ sink
      · exact absurd registered there
    · cases same

theorem Stands.death (stands : d.Stands failed) (reached : d.broker.Reachable) :
    (d.act .death).2.Stands failed := by
  obtain ⟨b, deaths⟩ := d
  cases deaths with
  | nil => exact stands
  | cons k rest =>
    intro l still
    have other : l ≠ k := by
      rintro rfl
      have gone := b.contains_bury l
      rw [show (b.bury l).hub.contains l = true from still] at gone
      cases gone
    have spared := Broker.spares_bury reached.orderly other
    obtain ⟨o, found, marks⟩ := stands l (spared.listener.symm.trans still)
    exact ⟨o, spared.outlet.trans found, marks⟩

theorem Ran.stands (ran : Ran d failed) : d.Stands failed := by
  induction ran with
  | start => exact fun l there => nomatch there
  | @act d failed earlier s ends ih =>
    cases s with
    | command c => exact ih.command earlier.atWork.reachable ends
    | death => exact ih.death earlier.atWork.reachable
    | turn k =>
      refine ih.atHub rfl (fun o found marks => ?_) (fun l other => ?_)
      · have noted : (d.broken failed (.turn k)).contains k = (failed.contains k || o.breaks) := by
          simp only [broken, found, Option.any_some]
          cases o.breaks with
          | true => simp [IdSet.contains_insert]
          | false => simp
        rw [noted]
        exact marks.turn
      · simp only [broken]
        split
        · rw [IdSet.contains_insert, decide_eq_false other]
          rfl
        · rfl
    | read k => exact ih.atHub rfl (fun o _ marks => marks.read) (fun _ _ => rfl)
    | disconnect k => exact ih.atHub rfl (fun o _ marks => marks.disconnect) (fun _ _ => rfl)
    | report k => exact ih.atHub rfl (fun o _ marks => marks.watch) (fun _ _ => rfl)

/-- A listener leaves when it is unregistered or when its death is dealt with, and a failure of its
sink is neither. -/
theorem leaves_of_act {s : DeskStep} (there : d.broker.hub.contains l = true)
    (left : (d.act s).2.broker.hub.contains l = false) :
    s = .command (.unregisterListener l) ∨ (s = .death ∧ d.deaths.head? = some l) := by
  have stays (same : (d.act s).2.broker.hub.contains l = d.broker.hub.contains l) : False := by
    rw [left, there] at same
    cases same
  cases s with
  | command c =>
    rcases d.broker.accept_cases (.command c) with same | ⟨_, a, same, carried, answered⟩ |
      ⟨_, same, _⟩
    · exact (stays (congrArg (fun t => t.broker.hub.contains l) same)).elim
    · cases same
      rcases carried.contains l with same | ⟨uid, sink, rfl, rfl⟩ | ⟨rfl, -⟩
      · exact (stays same).elim
      · obtain ⟨hub, registered, turned⟩ := Broker.accept_registerListener answered
        refine (stays ?_).elim
        change (d.broker.accept (.command (.registerListener uid sink))).broker.hub.contains l = _
        rw [turned, there]
        change hub.listeners.contains l = true
        rw [(Hub.register_eq_ok registered).2.2, Table.contains_insert]
        simp
      · exact .inl rfl
    · cases same
  | death =>
    obtain ⟨b, deaths⟩ := d
    cases deaths with
    | nil => exact (stays rfl).elim
    | cons k rest =>
      by_cases here : l = k
      · exact .inr ⟨rfl, by rw [here]; rfl⟩
      · have kept : (b.bury k).hub.contains l = b.hub.contains l := by
          unfold Broker.bury
          split
          · rename_i known
            obtain ⟨owner, known⟩ := Hub.find?_of_contains known
            simp [Broker.dropListener_eq known, Hub.contains, Table.contains_erase, here]
          · rfl
        exact (stays kept).elim
  | turn | read | disconnect | report => exact (stays rfl).elim

/-- Once all deaths are dealt with and nothing moves, a listener whose sink has failed is gone, with
all its requests, if the sink has closed too, as a channel that fails has. A listener whose sink has
failed and stays open keeps its place: the delivery is over, and whatever is sent is lost. No step
but unregistering a listener and dealing with its death ever removes it. -/
theorem Ran.unreachable (ran : Ran d failed) (idle : d.broker.Idle) (done : d.deaths = []) :
    (∀ l o, failed.contains l = true → d.outlet? l = some o →
      o.sink.isConnected = false ∨ o.sink.isChannel = true →
        d.broker.hub.contains l = false ∧
          ∀ q r, d.broker.matcher.find? q = some r → r.listener ≠ l) ∧
    (∀ l, d.broker.hub.contains l = true → ∃ o, d.outlet? l = some o ∧
      o.sink.isConnected = true ∧ (failed.contains l = true ↔ o.phase = .ended) ∧
      (failed.contains l = true → o.sink.isChannel = false ∧
        ∀ n, o.sink.offer n = .refused ∧ o.enqueue n = o)) ∧
    ∀ l s, d.broker.hub.contains l = true → (d.act s).2.broker.hub.contains l = false →
      s = .command (.unregisterListener l) ∨ (s = .death ∧ d.deaths.head? = some l) := by
  have work := ran.atWork
  rw [done] at work
  have registered : ∀ l, d.broker.hub.contains l = true → ∃ o, d.outlet? l = some o ∧
      o.sink.isConnected = true ∧ o.Stands (failed.contains l) := by
    intro l there
    obtain ⟨o, found, marks⟩ := ran.stands l there
    obtain ⟨owner, known⟩ := Hub.find?_of_contains there
    obtain ⟨p, listed, connected⟩ := work.connected idle l owner known
    rw [Option.some.inj (listed.symm.trans found)] at connected
    exact ⟨o, found, connected, marks⟩
  refine ⟨fun l o bad found closed => ?_, fun l there => ?_, fun l s => leaves_of_act⟩
  · have gone : d.broker.hub.contains l = false := by
      cases there : d.broker.hub.contains l with
      | false => rfl
      | true =>
        obtain ⟨p, listed, connected, marks⟩ := registered l there
        cases found.symm.trans listed
        have open_ := Sink.not_isChannel_of_fails (marks.broken bad) connected
        rcases closed with closed | channel
        · exact absurd (closed.symm.trans connected) Bool.false_ne_true
        · exact absurd (open_.symm.trans channel) Bool.false_ne_true
    refine ⟨gone, fun q r known => ?_⟩
    rintro rfl
    obtain ⟨owner, there, -⟩ := work.reachable.orderly.owned q r known
    rw [Hub.contains, Table.contains, there] at gone
    cases gone
  · obtain ⟨o, found, connected, marks⟩ := registered l there
    refine ⟨o, found, connected, marks.ended, fun bad => ⟨?_, fun n => ⟨?_, ?_⟩⟩⟩
    · exact Sink.not_isChannel_of_fails (marks.broken bad) connected
    · exact Sink.offer_of_fails (marks.broken bad) n
    · rw [Outlet.enqueue, if_neg (fun takes => ?_)]
      rw [marks.ended.1 bad] at takes
      cases takes.1

def follow (d : Desk) (failed : IdSet) : List DeskStep → Desk × IdSet
  | [] => (d, failed)
  | s :: rest => (d.act s).2.follow (d.broken failed s) rest

def EndsAll (d : Desk) : List DeskStep → Prop
  | [] => True
  | s :: rest => d.Ends s ∧ (d.act s).2.EndsAll rest

instance (d : Desk) : (s : DeskStep) → Decidable (d.Ends s)
  | .command c => inferInstanceAs (Decidable (d.broker.Ends (.command c)))
  | .death | .turn _ | .read _ | .disconnect _ | .report _ => .isTrue trivial

instance decidableEndsAll : (d : Desk) → (steps : List DeskStep) → Decidable (d.EndsAll steps)
  | _, [] => .isTrue trivial
  | d, s :: rest =>
    have := decidableEndsAll (d.act s).2 rest
    inferInstanceAs (Decidable (d.Ends s ∧ (d.act s).2.EndsAll rest))

theorem Ran.follow (ran : Ran d failed) {steps : List DeskStep} (ends : d.EndsAll steps) :
    Ran (d.follow failed steps).1 (d.follow failed steps).2 := by
  induction steps generalizing d failed with
  | nil => exact ran
  | cons s rest ih => exact ih (ran.act s ends.1) ends.2

theorem idle_of_values (still : ∀ o ∈ d.broker.hub.outlets.values, o.turn? = none)
    (quiet : ∀ o ∈ d.broker.hub.outlets.values, o.watch.1 = false) : d.broker.Idle where
  still := fun l o found => still o (Table.mem_values_iff.2 ⟨l, found⟩)
  quiet := fun l o found => quiet o (Table.mem_values_iff.2 ⟨l, found⟩)

def toldThrough (sink : Sink) : List DeskStep := [
  .command (.registerSupplier 0 .wifi "lan" ⟨0⟩),
  .command (.registerListener 10 sink),
  .command (.activate .request {} 1),
  .command (.updateInfo 0 1 { isAvailable := true, signalStrength := 60 }),
  .turn 1]

def emptyDesk : Desk := { broker := (Broker.new {} false .absent).start }

def closing : Desk × IdSet := emptyDesk.follow .empty
  (toldThrough (.newChannel 1) ++ [.disconnect 1, .turn 1, .report 1, .death])

theorem unreachable_closing : Ran closing.1 closing.2 ∧ closing.2.contains 1 = true ∧
    closing.1.broker.hub.contains 1 = false ∧
    ∀ q r, closing.1.broker.matcher.find? q = some r → r.listener ≠ 1 := by
  have ran : Ran closing.1 closing.2 := Ran.follow (.start {} false .absent) (by decide)
  have idle : closing.1.broker.Idle := idle_of_values (by decide) (by decide)
  obtain ⟨gone, -, -⟩ := ran.unreachable idle (by decide)
  have bad : closing.2.contains 1 = true := by decide
  have delivery : ∃ o, closing.1.outlet? 1 = some o := Option.isSome_iff_exists.1 (by decide)
  obtain ⟨o, found⟩ := delivery
  have closed : o.sink.isConnected = false := by
    cases found
    decide
  exact ⟨ran, bad, gone 1 o bad found (.inl closed)⟩

/-- A sink that fails at once, and stays open. -/
def failing : Desk × IdSet :=
  emptyDesk.follow .empty (toldThrough (.newRecorder (some 0)) ++ [.turn 1])

/-- It is registered, its sink has failed, and its request is bound and announced to nobody. -/
theorem unreachable_failing : Ran failing.1 failing.2 ∧ failing.1.broker.Idle ∧
    failing.1.deaths = [] ∧ failing.1.broker.hub.contains 1 = true ∧
    failing.2.contains 1 = true ∧ failing.1.broker.status.listeners = 1 ∧
    failing.1.broker.matcher.find? 1 = some
      { id := 1, kind := .request, specifier := {}, listener := 1, bound := some 1
        announced := some 1 } :=
  ⟨Ran.follow (.start {} false .absent) (by decide), idle_of_values (by decide) (by decide),
    by decide, by decide, by decide, by decide, by decide⟩

end Desk

end Connectivity
