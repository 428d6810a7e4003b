import Connectivity.Deployment
import Connectivity.Proofs.Opening
/-! What a client reads off its stream. Whatever else goes on, the two ids come first, and each
notification after them is about the stream's request, or about one that somebody has activated for
the same listener since; no request over HTTP does that. -/
namespace Connectivity

namespace Outlet
variable {o p : Outlet} {n : Notification}

/-- The notification is on its way or has arrived, and was not read. -/
def Holds (o : Outlet) (n : Notification) : Prop := n ∈ o.sink.buffer ∨ o.Awaits n

theorem holds_of_turn? (turned : o.turn? = some p) (holds : p.Holds n) : o.Holds n := by
  rcases holds with arrived | awaits
  · rcases turn?_cases turned with ⟨m, sink, hand, taken, rfl⟩ | ⟨m, hand, refused, rfl⟩ |
      ⟨m, queue, hand, more, rfl⟩ | ⟨draining, rfl⟩
    · rw [(Sink.offer_taken taken).1] at arrived
      rcases List.mem_append.1 arrived with before | now
      · exact .inl before
      · rw [List.mem_singleton.1 now]
        exact .inr (.inl hand)
    · exact .inl arrived
    · exact .inl arrived
    · exact .inl arrived
  · exact .inr (awaits_of_turn? turned awaits)

theorem Moves.holds (moves : o.Moves p) (holds : p.Holds n) : o.Holds n := by
  induction moves with
  | rest => exact holds
  | deliver turned _ ih => exact holds_of_turn? turned (ih holds)
  | read taken _ ih =>
    refine (ih holds).imp_left (fun left => ?_)
    rw [Sink.read?_eq_some taken |>.1]
    exact List.mem_cons_of_mem _ left
  | @disconnect o _ _ ih =>
    refine (ih holds).imp_left (fun left => ?_)
    cases sink : o.sink with
    | channel => rw [sink] at left; cases left
    | recorder => rw [sink] at left; exact left
  | @report o _ _ ih =>
    have before := ih holds
    unfold watch at before
    split at before <;> exact before

theorem holds_of_receive {limit : Nat} (read : n ∈ (o.receive limit).1) : o.Holds n := by
  induction limit generalizing o with
  | zero => cases read
  | succ limit ih =>
    unfold receive at read
    split at read
    · cases read
    · rename_i m sink taken
      rcases List.mem_cons.1 read with rfl | later
      · rw [Holds, (Sink.read?_eq_some taken).1]
        exact .inl List.mem_cons_self
      · exact (Moves.read taken (moves_settle _)).holds (ih later)

end Outlet

/-- Nothing has come yet to the sink of a listener that joins. -/
def Command.JoinsEmpty : Command → Prop
  | .registerListener _ sink => sink.buffer = []
  | _ => True

/-- The request that a command, answered so, has given to `l`, if it has given one. -/
def Command.gives (l : ListenerId) (c : Command) (reply : Except Refusal Answer) :
    List RequestId :=
  match c with
  | .activate _ _ k =>
    match reply with
    | .ok (.id q) => if k = l then [q] else []
    | _ => []
  | _ => []

namespace Hub
variable {h g : Hub} {l : ListenerId} {p : Outlet} {n : Notification}

def Arrived (h g : Hub) : Prop := ∀ l p n, g.outlets.find? l = some p → n ∈ p.sink.buffer →
  ∃ o, h.outlets.find? l = some o ∧ n ∈ o.sink.buffer

theorem arrived_of_outlets (same : g.outlets = h.outlets) : h.Arrived g :=
  fun _ p _ found arrived => ⟨p, same ▸ found, arrived⟩

theorem Arrived.trans {k : Hub} (first : h.Arrived g) (last : g.Arrived k) : h.Arrived k := by
  intro l p n found arrived
  obtain ⟨o, there, before⟩ := last l p n found arrived
  exact first l o n there before

theorem arrived_modify {k : ListenerId} {f : Outlet → Outlet}
    (outlets : g.outlets = h.outlets.modify k f) (sink : ∀ o, (f o).sink = o.sink) :
    h.Arrived g := by
  intro l p n found arrived
  rw [outlets, Table.find?_modify] at found
  split at found
  · obtain ⟨o, there, rfl⟩ := Option.map_eq_some_iff.1 found
    exact ⟨o, there, sink o ▸ arrived⟩
  · exact ⟨p, found, arrived⟩

/-- No call of the broker puts anything into a sink. -/
theorem arrived_act {s : HubStep} (call : s.isCall = true)
    (empty : ∀ uid sink, s = .register uid sink → sink.buffer = []) : h.Arrived (h.act s) := by
  cases s with
  | register uid sink =>
    simp only [act]
    split
    · rename_i k g done
      intro l p n found arrived
      rw [(register_outlets done).2, Table.find?_insert] at found
      split at found
      · cases found
        rw [empty uid sink rfl] at arrived
        cases arrived
      · exact ⟨p, found, arrived⟩
    · exact arrived_of_outlets rfl
  | remove k =>
    simp only [act, remove]
    split
    · exact arrived_of_outlets rfl
    · exact arrived_modify (f := Outlet.drain) rfl (fun _ => rfl)
  | attach k q =>
    simp only [act]
    split
    · rename_i done
      exact arrived_modify (attach_outlets done).2 (fun _ => rfl)
    · exact arrived_of_outlets rfl
  | detach k q =>
    simp only [act, detach]
    split
    · exact arrived_modify (f := (·.detach q)) rfl (fun _ => rfl)
    · exact arrived_of_outlets rfl
  | send k n =>
    simp only [act, send]
    split
    · refine arrived_modify (f := (·.enqueue n)) rfl (fun o => ?_)
      unfold Outlet.enqueue
      split <;> rfl
    · exact arrived_of_outlets rfl
  | turn | read | disconnect | report | shutdown => cases call

theorem arrived_sendAll (h : Hub) (sent : List (ListenerId × Notification)) :
    h.Arrived (h.sendAll sent) := by
  induction sent generalizing h with
  | nil => exact arrived_of_outlets rfl
  | cons s rest ih =>
    have here : h.Arrived (h.send s.1 s.2) := arrived_act (s := .send s.1 s.2) rfl nofun
    exact here.trans (ih _)

end Hub

namespace Broker
variable {b : Broker} {l : ListenerId} {n : Notification}

theorem accept_arrived {i : Input} (empty : ∀ c, i = .command c → c.JoinsEmpty) :
    b.hub.Arrived (b.accept i).broker.hub := by
  obtain ⟨p, start, called⟩ := b.accept_called i
  rw [start.hub]
  have before : b.hub.Arrived p.hub := by
    rcases called with same | ⟨s, makes, made⟩
    · exact Hub.arrived_of_outlets (congrArg _ same)
    · rw [made]
      refine Hub.arrived_act (by cases makes <;> rfl) ?_
      rintro uid sink rfl
      cases makes
      exact empty _ rfl
  exact before.trans (p.hub.arrived_sendAll _)

theorem accept_holds {i : Input} (empty : ∀ c, i = .command c → c.JoinsEmpty) {p : Outlet}
    (found : (b.accept i).broker.hub.outlets.find? l = some p) (holds : p.Holds n) :
    (∃ o, b.hub.outlets.find? l = some o ∧ o.Holds n) ∨ (l, n) ∈ (b.accept i).deeds.sent := by
  rcases holds with arrived | taken | queued
  · obtain ⟨o, there, before⟩ := accept_arrived empty l p n found arrived
    exact .inl ⟨o, there, .inl before⟩
  · obtain ⟨o, there, before⟩ := (b.accept_fed i).hand l p n found taken
    exact .inl ⟨o, there, .inr (.inl before)⟩
  · exact ((b.accept_fed i).queue l p n found queued).imp_left
      (fun ⟨o, there, before⟩ => ⟨o, there, .inr (.inr before)⟩)

theorem Carried.given {c : Command} {a : Answer} {t : Turn} (carried : b.Carried c a t)
    (orderly : b.Orderly) {q : RequestId} {r : ActiveRequest}
    (after : t.broker.matcher.find? q = some r) :
    (∃ p, b.matcher.find? q = some p ∧ p.listener = r.listener) ∨
      q ∈ c.gives r.listener (.ok a) := by
  rcases carried.origin orderly after with ⟨p, earlier, bare⟩ | ⟨rfl, rfl, _⟩
  · exact .inl ⟨p, earlier, (ActiveRequest.bare_eq_iff.1 bare).2.2.2.symm⟩
  · exact .inr (by simp [Command.gives])

end Broker

/-- All that listener `l` has, and all that is there for it to read, is about these requests. -/
structure Service.Devotes (s : Service) (l : ListenerId) (ids : List RequestId) : Prop where
  reachable : s.stage = .serving → s.broker.Reachable
  owned : ∀ q r, s.broker.matcher.find? q = some r → r.listener = l → q ∈ ids
  held : ∀ o n, s.broker.hub.outlets.find? l = some o → o.Holds n → n.request ∈ ids

namespace Service.Devotes
variable {s : Service} {l : ListenerId} {ids : List RequestId}

theorem outlets (devotes : s.Devotes l ids) {outlets : Table Outlet}
    (moved : s.broker.hub.Moved outlets) :
    ({ s with broker := s.broker.withOutlets outlets } : Service).Devotes l ids where
  reachable serving := (devotes.reachable serving).outlets moved
  owned := devotes.owned
  held p n found holds := by
    have present : s.broker.hub.outlets.contains l = true := by
      rw [← moved.1, Table.contains_eq_true_iff]
      exact ⟨p, found⟩
    obtain ⟨o, there⟩ := Table.contains_eq_true_iff.1 present
    exact devotes.held o n there ((moved.2 l o p there found).holds holds)

/-- A broker that takes an input gives `l` what the input gives it, and tells `l` of its own
requests only. -/
theorem accept (devotes : s.Devotes l ids) (serving : s.stage = .serving) {i : Input}
    (ends : s.broker.Ends i) (empty : ∀ c, i = .command c → c.JoinsEmpty) {more : List RequestId}
    (given : ∀ q r, (s.broker.accept i).broker.matcher.find? q = some r → r.listener = l →
      (∃ p, s.broker.matcher.find? q = some p ∧ p.listener = l) ∨ q ∈ more) :
    ({ s with broker := (s.broker.accept i).broker } : Service).Devotes l (ids ++ more) := by
  have reached := devotes.reachable serving
  have owned : ∀ q r, (s.broker.accept i).broker.matcher.find? q = some r → r.listener = l →
      q ∈ ids ++ more := by
    intro q r found own
    rcases given q r found own with ⟨p, there, same⟩ | new
    · exact List.mem_append_left more (devotes.owned q p there same)
    · exact List.mem_append_right ids new
  refine ⟨fun _ => reached.accept i ends, owned, fun p n found holds => ?_⟩
  rcases Broker.accept_holds empty found holds with ⟨o, there, before⟩ | sent
  · exact List.mem_append_left more (devotes.held o n there before)
  · -- what was sent to `l` is about a request that is still `l`'s
    have told : n ∈ (s.broker.accept i).deeds.sentTo l :=
      List.mem_map.2 ⟨(l, n), List.mem_filter.2 ⟨sent, beq_self_eq_true l⟩, rfl⟩
    obtain ⟨r, there, own⟩ := reached.sent_owner ends told
    exact owned n.request r there own

theorem mono (devotes : s.Devotes l ids) (more : List RequestId) : s.Devotes l (ids ++ more) where
  reachable := devotes.reachable
  owned q r found own := List.mem_append_left more (devotes.owned q r found own)
  held o n found holds := List.mem_append_left more (devotes.held o n found holds)

theorem call (devotes : s.Devotes l ids) {c : Command} (empty : c.JoinsEmpty)
    (ends : s.stage = .serving → s.broker.Ends (.command c)) :
    (s.call c).service.Devotes l (ids ++ c.gives l (s.call c).reply) := by
  rcases s.call_cases c with refused | ⟨ready, called⟩
  · rw [refused]
    exact devotes.mono _
  · have serving : s.stage = .serving := by
      rw [Bool.and_eq_true, beq_iff_eq] at ready
      exact ready.2
    rw [called]
    refine devotes.accept serving (i := .command c) (ends serving) (by rintro _ ⟨⟩; exact empty) ?_
    rintro q r found rfl
    rcases s.broker.step_cases c with ⟨e, refused⟩ | ⟨a, t, carried, done⟩
    · simp only [Broker.accept, refused] at found
      exact .inl ⟨r, found, rfl⟩
    · simp only [Broker.accept, done] at found ⊢
      exact carried.given (devotes.reachable serving).orderly found

theorem death (devotes : s.Devotes l ids) (serving : s.stage = .serving) (k : ListenerId) :
    ({ s with broker := s.broker.bury k } : Service).Devotes l ids := by
  have stays : ∀ q r, (s.broker.bury k).matcher.find? q = some r →
      s.broker.matcher.find? q = some r := by
    intro q r found
    unfold Broker.bury at found
    split at found
    · rename_i there
      exact (((devotes.reachable serving).orderly.find?_dropListener_iff there).1 found).1
    · exact found
  have after : ({ s with broker := s.broker.bury k } : Service).Devotes l (ids ++ []) :=
    devotes.accept serving (i := .death k) trivial nofun
      (fun q r found own => .inl ⟨r, stays q r found, own⟩)
  rwa [List.append_nil] at after

theorem shutdown (devotes : s.Devotes l ids) (ready : Bool) :
    (⟨{ s.broker with hub := s.broker.hub.shutdown }, .gone, ready⟩ : Service).Devotes l ids where
  reachable := nofun
  owned := devotes.owned
  held p n found holds := by
    simp only [Hub.shutdown, Table.find?_mapValues] at found
    obtain ⟨o, there, rfl⟩ := Option.map_eq_some_iff.1 found
    refine devotes.held o n there ?_
    split at holds
    · rcases holds with arrived | lost | lost
      · exact .inl arrived
      · cases lost
      · cases lost
    · exact holds

theorem receive (devotes : s.Devotes l ids) {n : Notification}
    (read : n ∈ (s.broker.hub.receive l none).1) : n.request ∈ ids := by
  unfold Hub.receive at read
  split at read
  · cases read
  · rename_i o found
    exact devotes.held o n found (Outlet.holds_of_receive read)

end Service.Devotes

namespace Stream

/-- What becomes of a service `s` and a stream `r` while the client reads: they come to be `t` and
`x`, `events` were read so far, and the requests in `given` were activated for the stream's
listener. -/
inductive Course (s : Service) (r : Stream) :
    Service → Stream → List StreamEvent → List RequestId → Prop where
  | opened : Course s r s r [] []
  | call {t x events given} (earlier : Course s r t x events given) {c : Command}
      (empty : c.JoinsEmpty) (ends : t.stage = .serving → t.broker.Ends (.command c)) :
      Course s r (t.call c).service x events (given ++ c.gives r.listener (t.call c).reply)
  | death {t x events given} (earlier : Course s r t x events given)
      (serving : t.stage = .serving) (l : ListenerId) :
      Course s r { t with broker := t.broker.bury l } x events given
  | outlets {t x events given} (earlier : Course s r t x events given) {outlets : Table Outlet}
      (moved : t.broker.hub.Moved outlets) :
      Course s r { t with broker := t.broker.withOutlets outlets } x events given
  | finish {t x events given} (earlier : Course s r t x events given) :
      Course s r t.finish x events given
  | abort {t x events given} (earlier : Course s r t x events given) :
      Course s r t.abort x events given
  | read {t x events given} (earlier : Course s r t x events given) :
      Course s r { t with broker := { t.broker with hub := (x.read t.broker.hub).2.2 } }
        (x.read t.broker.hub).2.1 (events ++ (x.read t.broker.hub).1) given
  | close {t x events given} (earlier : Course s r t x events given) :
      Course s r (t.disconnect r.listener) { x with stage := .closed } events given

/-- The ids of the stream, and then notifications about these requests. -/
def Tells (r : Stream) (ids : List RequestId) (events : List StreamEvent) : Prop :=
  ∃ ns : List Notification, events = .registered r.listener r.request :: ns.map .notification ∧
    ∀ n ∈ ns, n.request ∈ ids

/-- Where a stream is by the time that `events` were read off it. -/
structure Stands (r : Stream) (ids : List RequestId) (x : Stream) (events : List StreamEvent) :
    Prop where
  same : x.listener = r.listener ∧ x.request = r.request
  fresh : x.greeted = false → events = []
  told : x.greeted = true → r.Tells ids events

variable {r x : Stream} {ids : List RequestId} {events : List StreamEvent}

theorem Tells.mono (tells : r.Tells ids events) (more : List RequestId) :
    r.Tells (ids ++ more) events := by
  obtain ⟨ns, read, about⟩ := tells
  exact ⟨ns, read, fun n listed => List.mem_append_left more (about n listed)⟩

theorem Tells.append (tells : r.Tells ids events) {later : List Notification}
    (about : ∀ n ∈ later, n.request ∈ ids) :
    r.Tells ids (events ++ later.map .notification) := by
  obtain ⟨ns, rfl, earlier⟩ := tells
  refine ⟨ns ++ later, by simp, fun n listed => ?_⟩
  rcases List.mem_append.1 listed with before | now
  · exact earlier n before
  · exact about n now

theorem read_of_flowing (flowing : x.stage = .flowing) (h : Hub) :
    (x.read h).1 = x.greeting ++ (h.receive x.listener none).1.map .notification ∧
      (x.read h).2.1.listener = x.listener ∧ (x.read h).2.1.request = x.request ∧
      (x.read h).2.1.greeted = true ∧ (x.read h).2.2 = (h.receive x.listener none).2 := by
  simp [read, flowing]

theorem read_of_ended (ended : x.stage ≠ .flowing) (h : Hub) : x.read h = ([], x, h) := by
  unfold read
  split
  · rename_i flowing
    exact absurd flowing ended
  · rfl

/-- The ids are told first, if they were not, and then what has arrived. -/
theorem Stands.tells_read {s : Service} (stands : r.Stands ids x events)
    (devotes : s.Devotes r.listener ids) (flowing : x.stage = .flowing) :
    r.Tells ids (events ++ (x.read s.broker.hub).1) := by
  have arrived : ∀ n ∈ (s.broker.hub.receive x.listener none).1, n.request ∈ ids := by
    rw [stands.same.1]
    exact fun n => devotes.receive
  rw [(read_of_flowing flowing _).1, ← List.append_assoc]
  refine Tells.append ?_ arrived
  cases greeted : x.greeted with
  | false =>
    rw [stands.fresh greeted, greeting, greeted, stands.same.1, stands.same.2]
    exact ⟨[], rfl, nofun⟩
  | true =>
    rw [greeting, greeted]
    exact (List.append_nil events).symm ▸ stands.told greeted

theorem Stands.read {s : Service} (stands : r.Stands ids x events)
    (devotes : s.Devotes r.listener ids) :
    r.Stands ids (x.read s.broker.hub).2.1 (events ++ (x.read s.broker.hub).1) := by
  by_cases flowing : x.stage = .flowing
  · obtain ⟨-, listener, request, greeted, -⟩ := read_of_flowing flowing s.broker.hub
    refine ⟨⟨listener.trans stands.same.1, request.trans stands.same.2⟩, fun fresh => ?_,
      fun _ => ?_⟩
    · cases greeted.symm.trans fresh
    · exact stands.tells_read devotes flowing
  · rw [read_of_ended flowing, List.append_nil]
    exact stands

theorem Stands.mono (stands : r.Stands ids x events) (more : List RequestId) :
    r.Stands (ids ++ more) x events :=
  ⟨stands.same, stands.fresh, fun greeted => (stands.told greeted).mono more⟩

end Stream

namespace Service.Devotes
variable {s : Service} {l : ListenerId} {ids : List RequestId}

theorem disconnect (devotes : s.Devotes l ids) (k : ListenerId) : (s.disconnect k).Devotes l ids :=
  devotes.outlets (s.broker.hub.moved_disconnect k)

theorem read (devotes : s.Devotes l ids) (x : Stream) :
    ({ s with broker := { s.broker with hub := (x.read s.broker.hub).2.2 } } : Service).Devotes l
      ids := by
  by_cases flowing : x.stage = .flowing
  · rw [(Stream.read_of_flowing flowing _).2.2.2.2, Hub.receive_hub]
    exact devotes.outlets (s.broker.hub.moved_receive x.listener none)
  · rw [Stream.read_of_ended flowing]
    exact devotes

end Service.Devotes

namespace Stream.Course
variable {s t : Service} {r x : Stream} {events : List StreamEvent} {given : List RequestId}

/-- Along a course the listener stays devoted to its stream, which tells of nothing else. -/
theorem devoted (course : r.Course s t x events given) {ids : List RequestId}
    (devotes : s.Devotes r.listener ids) (fresh : r.greeted = false) :
    t.Devotes r.listener (ids ++ given) ∧ r.Stands (ids ++ given) x events := by
  -- what the listener holds has to be of its stream before the stream reads it
  induction course with
  | opened =>
    rw [List.append_nil]
    exact ⟨devotes, ⟨rfl, rfl⟩, fun _ => rfl, fun greeted => nomatch fresh.symm.trans greeted⟩
  | call _ empty ends ih =>
    rw [← List.append_assoc]
    exact ⟨ih.1.call empty ends, ih.2.mono _⟩
  | death _ serving l ih => exact ⟨ih.1.death serving l, ih.2⟩
  | outlets _ moved ih => exact ⟨ih.1.outlets moved, ih.2⟩
  | finish _ ih => exact ⟨ih.1.shutdown false, ih.2⟩
  | abort _ ih => exact ⟨ih.1.shutdown _, ih.2⟩
  | read _ ih => exact ⟨ih.1.read _, ih.2.read ih.1⟩
  | close _ ih => exact ⟨ih.1.disconnect _, ih.2.same, ih.2.fresh, ih.2.told⟩

theorem call_of_none (course : r.Course s t x events given) {c : Command} (empty : c.JoinsEmpty)
    (ends : t.stage = .serving → t.broker.Ends (.command c))
    (none : c.gives r.listener (t.call c).reply = []) :
    r.Course s (t.call c).service x events given := by
  have called := course.call empty ends
  rwa [none, List.append_nil] at called

section Http
variable {g : Gateway} {u : Uid} {kind : RequestKind} {specifier : Specifier}

theorem openStream (course : r.Course s t x events given)
    (there : t.broker.hub.contains r.listener = true)
    (listeners : t.broker.hub.listeners.HasRoom)
    (requests : specifier.flaw? = none → t.broker.matcher.requests.HasRoom) :
    r.Course s (g.openStream t u kind specifier).service x events given := by
  have tried := g.tried_openStream t u kind specifier
  generalize g.openStream t u kind specifier = e at tried ⊢
  cases tried with
  | unready => exact course
  | @flawed b l joined flaw registered flawed =>
    have joins := course.call_of_none (c := .registerListener u (.newChannel g.queueDepth)) rfl
      (fun _ _ => listeners) rfl
    rw [Gateway.call_serving, Broker.step_registerListener registered] at joins
    have leaves := joins.call_of_none (c := .unregisterListener l) trivial (fun _ => trivial) rfl
    rwa [Gateway.call_serving,
      Broker.step_unregisterListener (Hub.contains_of_register registered)] at leaves
  | @sound b l joined hub registered sound attached =>
    have joins := course.call_of_none (c := .registerListener u (.newChannel g.queueDepth)) rfl
      (fun _ _ => listeners) rfl
    rw [Gateway.call_serving, Broker.step_registerListener registered] at joins
    -- what the new stream is given is given to a listener of its own
    have other := Broker.ne_of_registered (fun _ => listeners) registered there
    have asked := Broker.step_activate_of_sound (b := { b with hub := joined }) sound attached
    have asks := joins.call_of_none (c := .activate kind specifier l) trivial
      (fun _ _ _ => requests sound) (by
        rw [Gateway.call_serving, asked]
        exact if_neg other.symm)
    rwa [Gateway.call_serving, asked] at asks

theorem disconnect (course : r.Course s t x events given) (l : ListenerId) :
    r.Course s (t.disconnect l) x events given :=
  course.outlets (t.broker.hub.moved_disconnect l)

theorem forHeadersAlone {e : Exchange} (course : r.Course s e.service x events given) :
    r.Course s (Gateway.forHeadersAlone e).service x events given := by
  unfold Gateway.forHeadersAlone
  dsimp only
  split
  · exact course.disconnect _
  · exact course

theorem carryOut (course : r.Course s t x events given)
    (there : t.broker.hub.contains r.listener = true) {call : HttpCall} (asked : call.IsFrom u)
    (streams : ∀ uid kind specifier, call = .stream uid kind specifier →
      t.broker.hub.listeners.HasRoom ∧
        (specifier.flaw? = none → t.broker.matcher.requests.HasRoom))
    (commands : ∀ c, call = .command c → t.broker.Ends (.command c)) :
    r.Course s (g.carryOut t call).service x events given := by
  cases call with
  | view f => exact course
  | command c =>
    have plain : c.JoinsEmpty ∧ ∀ reply, c.gives r.listener reply = [] := by
      cases c with
      | registerListener | unregisterListener | activate | request => exact asked.elim
      | _ => exact ⟨trivial, fun _ => rfl⟩
    exact course.call_of_none plain.1 (fun _ => commands c rfl) (plain.2 _)
  | stream uid kind specifier =>
    obtain ⟨listeners, requests⟩ := streams uid kind specifier rfl
    exact course.openStream there listeners requests

/-- No request over HTTP gives the listener of a stream another request. -/
theorem answer (course : r.Course s t x events given)
    (there : t.broker.hub.contains r.listener = true) {q : HttpRequest} (ends : g.Ends t q)
    (commands : ∀ c, g.callOf q = .ok (.command c) → t.broker.Ends (.command c)) :
    r.Course s (g.answer t q).service x events given := by
  have delivered {e : Exchange} (course : r.Course s e.service x events given) : r.Course s
      (if q.method = "HEAD" then Gateway.forHeadersAlone e else e).service x events given := by
    split
    · exact course.forHeadersAlone
    · exact course
  unfold Gateway.answer
  split
  · exact course
  · cases asked : g.callOf q with
    | error response => exact delivered (e := ⟨response, t, {}⟩) course
    | ok wanted =>
      obtain ⟨-, u, -, own⟩ := Gateway.caller_of_call asked
      have streams := fun uid kind specifier (same : wanted = .stream uid kind specifier) =>
        ends uid kind specifier (same ▸ asked)
      exact delivered (course.carryOut there own streams (fun c same => commands c (same ▸ asked)))

end Http

end Stream.Course

theorem Broker.Opened.devotes {s t : Service} {u : Uid} {sink : Sink} {kind : RequestKind}
    {specifier : Specifier} {l : ListenerId} {q : RequestId} (orderly : s.broker.Orderly)
    (opened : s.broker.Opened t.broker u sink kind specifier l q) (empty : sink.buffer = [])
    (reachable : t.stage = .serving → t.broker.Reachable) : t.Devotes l [q] where
  reachable := reachable
  owned k r found own := by
    obtain ⟨bound, announced, requests⟩ := opened.request
    rw [Matcher.find?, requests, Table.find?_insert] at found
    split at found
    · rename_i here
      exact List.mem_singleton.2 here
    · obtain ⟨owner, known, -⟩ := orderly.owned k r found
      rw [own] at known
      exact absurd rfl (Table.ne_of_contains_eq_false opened.newListener known)
  held o n found holds := by
    obtain ⟨queue, about, put⟩ := opened.outlet
    cases put.symm.trans found
    rcases holds with arrived | taken | queued
    · cases empty ▸ arrived
    · cases taken
    · exact List.mem_singleton.2 (about n queued)

/-- A stream that is closed at any time takes its listener along, and the requests of that one. Its
end alone changes no listener and no request; dealing with the report of it does. A broker left to
itself comes to that, and if it was idle, to nothing else. -/
structure Service.Closes (s : Service) (l : ListenerId) : Prop where
  deserted : ∃ outlets, (s.disconnect l).broker = s.broker.withOutlets outlets
  buried : s.broker.Closed (s.broker.accept (.death l)).broker l ∧
    (s.broker.accept (.death l)).deeds = {}
  gone : s.broker.AtWork [] → (s.disconnect l).settle.broker.hub.contains l = false ∧
    ∀ q r, (s.disconnect l).settle.broker.matcher.find? q = some r → r.listener ≠ l
  settled : s.broker.AtWork [] → s.broker.Idle →
    s.broker.Closed (s.disconnect l).settle.broker l

theorem Service.closes_of_reachable {s : Service} (reached : s.broker.Reachable) (l : ListenerId) :
    s.Closes l where
  deserted := ⟨_, rfl⟩
  buried := ⟨Broker.closed_bury reached.orderly l, rfl⟩
  gone work := by
    have gone := work.disconnect_gone l
    refine ⟨gone, fun q r found own => ?_⟩
    obtain ⟨owner, known, -⟩ := (work.disconnect l).idle.1.reachable.orderly.owned q r found
    exact Table.ne_of_contains_eq_false gone known own
  settled work idle := Broker.closed_idle work idle l

structure Stream.Pure (g : Gateway) (s : Service) (r : Stream) : Prop where
  reachable : ∀ {t x events given}, r.Course s t x events given → t.stage = .serving →
    t.broker.Reachable
  told : ∀ {t x events given}, r.Course s t x events given →
    events = [] ∨ r.Tells (r.request :: given) events
  tells : ∀ {t x events given}, r.Course s t x events given → x.stage = .flowing →
    r.Tells (r.request :: given) (events ++ (x.read t.broker.hub).1)
  http : ∀ {t x events given}, r.Course s t x events given →
    t.broker.hub.contains r.listener = true → ∀ q : HttpRequest, g.Ends t q →
    (∀ c, g.callOf q = .ok (.command c) → t.broker.Ends (.command c)) →
    r.Course s (g.answer t q).service x events given
  closes : ∀ {t x events given}, r.Course s t x events given → t.stage = .serving →
    t.Closes r.listener

theorem Stream.pure_of_devotes {g : Gateway} {s : Service} {r : Stream}
    (devotes : s.Devotes r.listener [r.request]) (fresh : r.greeted = false) : r.Pure g s where
  reachable course := (course.devoted devotes fresh).1.reachable
  told := by
    intro t x events given course
    have stands := (course.devoted devotes fresh).2
    cases greeted : x.greeted with
    | false => exact .inl (stands.fresh greeted)
    | true => exact .inr (stands.told greeted)
  tells course flowing :=
    (course.devoted devotes fresh).2.tells_read (course.devoted devotes fresh).1 flowing
  http course there _ ends commands := course.answer there ends commands
  closes course serving :=
    Service.closes_of_reachable ((course.devoted devotes fresh).1.reachable serving) _

theorem Gateway.answer_of_error {g : Gateway} {s : Service} {q : HttpRequest}
    {response : HttpResponse} (failed : g.callOf q = .error response) :
    (g.answer s q).service = s ∧ (g.answer s q).deeds = {} := by
  unfold answer
  split
  · exact ⟨rfl, rfl⟩
  · simp only [failed]
    split
    · unfold forHeadersAlone
      dsimp only
      split
      · rename_i l r
        exact absurd failed (g.opensNone q l r)
      · exact ⟨rfl, rfl⟩
    · exact ⟨rfl, rfl⟩

/-- A request over HTTP that asks for a stream names its caller. What comes of it is a listener of
that caller with one request, or nothing but an id that is passed over; what comes of a request that
is turned down is nothing at all. The stream tells its two ids and then of its own request, and of
others only if they are activated for its listener, which no request over HTTP does; and when it is
closed its listener goes with its requests, and nothing else. -/
theorem Gateway.stream_law {g : Gateway} {s : Service}
    (reached : s.stage = .serving → s.broker.Reachable) :
    (∀ q : HttpRequest,
      (∀ response, g.callOf q = .error response →
        (g.answer s q).service = s ∧ (g.answer s q).deeds = {}) ∧
      ∀ u kind specifier, g.callOf q = .ok (.stream u kind specifier) →
        q.headers.caller g.token = .ok u ∧ g.answer s q =
          if q.method = "HEAD" then forHeadersAlone (g.openStream s u kind specifier)
          else g.openStream s u kind specifier) ∧
    ∀ u kind specifier, s.broker.hub.listeners.HasRoom →
      (specifier.flaw? = none → s.broker.matcher.requests.HasRoom) →
      (g.openStream s u kind specifier).WholeOrNothing s u (.newChannel g.queueDepth) kind
        specifier ∧
      ∀ l q held, (g.openStream s u kind specifier).response = .stream l q →
        Stream.Pure g (g.openStream s u kind specifier).service
          { listener := l, request := q, held } := by
  refine ⟨fun q => ⟨fun response => answer_of_error, fun u kind specifier => answer_of_stream⟩,
    fun u kind specifier listeners requests => ?_⟩
  have whole : (g.openStream s u kind specifier).WholeOrNothing s u (.newChannel g.queueDepth) kind
      specifier := wholeOrNothing_openStream reached listeners requests
  refine ⟨whole, fun l q held opened => Stream.pure_of_devotes ?_ rfl⟩
  have serving : s.stage = .serving := (whole.accepted.1 ⟨l, q, opened⟩).2.1
  exact (whole.opened l q opened).1.devotes (reached serving).orderly rfl
    (fun _ => whole.reachable serving)

def soleNetwork : Service where
  broker := (Broker.new {} false .absent).start.after [
    .command (.registerSupplier 0 .wifi "lan" ⟨0⟩),
    .command (.updateInfo 0 1 { isAvailable := true, signalStrength := 60 })]
  stage := .serving
  ready := true

theorem soleNetwork_reachable : soleNetwork.broker.Reachable :=
  Broker.Reachable.after (.start {} false .absent) (by decide)

def firstStream : Exchange := plainGateway.openStream soleNetwork 10 .request {}

theorem Stream.Course.deliver {s t : Service} {r x : Stream} {events : List StreamEvent}
    {given : List RequestId} (course : r.Course s t x events given) :
    r.Course s { t with broker := { t.broker with hub := t.broker.hub.settle } } x events given :=
  course.outlets (t.broker.hub.moved_mapValues (fun _ => Outlet.moves_settle))

/-- Somebody in the process activates another request for the listener of the stream, and the stream
tells of that one too. -/
theorem second_request_shares_stream : soleNetwork.broker.Reachable ∧
    firstStream.response = .stream 1 1 ∧
    ∃ t x, Stream.Course firstStream.service { listener := 1, request := 1, held := false } t x
      [.registered 1 1, .notification ⟨1, .available 1⟩, .notification ⟨2, .available 1⟩] [2] := by
  refine ⟨soleNetwork_reachable, rfl, ?_⟩
  have course := (((Stream.Course.opened (s := firstStream.service)
    (r := { listener := 1, request := 1, held := false })).call
      (c := .activate .request {} 1) trivial (fun _ => by decide)).deliver).read
  exact ⟨_, _, course⟩

/-- Another stream is opened over HTTP meanwhile, by uid 11, and both are told of the network. The
stream is then closed. A specifier that nobody can meet opens none. -/
theorem stream_law_soleNetwork :
    soleNetwork.broker.Reachable ∧
    soleNetwork.broker.Opened firstStream.service.broker 10 (.newChannel 4) .request {} 1 1 ∧
    (∃ t x, Stream.Course firstStream.service { listener := 1, request := 1, held := false } t x
      [.registered 1 1, .notification ⟨1, .available 1⟩] [] ∧ t.broker.matcher.requests.size = 2) ∧
    firstStream.service.Closes 1 ∧
    (firstStream.service.disconnect 1).settle.broker.matcher.requests.size = 0 ∧
    soleNetwork.broker.Declined (plainGateway.openStream soleNetwork 10 .listen
      { required := .notVpn, netType := some .vpn }).service.broker := by
  have law := Gateway.stream_law (g := plainGateway) (s := soleNetwork)
    (fun _ => soleNetwork_reachable)
  obtain ⟨whole, pure⟩ := law.2 10 .request {} (by decide) (fun _ => by decide)
  obtain ⟨vain, -⟩ := law.2 10 .listen { required := .notVpn, netType := some .vpn } (by decide)
    (fun _ => by decide)
  have own := pure 1 1 false rfl
  refine ⟨soleNetwork_reachable, (whole.opened 1 1 rfl).1, ?_, own.closes .opened rfl,
    by decide, (vain.refused _ rfl).1⟩
  have busy := own.http .opened (by decide) strangersRequest
    (fun _ _ _ _ => ⟨by decide, fun _ => by decide⟩) (fun c asked => ?_)
  · have another : plainGateway.answer firstStream.service strangersRequest =
        plainGateway.openStream firstStream.service 11 .request {} :=
      (Gateway.answer_of_stream strangersRequest_call).2
    change Stream.Course _ _ (plainGateway.answer firstStream.service strangersRequest).service
      _ _ _ at busy
    rw [another] at busy
    exact ⟨_, _, busy.deliver.read, by decide⟩
  · rw [strangersRequest_call] at asked
    cases asked

end Connectivity
