import Connectivity.Hub.Step
import Connectivity.Proofs.Round
/-! The way of the notifications to one listener, from any history of the hub. What its queue takes is
held back by three buffers and dropped only where its request has gone, and nothing overtakes. -/
namespace Connectivity

/-- What became of the notifications to a listener since it was registered with `sink`. -/
structure Trail where
  sink : Sink
  sent : List Notification := []
  accepted : List Notification := []
  /-- What was taken off the queue, and whether its request was live then. -/
  taken : List (Notification × Bool) := []
  read : List Notification := []
  /-- The sink has neither closed nor failed, and the hub was not shut down. -/
  whole : Bool := true
  /-- No notification has met a full queue. -/
  roomy : Bool := true
  /-- Every notification was about a live request, and none of these has gone. -/
  steady : Bool := true

def Outlet.fails (o : Outlet) : Bool :=
  o.hand.any (fun n => match o.sink.offer n with
    | .refused => true
    | _ => false)

def Trail.note (t : Trail) (o p : Outlet) : HubStep → Trail
  | .send _ n =>
    { t with
      sent := t.sent ++ [n]
      accepted := t.accepted ++ p.queue.drop o.queue.length
      roomy := t.roomy && decide (o.queue.length < o.capacity)
      steady := t.steady && o.live.contains n.request }
  | .turn _ =>
    { t with
      taken := t.taken ++ (o.queue.take (o.queue.length - p.queue.length)).map
        (fun n => (n, o.live.contains n.request))
      whole := t.whole && !o.fails }
  | .read _ =>
    { t with read := t.read ++ o.sink.buffer.take (o.sink.buffer.length - p.sink.buffer.length) }
  | .detach _ request => { t with steady := t.steady && !o.live.contains request }
  | .remove _ => { t with steady := false }
  | .disconnect _ => { t with whole := false }
  | .register .. | .attach .. | .report .. | .shutdown => t

namespace Hub

/-- The trail of `l` after one more step; it starts when `l` is registered. -/
def track (h : Hub) (l : ListenerId) (t : Option Trail) (s : HubStep) : Option Trail :=
  match s with
  | .register uid sink =>
    match h.register uid sink with
    | .ok (k, _) => if k = l then some { sink } else t
    | .error _ => t
  | .shutdown => t.map (fun t => { t with whole := false })
  | s =>
    if s.listener? = some l then
      match t, h.outlets.find? l, (h.act s).outlets.find? l with
      | some t, some o, some p => some (t.note o p s)
      | _, _, _ => t
    else t

def follow (h : Hub) (l : ListenerId) (t : Option Trail) : List HubStep → Hub × Option Trail
  | [] => (h, t)
  | s :: rest => (h.act s).follow l (h.track l t s) rest

/-- A hub of this depth has come to `h` step by step, and left this trail of `l`. -/
inductive Traced (queueDepth : Nat) (l : ListenerId) : Hub → Option Trail → Prop where
  | new : Traced queueDepth l (.new queueDepth) none
  | step {h : Hub} {t : Option Trail} (earlier : Traced queueDepth l h t) (s : HubStep) :
      Traced queueDepth l (h.act s) (h.track l t s)

end Hub

namespace Sink
variable {s t : Sink} {n : Notification}

def depth? : Sink → Option Nat
  | channel depth _ _ => some depth
  | recorder .. => none

theorem offer_taken_depth (taken : s.offer n = .taken t) :
    t.depth? = s.depth? ∧ ∀ d, s.depth? = some d → t.buffer.length ≤ d := by
  cases s with
  | channel depth buffer connected =>
    simp only [offer] at taken
    split at taken
    · cases taken
    · split at taken
      · rename_i room
        cases taken
        refine ⟨rfl, fun d same => ?_⟩
        cases same
        simpa [Sink.buffer] using Nat.succ_le_of_lt room
      · cases taken
  | recorder left buffer connected =>
    have unbounded (left : Option Nat) (buffer : List Notification) :
        (recorder left buffer connected).depth? = none := rfl
    cases left with
    | none =>
      cases taken
      simp [unbounded]
    | some left =>
      cases left with
      | zero => cases taken
      | succ left =>
        cases taken
        simp [unbounded]

theorem read?_depth (taken : s.read? = some (n, t)) : t.depth? = s.depth? := by
  cases s with
  | channel depth buffer connected => cases buffer <;> cases taken; rfl
  | recorder left buffer connected => cases buffer <;> cases taken; rfl

end Sink

/-- As long as nothing breaks, each notification that was accepted is in one place. -/
structure Flow (queueDepth : Nat) (registered : Bool) (t : Trail) (o : Outlet) : Prop where
  capacity : o.capacity = max queueDepth 1
  running : registered = true ↔ o.phase = .running
  queued : o.queue.length ≤ o.capacity
  depth : o.sink.depth? = t.sink.depth?
  held : ∀ d, t.sink.depth? = some d → t.sink.buffer.length ≤ d → o.sink.buffer.length ≤ d
  accepted : t.accepted = t.taken.map (·.1) ++ o.queue
  reached : ∃ done, t.taken = done ++ o.hand.toList.map (·, true) ∧
    t.read ++ o.sink.buffer = t.sink.buffer ++ (done.filter (·.2)).map (·.1)
  among : t.accepted.Sublist t.sent
  /-- A listener that keeps its requests is registered, and nothing of its is dropped. -/
  live : t.steady = true → registered = true ∧ (∀ x ∈ t.taken, x.2 = true) ∧
    ∀ n ∈ o.queue, o.live.contains n.request = true
  all : t.steady = true → t.roomy = true → t.accepted = t.sent

namespace Flow
variable {queueDepth : Nat} {registered : Bool} {t : Trail} {o p : Outlet}

theorem new {depth : Nat} (same : depth = max queueDepth 1) (sink : Sink) :
    Flow queueDepth true { sink } { capacity := depth, sink } where
  capacity := same
  running := by simp
  queued := Nat.zero_le _
  depth := rfl
  held := fun _ _ fits => fits
  accepted := rfl
  reached := ⟨[], rfl, by simp⟩
  among := .slnil
  live := by simp
  all := fun _ _ => rfl

theorem send (flow : Flow queueDepth registered t o) (l : ListenerId) (n : Notification) :
    Flow queueDepth registered
      (t.note o (if registered = true then o.enqueue n else o) (.send l n))
      (if registered = true then o.enqueue n else o) := by
  -- An outlet whose listener is registered runs, so room in the queue is all it takes.
  by_cases takes : registered = true ∧ o.queue.length < o.capacity
  · have put : (if registered = true then o.enqueue n else o) =
        { o with queue := o.queue ++ [n] } := by
      rw [if_pos takes.1, Outlet.enqueue, if_pos ⟨flow.running.1 takes.1, takes.2⟩]
    rw [put]
    refine { flow with
      queued := by simpa using Nat.succ_le_of_lt takes.2
      accepted := by simp [Trail.note, flow.accepted]
      among := by simpa [Trail.note] using flow.among
      live := fun steady => ?_
      all := fun steady roomy => ?_ }
    · simp only [Trail.note, Bool.and_eq_true] at steady
      obtain ⟨there, taken, queue⟩ := flow.live steady.1
      refine ⟨there, taken, fun m listed => ?_⟩
      rcases List.mem_append.1 listed with old | new
      · exact queue m old
      · rw [List.mem_singleton.1 new]
        exact steady.2
    · simp only [Trail.note, Bool.and_eq_true] at steady roomy
      simp [Trail.note, flow.all steady.1 roomy.1]
  · have drop : (if registered = true then o.enqueue n else o) = o := by
      split
      · rename_i there
        rw [Outlet.enqueue, if_neg (fun both => takes ⟨there, both.2⟩)]
      · rfl
    rw [drop]
    refine { flow with
      accepted := by simp [Trail.note, flow.accepted]
      among := by simpa [Trail.note] using flow.among.trans (List.sublist_append_left _ _)
      live := fun steady => ?_
      all := fun steady roomy => ?_ }
    · simp only [Trail.note, Bool.and_eq_true] at steady
      exact flow.live steady.1
    · simp only [Trail.note, Bool.and_eq_true, decide_eq_true_eq] at steady roomy
      exact absurd ⟨(flow.live steady.1).1, roomy.2⟩ takes

theorem attach (flow : Flow queueDepth registered t o) (l : ListenerId) (request : RequestId) :
    Flow queueDepth registered (t.note o (o.attach request) (.attach l request))
      (o.attach request) :=
  { flow with
    live := fun steady => by
      obtain ⟨there, taken, queue⟩ := flow.live steady
      refine ⟨there, taken, fun n listed => ?_⟩
      rw [Outlet.attach, IdSet.contains_insert, queue n listed, Bool.or_true] }

theorem detach (flow : Flow queueDepth registered t o) (l : ListenerId) (request : RequestId) :
    Flow queueDepth registered (t.note o (o.detach request) (.detach l request))
      (o.detach request) :=
  { flow with
    live := fun steady => by
      simp only [Trail.note, Bool.and_eq_true, Bool.not_eq_true'] at steady
      obtain ⟨there, taken, queue⟩ := flow.live steady.1
      refine ⟨there, taken, fun n listed => ?_⟩
      have other : n.request ≠ request := by
        intro same
        rw [← same, queue n listed] at steady
        cases steady.2
      rw [Outlet.detach, Table.contains_erase, queue n listed]
      simpa using other
    all := fun steady roomy => by
      simp only [Trail.note, Bool.and_eq_true] at steady
      exact flow.all steady.1 roomy }

theorem unsteady (flow : Flow queueDepth registered t o) (steady : Bool)
    (less : steady = true → t.steady = true) :
    Flow queueDepth registered { t with steady } o :=
  { flow with
    live := fun still => flow.live (less still)
    all := fun still => flow.all (less still) }

theorem drain (flow : Flow queueDepth registered t o) (l : ListenerId) :
    Flow queueDepth false (t.note o o.drain (.remove l)) o.drain :=
  { flow with
    running := by
      unfold Outlet.drain
      dsimp only
      split <;> simp_all
    live := fun steady => Bool.noConfusion steady
    all := fun steady => Bool.noConfusion steady }

theorem report (flow : Flow queueDepth registered t o) :
    Flow queueDepth registered t o.watch.2 := by
  unfold Outlet.watch
  split
  · exact { flow with }
  · exact flow

theorem read (flow : Flow queueDepth registered t o) (l : ListenerId) :
    Flow queueDepth registered (t.note o o.read (.read l)) o.read := by
  unfold Outlet.read
  split
  · rename_i n sink taken
    obtain ⟨buffer, _, _⟩ := Sink.read?_eq_some taken
    obtain ⟨done, taken_, delivered⟩ := flow.reached
    have first : o.sink.buffer.take (o.sink.buffer.length - sink.buffer.length) = [n] := by
      simp [buffer]
    refine { flow with
      depth := (Sink.read?_depth taken).trans flow.depth
      held := fun d same fits => ?_
      reached := ⟨done, taken_, ?_⟩ }
    · have := flow.held d same fits
      rw [buffer, List.length_cons] at this
      exact Nat.le_of_succ_le this
    · simp only [Trail.note, first]
      rw [← delivered, buffer]
      simp
  · refine { flow with reached := ?_ }
    simpa [Trail.note] using flow.reached

theorem deliver (flow : Flow queueDepth registered t o) {n : Notification} {sink : Sink}
    (hand : o.hand = some n) (taken : o.sink.offer n = .taken sink) :
    Flow queueDepth registered t { o with sink, hand := none } := by
  obtain ⟨buffer, _, _⟩ := Sink.offer_taken taken
  obtain ⟨depth, fits⟩ := Sink.offer_taken_depth taken
  obtain ⟨done, latest, delivered⟩ := flow.reached
  refine { flow with
    depth := depth.trans flow.depth
    held := fun d same _ => fits d (flow.depth.trans same)
    reached := ⟨t.taken, by simp, ?_⟩ }
  rw [buffer, ← List.append_assoc, delivered, latest, hand]
  simp

theorem take (flow : Flow queueDepth registered t o) {n : Notification}
    {queue : List Notification} (hand : o.hand = none) (more : o.queue = n :: queue) :
    Flow queueDepth registered { t with taken := t.taken ++ [(n, o.live.contains n.request)] }
      { o with queue, hand := if o.live.contains n.request then some n else none } := by
  obtain ⟨done, latest, delivered⟩ := flow.reached
  rw [hand] at latest
  have before : t.taken = done := by simpa using latest
  refine { flow with
    queued := ?_
    accepted := by simp [flow.accepted, more]
    reached := ?_
    live := fun steady => ?_ }
  · have := flow.queued
    rw [more, List.length_cons] at this
    exact Nat.le_of_succ_le this
  · cases live : o.live.contains n.request with
    | true => exact ⟨done, by simp [before], delivered⟩
    | false => exact ⟨done ++ [(n, false)], by simp [before], by simp [delivered]⟩
  · obtain ⟨there, kept, waiting⟩ := flow.live steady
    rw [more] at waiting
    refine ⟨there, fun x listed => ?_, fun m listed => waiting m (List.mem_cons_of_mem n listed)⟩
    rcases List.mem_append.1 listed with old | new
    · exact kept x old
    · rw [List.mem_singleton.1 new]
      exact waiting n List.mem_cons_self

theorem finish (flow : Flow queueDepth registered t o) (draining : o.phase = .draining) :
    Flow queueDepth registered t { o with phase := .ended } :=
  { flow with running := by simp [flow.running, draining] }

theorem turn (flow : Flow queueDepth registered t o) (l : ListenerId)
    (whole : (t.note o (o.turn?.getD o) (.turn l)).whole = true) :
    Flow queueDepth registered (t.note o (o.turn?.getD o) (.turn l)) (o.turn?.getD o) := by
  simp only [Trail.note, Bool.and_eq_true, Bool.not_eq_true'] at whole
  -- Breaking aside, the trail differs only in what the queue has lost at its front.
  have noted : ∀ p : Outlet, t.note o p (.turn l) = { t with
      taken := t.taken ++ (o.queue.take (o.queue.length - p.queue.length)).map
        (fun n => (n, o.live.contains n.request)) } := by
    intro p
    simp [Trail.note, whole]
  rw [noted]
  cases turned : o.turn? with
  | none => simpa using flow
  | some p =>
    rcases Outlet.turn?_cases turned with ⟨n, sink, hand, taken, rfl⟩ | ⟨n, hand, refused, rfl⟩ |
      ⟨n, queue, hand, more, rfl⟩ | ⟨draining, rfl⟩
    · simpa using flow.deliver hand taken
    · simp [Outlet.fails, hand, refused] at whole
    · simpa [more] using flow.take hand more
    · simpa using flow.finish draining

end Flow

namespace Hub
variable {h : Hub} {l : ListenerId}

@[simp] theorem act_queueDepth (h : Hub) (s : HubStep) : (h.act s).queueDepth = h.queueDepth := by
  cases s with
  | register uid sink =>
    simp only [act]
    split
    · rename_i done
      exact (register_outlets done).1
    · rfl
  | attach l request =>
    simp only [act]
    split
    · rename_i done
      exact (attach_outlets done).1
    · rfl
  | remove l =>
    simp only [act, remove]
    split <;> rfl
  | detach l request =>
    simp only [act, detach]
    split <;> rfl
  | send l n => exact send_queueDepth h l n
  | turn | read | disconnect | report | shutdown => rfl

theorem act_elsewhere {s : HubStep} {k : ListenerId} (addressed : s.listener? = some k)
    (other : l ≠ k) : (h.act s).outlets.find? l = h.outlets.find? l ∧
      (h.act s).contains l = h.contains l := by
  have aside (f : Outlet → Outlet) : (h.outlets.modify k f).find? l = h.outlets.find? l := by
    rw [Table.find?_modify, if_neg other]
  cases s with
  | register | shutdown => cases addressed
  | remove k =>
    cases addressed
    simp only [act, remove]
    split
    · exact ⟨rfl, rfl⟩
    · exact ⟨aside _, by simp [contains, Table.contains_erase, other]⟩
  | attach k request =>
    cases addressed
    simp only [act, attach]
    split
    · rename_i done
      split at done
      · cases done
        exact ⟨aside _, Table.contains_modify ..⟩
      · cases done
    · exact ⟨rfl, rfl⟩
  | detach k request =>
    cases addressed
    simp only [act, detach]
    split
    · exact ⟨aside _, Table.contains_modify ..⟩
    · exact ⟨rfl, rfl⟩
  | send k n =>
    cases addressed
    simp only [act, send]
    split
    · exact ⟨aside _, rfl⟩
    · exact ⟨rfl, rfl⟩
  | turn k | read k | disconnect k | report k =>
    cases addressed
    exact ⟨aside _, rfl⟩

theorem track_elsewhere {s : HubStep} {k : ListenerId} (addressed : s.listener? = some k)
    (other : l ≠ k) (t : Option Trail) : h.track l t s = t := by
  cases s with
  | register | shutdown => cases addressed
  | _ =>
    cases addressed
    simp only [track]
    exact if_neg (fun same => other (Option.some.inj same).symm)

theorem track_here {s : HubStep} (addressed : s.listener? = some l) {o p : Outlet}
    (before : h.outlets.find? l = some o) (after : (h.act s).outlets.find? l = some p) (t : Trail) :
    h.track l (some t) s = some (t.note o p s) := by
  cases s with
  | register | shutdown => cases addressed
  | _ =>
    simp only [track, if_pos addressed, before, after]

theorem flow_here {queueDepth : Nat} {t : Trail} {o : Outlet} {s : HubStep}
    (addressed : s.listener? = some l) (found : h.outlets.find? l = some o)
    (flow : t.whole = true → Flow queueDepth (h.contains l) t o) :
    ∃ p, (h.act s).outlets.find? l = some p ∧ ((t.note o p s).whole = true →
      Flow queueDepth ((h.act s).contains l) (t.note o p s) p) := by
  have here (f : Outlet → Outlet) : (h.outlets.modify l f).find? l = some (f o) := by
    rw [Table.find?_modify, if_pos rfl, found]
    rfl
  cases s with
  | register | shutdown => cases addressed
  | remove k =>
    cases addressed
    simp only [act, remove]
    split
    · exact ⟨o, found, fun whole => (flow whole).unsteady false (fun still => by cases still)⟩
    · refine ⟨o.drain, here _, fun whole => ?_⟩
      have gone : Hub.contains { h with
          listeners := h.listeners.erase l
          outlets := h.outlets.modify l Outlet.drain } l = false := by
        simp [contains, Table.contains_erase]
      rw [gone]
      exact (flow whole).drain l
  | attach k request =>
    cases addressed
    simp only [act, attach]
    split
    · rename_i done
      split at done
      · cases done
        refine ⟨o.attach request, here _, fun whole => ?_⟩
        rw [contains, Table.contains_modify]
        exact (flow whole).attach l request
      · cases done
    · exact ⟨o, found, flow⟩
  | detach k request =>
    cases addressed
    simp only [act, detach]
    split
    · refine ⟨o.detach request, here _, fun whole => ?_⟩
      rw [contains, Table.contains_modify]
      exact (flow whole).detach l request
    · refine ⟨o, found, fun whole => (flow whole).unsteady _ (fun still => ?_)⟩
      exact (Bool.and_eq_true_iff.1 still).1
  | send k n =>
    cases addressed
    simp only [act, send]
    split
    · rename_i there
      refine ⟨o.enqueue n, here _, fun whole => ?_⟩
      have sent := (flow whole).send l n
      rw [if_pos there] at sent
      exact sent
    · rename_i absent
      refine ⟨o, found, fun whole => ?_⟩
      have sent := (flow whole).send l n
      rw [if_neg absent] at sent
      exact sent
  | turn k =>
    cases addressed
    refine ⟨o.turn?.getD o, here _, fun whole => ?_⟩
    have earlier : t.whole = true := by
      simp only [Trail.note, Bool.and_eq_true] at whole
      exact whole.1
    exact (flow earlier).turn l whole
  | read k =>
    cases addressed
    exact ⟨o.read, here _, fun whole => (flow whole).read l⟩
  | disconnect k =>
    cases addressed
    exact ⟨_, here _, fun broken => by cases broken⟩
  | report k =>
    cases addressed
    exact ⟨o.watch.2, here _, fun whole => (flow whole).report⟩

theorem Traced.queueDepth {queueDepth : Nat} {t : Option Trail}
    (traced : Traced queueDepth l h t) : h.queueDepth = max queueDepth 1 := by
  induction traced with
  | new => rfl
  | step _ s ih => rw [act_queueDepth, ih]

/-- Wherever the history has led, what was accepted flows. -/
theorem Traced.flow {queueDepth : Nat} {o : Option Trail} (traced : Traced queueDepth l h o) :
    ∀ t, o = some t → ∃ p, h.outlets.find? l = some p ∧
      (t.whole = true → Flow queueDepth (h.contains l) t p) := by
  induction traced with
  | new =>
    intro t tracked
    cases tracked
  | @step h o earlier s ih =>
    intro t tracked
    cases addressed : s.listener? with
    | some k =>
      -- What is addressed to others leaves both the outlet of `l` and its trail alone.
      by_cases other : l = k
      · subst other
        cases o with
        | none =>
          cases s with
          | register | shutdown => cases addressed
          | _ => simp [track] at tracked
        | some u =>
          obtain ⟨p, found, flow⟩ := ih u rfl
          obtain ⟨q, after, flows⟩ := flow_here addressed found flow
          rw [track_here addressed found after] at tracked
          cases tracked
          exact ⟨q, after, flows⟩
      · rw [track_elsewhere addressed other] at tracked
        obtain ⟨outlets, contains⟩ := h.act_elsewhere addressed other
        rw [outlets, contains]
        exact ih t tracked
    | none =>
      cases s with
      | register uid sink =>
        simp only [track] at tracked
        simp only [act]
        cases done : h.register uid sink with
        | error e =>
          rw [done] at tracked
          exact ih t tracked
        | ok registered =>
          obtain ⟨k, g⟩ := registered
          rw [done] at tracked
          have outlets := (register_outlets done).2
          have listeners := (register_eq_ok done).2.2
          dsimp only at tracked ⊢
          -- An id that was given out before starts over, with a new trail.
          split at tracked
          · rename_i same
            subst same
            cases tracked
            refine ⟨_, by rw [outlets, Table.find?_insert, if_pos rfl], fun _ => ?_⟩
            rw [contains, listeners, Table.contains_insert]
            simpa using Flow.new earlier.queueDepth sink
          · rename_i other
            obtain ⟨p, found, flow⟩ := ih t tracked
            refine ⟨p, by rw [outlets, Table.find?_insert, if_neg (Ne.symm other), found], ?_⟩
            rw [contains, listeners, Table.contains_insert]
            simpa [Ne.symm other, contains] using flow
      | shutdown =>
        simp only [track, Option.map_eq_some_iff] at tracked
        obtain ⟨u, rfl, rfl⟩ := tracked
        obtain ⟨p, found, _⟩ := ih u rfl
        exact ⟨_, by simp only [act, Hub.shutdown, Table.find?_mapValues, found]; rfl,
          fun broken => by cases broken⟩
      | _ => cases addressed

theorem send_eq {o : Outlet} (found : h.outlets.find? l = some o)
    (running : h.contains l = true → o.phase = .running) (n : Notification) :
    h.send l n = if h.contains l = true ∧ o.queue.length < o.capacity then
      { h with outlets := h.outlets.modify l (fun o => { o with queue := o.queue ++ [n] }) }
      else h := by
  unfold send
  by_cases there : h.contains l = true
  · rw [if_pos there]
    by_cases room : o.queue.length < o.capacity
    · have put : h.outlets.modify l (·.enqueue n) =
          h.outlets.modify l (fun o => { o with queue := o.queue ++ [n] }) :=
        Table.modify_congr found (by rw [Outlet.enqueue, if_pos ⟨running there, room⟩])
      rw [if_pos ⟨there, room⟩, put]
    · have dropped : h.outlets.modify l (·.enqueue n) = h.outlets :=
        Table.modify_eq_self found (by rw [Outlet.enqueue, if_neg (fun both => room both.2)])
      rw [if_neg (fun both => room both.2), dropped]
  · rw [if_neg there, if_neg (fun both => there both.1)]

/-- As long as the sink neither closes nor fails and the hub is not shut down: a send is taken in
exactly while there is room, and touches nothing else. What was accepted is what was taken, of which
at most one notification is in hand, and then the queue. The sink got what was taken in that order,
save what had lost its request by then; so nothing is lost, reordered or repeated on the way of a
listener that keeps its requests and whose queue never fills. -/
theorem Traced.pipeline {queueDepth : Nat} {t : Trail} (traced : Traced queueDepth l h (some t))
    (whole : t.whole = true) :
    ∃ o, h.outlets.find? l = some o ∧
      (∀ n, h.send l n = if h.contains l = true ∧ o.queue.length < max queueDepth 1 then
        { h with outlets := h.outlets.modify l (fun o => { o with queue := o.queue ++ [n] }) }
        else h) ∧
      (∀ k n, k ≠ l → (h.send k n).outlets.find? l = some o) ∧
      (∃ done, t.taken = done ++ o.hand.toList.map (·, true) ∧
        t.accepted = done.map (·.1) ++ o.hand.toList ++ o.queue ∧
        t.read ++ o.sink.buffer = t.sink.buffer ++ (done.filter (·.2)).map (·.1)) ∧
      t.accepted.Sublist t.sent ∧
      (t.steady = true → t.roomy = true →
        t.sink.buffer ++ t.sent = t.read ++ o.sink.buffer ++ o.hand.toList ++ o.queue) ∧
      ∀ depth, t.sink = .newChannel depth →
        o.sink.buffer.length + o.hand.toList.length + o.queue.length ≤
          max queueDepth 1 + 1 + max depth 1 := by
  obtain ⟨o, found, flows⟩ := traced.flow t rfl
  have flow := flows whole
  obtain ⟨done, taken, reached⟩ := flow.reached
  have accepted : t.accepted = done.map (·.1) ++ o.hand.toList ++ o.queue := by
    rw [flow.accepted, taken]
    simp [Function.comp_def]
  refine ⟨o, found, fun n => ?_, fun k n other => ?_, ⟨done, taken, accepted, reached⟩, flow.among,
    fun steady roomy => ?_, fun depth channel => ?_⟩
  · rw [send_eq found flow.running.1 n, flow.capacity]
  · exact (h.act_elsewhere (s := .send k n) rfl (Ne.symm other)).1.trans found
  · have kept : done.filter (·.2) = done := by
      refine List.filter_eq_self.2 (fun x listed => (flow.live steady).2.1 x ?_)
      rw [taken]
      exact List.mem_append_left _ listed
    rw [← flow.all steady roomy, accepted, reached, kept]
    simp
  · have buffer : o.sink.buffer.length ≤ max depth 1 := by
      refine flow.held _ ?_ ?_ <;> simp [channel, Sink.newChannel, Sink.depth?, Sink.buffer]
    have hand : o.hand.toList.length ≤ 1 := by cases o.hand <;> simp
    have queue := flow.queued
    rw [flow.capacity] at queue
    omega

theorem Traced.follow {queueDepth : Nat} {t : Option Trail} (traced : Traced queueDepth l h t)
    (steps : List HubStep) :
    Traced queueDepth l (h.follow l t steps).1 (h.follow l t steps).2 := by
  induction steps generalizing h t with
  | nil => exact traced
  | cons s rest ih => exact ih (traced.step s)

def crowd : List HubStep :=
  [.register 7 (.newChannel 1), .attach 1 5, .attach 1 6, .send 1 ⟨5, .available 3⟩,
    .send 1 ⟨6, .available 3⟩, .send 1 ⟨5, .lost 3⟩, .detach 1 6, .turn 1, .turn 1, .turn 1,
    .send 1 ⟨5, .available 4⟩, .send 1 ⟨5, .lost 4⟩, .turn 1, .turn 1]

theorem pipeline_crowd : ∃ t, ((new 2).follow 1 none crowd).2 = some t ∧
    Traced 2 1 ((new 2).follow 1 none crowd).1 (some t) ∧ t.whole = true ∧
    t.sent.length = 5 ∧ t.accepted.length = 4 ∧
    ∃ o, ((new 2).follow 1 none crowd).1.outlets.find? 1 = some o ∧
      o.sink.buffer = [⟨5, .available 3⟩] ∧ o.hand = some ⟨5, .available 4⟩ ∧
      o.queue = [⟨5, .lost 4⟩] ∧
      (∃ done, t.taken = done ++ o.hand.toList.map (·, true) ∧
        t.accepted = done.map (·.1) ++ o.hand.toList ++ o.queue ∧
        t.read ++ o.sink.buffer = t.sink.buffer ++ (done.filter (·.2)).map (·.1)) ∧
      o.sink.buffer.length + o.hand.toList.length + o.queue.length ≤ max 2 1 + 1 + max 1 1 := by
  have traced : Traced 2 1 ((new 2).follow 1 none crowd).1 ((new 2).follow 1 none crowd).2 :=
    Traced.new.follow crowd
  obtain ⟨o, found, -, -, split, -, -, bound⟩ := traced.pipeline rfl
  refine ⟨_, rfl, traced, rfl, rfl, rfl, o, found, ?_, ?_, ?_, split, bound 1 rfl⟩
  all_goals
    cases found
    rfl

end Hub

end Connectivity
