import Connectivity.Proofs.Counting
import Connectivity.Proofs.Sticky
/-! What waits at an outlet. Nothing gets there but what was sent, and nothing into the hand of a
delivery but from its queue; so all of it is about requests that the listener has or had. -/
namespace Connectivity

namespace Outlet
variable {o p : Outlet} {n : Notification}

def Awaits (o : Outlet) (n : Notification) : Prop := o.hand = some n ∨ n ∈ o.queue

theorem awaits_of_turn? (turned : o.turn? = some p) (awaits : p.Awaits n) : o.Awaits n := by
  rcases turn?_cases turned with ⟨m, sink, hand, taken, rfl⟩ | ⟨m, hand, refused, rfl⟩ |
    ⟨m, queue, hand, more, rfl⟩ | ⟨draining, rfl⟩
  · rcases awaits with none | queued
    · cases none
    · exact .inr queued
  · rcases awaits with none | nothing
    · cases none
    · cases nothing
  · rcases awaits with taken | queued
    · dsimp only at taken
      split at taken
      · cases taken
        exact .inr (more ▸ List.mem_cons_self)
      · cases taken
    · exact .inr (more ▸ List.mem_cons_of_mem m queued)
  · exact awaits

theorem hand_of_arriving? (arrives : o.arriving? = some n) : o.hand = some n := by
  unfold arriving? at arrives
  split at arrives
  · cases arrives
  · exact (Option.filter_eq_some_iff.1 arrives).1

/-- A move of the delivery that finds `q` not live hands over at most what was in hand about it. -/
theorem turn_about {q : RequestId} (dead : o.live.contains q = false) :
    o.arriving?.toList.filter (·.request == q) ++
        (o.turn?.getD o).hand.toList.filter (·.request == q) <+:
      o.hand.toList.filter (·.request == q) := by
  by_cases ended : o.phase = .ended
  · simp [arriving?, turn?, ended]
  · cases hand : o.hand with
    | some n =>
      cases offered : o.sink.offer n <;>
        simp [arriving?, turn?, ended, hand, offered, Option.filter_some]
    | none =>
      cases queue : o.queue with
      | nil =>
        by_cases draining : o.phase = .draining <;>
          simp [arriving?, turn?, hand, queue, draining]
      | cons n rest =>
        by_cases live : o.live.contains n.request = true
        · have other : n.request ≠ q := by
            rintro rfl
            exact absurd live (by simp [dead])
          simp [arriving?, turn?, ended, hand, queue, live, other]
        · simp [arriving?, turn?, ended, hand, queue, live]

end Outlet

def HubStep.isQuiet : HubStep → Bool
  | .send .. | .turn _ | .shutdown => false
  | _ => true

namespace Hub
variable {h g k : Hub} {sent more : List (ListenerId × Notification)} {l : ListenerId}

/-- From `h` to `g` outlets have queued nothing but what was sent, and taken nothing in hand. -/
structure Fed (h g : Hub) (sent : List (ListenerId × Notification)) : Prop where
  queue : ∀ l p n, g.outlets.find? l = some p → n ∈ p.queue →
    (∃ o, h.outlets.find? l = some o ∧ n ∈ o.queue) ∨ (l, n) ∈ sent
  hand : ∀ l p n, g.outlets.find? l = some p → p.hand = some n →
    ∃ o, h.outlets.find? l = some o ∧ o.hand = some n

theorem fed_of_outlets (outlets : g.outlets = h.outlets) : h.Fed g sent where
  queue _ p _ found queued := .inl ⟨p, outlets ▸ found, queued⟩
  hand _ p _ found hand := ⟨p, outlets ▸ found, hand⟩

theorem Fed.trans (first : h.Fed g sent) (last : g.Fed k more) : h.Fed k (sent ++ more) where
  queue l p n found queued := by
    rcases last.queue l p n found queued with ⟨o, there, earlier⟩ | now
    · rcases first.queue l o n there earlier with before | then_
      · exact .inl before
      · exact .inr (List.mem_append_left more then_)
    · exact .inr (List.mem_append_right sent now)
  hand l p n found hand := by
    obtain ⟨o, there, earlier⟩ := last.hand l p n found hand
    exact first.hand l o n there earlier

theorem fed_modify {f : Outlet → Outlet} (outlets : g.outlets = h.outlets.modify l f)
    (hand : ∀ o, (f o).hand = o.hand)
    (queue : ∀ o n, n ∈ (f o).queue → n ∈ o.queue ∨ (l, n) ∈ sent) : h.Fed g sent := by
  have before {j : ListenerId} {p : Outlet} (found : g.outlets.find? j = some p) :
      ∃ o, h.outlets.find? j = some o ∧ p.hand = o.hand ∧
        ∀ n ∈ p.queue, n ∈ o.queue ∨ (j, n) ∈ sent := by
    rw [outlets, Table.find?_modify] at found
    split at found
    · rename_i here
      obtain ⟨o, there, rfl⟩ := Option.map_eq_some_iff.1 found
      exact ⟨o, there, hand o, here ▸ queue o⟩
    · exact ⟨p, found, rfl, fun _ => .inl⟩
  constructor
  · intro j p n found queued
    obtain ⟨o, there, _, among⟩ := before found
    exact (among n queued).imp_left (fun earlier => ⟨o, there, earlier⟩)
  · intro j p n found taken
    obtain ⟨o, there, same, _⟩ := before found
    exact ⟨o, there, same ▸ taken⟩

theorem fed_send (h : Hub) (l : ListenerId) (n : Notification) : h.Fed (h.send l n) [(l, n)] := by
  unfold send
  split
  · refine fed_modify (f := (·.enqueue n)) rfl (fun o => ?_) (fun o m queued => ?_)
    · unfold Outlet.enqueue
      split <;> rfl
    · unfold Outlet.enqueue at queued
      split at queued
      · rcases List.mem_append.1 queued with old | new
        · exact .inl old
        · rw [List.mem_singleton.1 new]
          exact .inr List.mem_cons_self
      · exact .inl queued
  · exact fed_of_outlets rfl

theorem fed_sendAll (h : Hub) (sent : List (ListenerId × Notification)) :
    h.Fed (h.sendAll sent) sent := by
  induction sent generalizing h with
  | nil => exact fed_of_outlets rfl
  | cons s rest ih => exact (h.fed_send s.1 s.2).trans (ih _)

theorem fed_act {s : HubStep} (quiet : s.isQuiet = true) : h.Fed (h.act s) [] := by
  cases s with
  | register uid sink =>
    simp only [act]
    split
    · rename_i l g done
      have outlets := (register_outlets done).2
      have earlier {j : ListenerId} {p : Outlet} (found : g.outlets.find? j = some p) :
          h.outlets.find? j = some p ∨ p = { capacity := h.queueDepth, sink } := by
        rw [outlets, Table.find?_insert] at found
        split at found
        · exact .inr (Option.some.inj found).symm
        · exact .inl found
      constructor
      · intro j p n found queued
        rcases earlier found with there | rfl
        · exact .inl ⟨p, there, queued⟩
        · cases queued
      · intro j p n found taken
        rcases earlier found with there | rfl
        · exact ⟨p, there, taken⟩
        · cases taken
    · exact fed_of_outlets rfl
  | remove l =>
    simp only [act, remove]
    split
    · exact fed_of_outlets rfl
    · exact fed_modify (f := Outlet.drain) rfl (fun _ => rfl) (fun _ _ => .inl)
  | attach l q =>
    simp only [act]
    split
    · rename_i done
      exact fed_modify (attach_outlets done).2 (fun _ => rfl) (fun _ _ => .inl)
    · exact fed_of_outlets rfl
  | detach l q =>
    simp only [act, detach]
    split
    · exact fed_modify (f := (·.detach q)) rfl (fun _ => rfl) (fun _ _ => .inl)
    · exact fed_of_outlets rfl
  | read l =>
    refine fed_modify (f := Outlet.read) rfl (fun o => ?_) (fun o n queued => ?_)
    · unfold Outlet.read
      split <;> rfl
    · unfold Outlet.read at queued
      split at queued <;> exact .inl queued
  | disconnect l =>
    exact fed_modify (f := fun o => { o with sink := o.sink.disconnect }) rfl (fun _ => rfl)
      (fun _ _ => .inl)
  | report l =>
    refine fed_modify (f := fun o => o.watch.2) rfl (fun o => ?_) (fun o n queued => ?_)
    · unfold Outlet.watch
      split <;> rfl
    · unfold Outlet.watch at queued
      split at queued <;> exact .inl queued
  | send | turn | shutdown => cases quiet

/-- A listener that is not registered has no live requests left at its outlet. -/
def Vacant (h : Hub) : Prop :=
  ∀ l o, h.outlets.find? l = some o → h.contains l = false → o.live = .empty

theorem Vacant.modify (vacant : h.Vacant) {f : Outlet → Outlet}
    (outlets : g.outlets = h.outlets.modify l f)
    (gone : ∀ j, g.contains j = false → j ≠ l → h.contains j = false)
    (here : g.contains l = false → ∀ o, h.outlets.find? l = some o → (f o).live = .empty) :
    g.Vacant := by
  intro j p found absent
  rw [outlets, Table.find?_modify] at found
  split at found
  · rename_i same
    subst same
    obtain ⟨o, there, rfl⟩ := Option.map_eq_some_iff.1 found
    exact here absent o there
  · rename_i other
    exact vacant j p found (gone j absent other)

theorem Vacant.act (vacant : h.Vacant) {s : HubStep} (call : s.isCall = true) :
    (h.act s).Vacant := by
  cases s with
  | register uid sink =>
    simp only [Hub.act]
    split
    · rename_i l g done
      intro j p found absent
      rw [contains, (register_eq_ok done).2.2, Table.contains_insert, Bool.or_eq_false_iff,
        decide_eq_false_iff_not] at absent
      rw [(register_outlets done).2, Table.find?_insert, if_neg absent.1] at found
      exact vacant j p found absent.2
    · exact vacant
  | remove l =>
    simp only [Hub.act, remove]
    split
    · exact vacant
    · refine vacant.modify (f := Outlet.drain) rfl (fun j absent other => ?_) (fun _ _ _ => rfl)
      simpa [contains, Table.contains_erase, other] using absent
  | attach l q =>
    simp only [Hub.act]
    split
    · rename_i g done
      have same (j : ListenerId) : g.contains j = h.contains j := by
        rw [contains, (attach_eq_ok done).2, Table.contains_modify, contains]
      refine vacant.modify (attach_outlets done).2 (fun j absent _ => same j ▸ absent) ?_
      intro absent
      rw [same, (attach_eq_ok done).1] at absent
      cases absent
    · exact vacant
  | detach l q =>
    simp only [Hub.act, detach]
    split
    · rename_i there
      have same (j : ListenerId) : (h.listeners.modify l
          (fun x => { x with requests := x.requests.erase q })).contains j = h.contains j :=
        Table.contains_modify ..
      refine vacant.modify (f := (·.detach q)) rfl (fun j absent _ => (same j).symm.trans absent) ?_
      intro absent
      cases there.symm.trans ((same l).symm.trans absent)
    · exact vacant
  | send l n =>
    simp only [Hub.act, send]
    split
    · rename_i there
      refine vacant.modify (f := (·.enqueue n)) rfl (fun j absent _ => absent) ?_
      intro absent
      cases there.symm.trans absent
    · exact vacant
  | turn | read | disconnect | report | shutdown => cases call

theorem Vacant.acts {steps : List HubStep} (vacant : h.Vacant)
    (calls : ∀ s ∈ steps, s.isCall = true) : (h.acts steps).Vacant := by
  induction steps generalizing h with
  | nil => exact vacant
  | cons s rest ih =>
    have here := vacant.act (calls s List.mem_cons_self)
    exact ih here (fun t listed => calls t (List.mem_cons_of_mem s listed))

end Hub

namespace Broker
variable {b : Broker} {l : ListenerId} {q : RequestId}

theorem accept_fed (b : Broker) (i : Input) :
    b.hub.Fed (b.accept i).broker.hub (b.accept i).deeds.sent := by
  obtain ⟨p, start, called⟩ := b.accept_called i
  rw [start.hub]
  have before : b.hub.Fed p.hub [] := by
    rcases called with same | ⟨s, makes, made⟩
    · rw [same]
      exact Hub.fed_of_outlets rfl
    · rw [made]
      exact Hub.fed_act (by cases makes <;> rfl)
  exact before.trans (p.hub.fed_sendAll _)

theorem Reachable.vacant (reached : b.Reachable) : b.hub.Vacant := by
  induction reached with
  | start => exact fun _ _ nothing => nomatch nothing
  | accept _ i _ ih =>
    obtain ⟨steps, calls, hub⟩ := accept_calls _ i
    rw [hub]
    exact ih.acts calls
  | @outlets b _ outlets moved ih =>
    intro l p found absent
    have present : b.hub.outlets.contains l = true := by
      rw [← moved.1, Table.contains, show outlets.find? l = some p from found]
      rfl
    obtain ⟨o, there⟩ := Table.contains_eq_true_iff.1 present
    rw [(moved.2 l o p there found).live]
    exact ih l o there absent

/-- What an outlet takes for live is there, and its listener's. -/
theorem Reachable.live_owned (reached : b.Reachable) {o : Outlet}
    (found : b.hub.outlets.find? l = some o) (live : o.live.contains q = true) :
    ∃ r, b.matcher.find? q = some r ∧ r.listener = l := by
  cases there : b.hub.contains l with
  | false =>
    rw [reached.vacant l o found there] at live
    cases live
  | true =>
    obtain ⟨owner, known⟩ := Hub.find?_of_contains there
    obtain ⟨p, listed, same⟩ := reached.live l owner known
    cases found.symm.trans listed
    exact reached.orderly.owns l owner q known (same ▸ live)

end Broker

namespace Desk
variable {d : Desk} {l : ListenerId} {q : RequestId} {s : DeskStep}

/-- Only its own turns put anything into the hand of a delivery. -/
theorem act_fed (d : Desk) (still : ∀ l, s ≠ .turn l) :
    d.broker.hub.Fed (d.act s).2.broker.hub (d.act s).1.deeds.sent := by
  cases s with
  | command c => exact d.broker.accept_fed (.command c)
  | death =>
    obtain ⟨b, deaths⟩ := d
    cases deaths with
    | nil => exact Hub.fed_of_outlets rfl
    | cons l rest => exact b.accept_fed (.death l)
  | turn l => exact absurd rfl (still l)
  | read l => exact Hub.fed_act (s := .read l) rfl
  | disconnect l => exact Hub.fed_act (s := .disconnect l) rfl
  | report l => exact Hub.fed_act (s := .report l) rfl

theorem outlet?_turn (d : Desk) (k l : ListenerId) : (d.act (.turn k)).2.outlet? l =
    if l = k then (d.outlet? l).map (fun o => o.turn?.getD o) else d.outlet? l :=
  Table.find?_modify ..

theorem awaits_act {p : Outlet} {n : Notification} (found : (d.act s).2.outlet? l = some p)
    (awaits : p.Awaits n) :
    (∃ o, d.outlet? l = some o ∧ o.Awaits n) ∨ (l, n) ∈ (d.act s).1.deeds.sent := by
  by_cases turn : ∃ k, s = .turn k
  · obtain ⟨k, rfl⟩ := turn
    rw [outlet?_turn] at found
    split at found
    · obtain ⟨o, there, rfl⟩ := Option.map_eq_some_iff.1 found
      refine .inl ⟨o, there, ?_⟩
      cases turned : o.turn? with
      | none => rwa [turned] at awaits
      | some p =>
        rw [turned] at awaits
        exact Outlet.awaits_of_turn? turned awaits
    · exact .inl ⟨p, found, awaits⟩
  · have fed := d.act_fed (s := s) (fun k same => turn ⟨k, same⟩)
    rcases awaits with taken | queued
    · obtain ⟨o, there, hand⟩ := fed.hand l p n found taken
      exact .inl ⟨o, there, .inl hand⟩
    · exact (fed.queue l p n found queued).imp_left (fun ⟨o, there, earlier⟩ => ⟨o, there, .inr earlier⟩)

theorem Counted.ends (counted : d.Counted) {c : Command} (counts : d.Counts (.command c)) :
    d.broker.Ends (.command c) := counted.numbered.ends counts

theorem Counted.sent_owner (counted : d.Counted) (counts : d.Counts s) {n : Notification}
    (sent : (l, n) ∈ (d.act s).1.deeds.sent) :
    ∃ r, (d.act s).2.broker.matcher.find? n.request = some r ∧ r.listener = l := by
  cases s with
  | command c =>
    apply counted.reachable.sent_owner (i := .command c) (counted.ends counts)
    exact List.mem_map.2 ⟨(l, n), List.mem_filter.2 ⟨sent, beq_self_eq_true l⟩, rfl⟩
  | death =>
    obtain ⟨b, deaths⟩ := d
    cases deaths <;> cases sent
  | turn | read | disconnect | report => cases sent

/-- A request that was there stays what it is, but for its supplier and what was told of it. -/
theorem Counted.bare (counted : d.Counted) (counts : d.Counts s) {r r' : ActiveRequest}
    (before : d.broker.matcher.find? q = some r)
    (after : (d.act s).2.broker.matcher.find? q = some r') : r'.bare = r.bare := by
  have same (found : d.broker.matcher.find? q = some r') : r'.bare = r.bare := by
    rw [Option.some.inj (found.symm.trans before)]
  cases s with
  | command c => exact (counted.reachable.rebound (counted.ends counts) before after).bare
  | death =>
    have reached := counted.reachable
    obtain ⟨b, deaths⟩ := d
    cases deaths with
    | nil => exact same after
    | cons k rest => exact (reached.rebound (i := .death k) trivial before after).bare
  | turn | read | disconnect | report => exact same after

/-- Whatever waits is about a request that was there once, and if it still is, of the same listener. -/
theorem Counted.addressed (counted : d.Counted) {o : Outlet} {n : Notification}
    (found : d.outlet? l = some o) (awaits : o.Awaits n) :
    d.broker.matcher.ids.Handed n.request ∧
      ∀ r, d.broker.matcher.find? n.request = some r → r.listener = l := by
  induction counted generalizing l o n with
  | start => cases found
  | @act d earlier s counts ih =>
    have next := earlier.act counts
    have draws := (earlier.draws counts).requests
    rcases awaits_act found awaits with ⟨p, there, before⟩ | sent
    · obtain ⟨handed, own⟩ := ih there before
      refine ⟨draws.handed handed, fun r' after => ?_⟩
      -- A request that is there now under an id handed out before was there before.
      have present := draws.contained handed (Table.contains_eq_true_iff.2 ⟨r', after⟩)
      obtain ⟨r, known⟩ := Table.contains_eq_true_iff.1 present
      have bare := earlier.bare counts known after
      rw [(ActiveRequest.bare_eq_iff.1 bare).2.2.2]
      exact own r known
    · obtain ⟨r, after, own⟩ := earlier.sent_owner counts sent
      refine ⟨next.numbered.requests _ (Table.contains_eq_true_iff.2 ⟨r, after⟩), fun r' again => ?_⟩
      rw [Option.some.inj (again.symm.trans after)]
      exact own

end Desk

end Connectivity
