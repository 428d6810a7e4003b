import Connectivity.Proofs.Apart
import Connectivity.Proofs.Pipeline
/-! One listener may stall, or be left out, and the others are served as before. -/
namespace Connectivity

namespace Hub
variable {h g : Hub} {l : ListenerId}

def granted (h : Hub) : List HubStep → List (Option ListenerId)
  | [] => []
  | .register uid sink :: rest =>
    (h.register uid sink).toOption.map (·.1) :: (h.act (.register uid sink)).granted rest
  | s :: rest => (h.act s).granted rest

structure AlikeAt (l : ListenerId) (h g : Hub) : Prop where
  queueDepth : h.queueDepth = g.queueDepth
  outlet : h.outlets.find? l = g.outlets.find? l
  contains : h.contains l = g.contains l

namespace AlikeAt

theorem elsewhere (alike : AlikeAt l h g) {s : HubStep} {k : ListenerId}
    (addressed : s.listener? = some k) (other : k ≠ l) : AlikeAt l (h.act s) g := by
  obtain ⟨outlet, contains⟩ := h.act_elsewhere addressed other.symm
  exact ⟨(h.act_queueDepth s).trans alike.queueDepth, outlet.trans alike.outlet,
    contains.trans alike.contains⟩

theorem symm (alike : AlikeAt l h g) : AlikeAt l g h :=
  ⟨alike.queueDepth.symm, alike.outlet.symm, alike.contains.symm⟩

theorem here (alike : AlikeAt l h g) {s : HubStep} (addressed : s.listener? = some l) :
    AlikeAt l (h.act s) (g.act s) := by
  have depth : (h.act s).queueDepth = (g.act s).queueDepth := by
    rw [act_queueDepth, act_queueDepth, alike.queueDepth]
  have outlet (f : Outlet → Outlet) :
      (h.outlets.modify l f).find? l = (g.outlets.modify l f).find? l := by
    simp only [Table.find?_modify, if_true, alike.outlet]
  have kept (f : Listener → Listener) :
      (h.listeners.modify l f).contains l = (g.listeners.modify l f).contains l := by
    rw [Table.contains_modify, Table.contains_modify]
    exact alike.contains
  suffices both : (h.act s).outlets.find? l = (g.act s).outlets.find? l ∧
      (h.act s).contains l = (g.act s).contains l from ⟨depth, both.1, both.2⟩
  cases s with
  | register | shutdown => cases addressed
  | remove k =>
    cases addressed
    have known : (h.listeners.find? l).isSome = (g.listeners.find? l).isSome := alike.contains
    simp only [act, remove]
    cases inH : h.listeners.find? l <;> cases inG : g.listeners.find? l
    · exact ⟨alike.outlet, alike.contains⟩
    · simp [inH, inG] at known
    · simp [inH, inG] at known
    · exact ⟨outlet _, by simp [Hub.contains, Table.contains_erase]⟩
  | attach k request =>
    cases addressed
    simp only [act, attach, alike.contains]
    cases g.contains l with
    | true => exact ⟨outlet _, kept _⟩
    | false => exact ⟨alike.outlet, alike.contains⟩
  | detach k request =>
    cases addressed
    simp only [act, detach, alike.contains]
    split
    · exact ⟨outlet _, kept _⟩
    · exact ⟨alike.outlet, alike.contains⟩
  | send k n =>
    cases addressed
    simp only [act, send, alike.contains]
    split
    · exact ⟨outlet _, alike.contains⟩
    · exact ⟨alike.outlet, alike.contains⟩
  | turn k | read k | disconnect k | report k =>
    cases addressed
    exact ⟨outlet _, alike.contains⟩

theorem track_here (alike : AlikeAt l h g) {s : HubStep} (addressed : s.listener? = some l)
    (t : Option Trail) : h.track l t s = g.track l t s := by
  have after := (alike.here addressed).outlet
  cases s with
  | register | shutdown => cases addressed
  | _ => simp only [track, alike.outlet, after]

theorem shutdown (alike : AlikeAt l h g) : AlikeAt l (h.act .shutdown) (g.act .shutdown) where
  queueDepth := alike.queueDepth
  outlet := by
    simp only [act, Hub.shutdown, Table.find?_mapValues, alike.outlet, alike.contains]
  contains := rfl

theorem register (alike : AlikeAt l h g) {uid : Uid} {sink : Sink} (t : Option Trail)
    (same : ((h.register uid sink).toOption.map (·.1) == some l) =
      ((g.register uid sink).toOption.map (·.1) == some l)) :
    AlikeAt l (h.act (.register uid sink)) (g.act (.register uid sink)) ∧
      h.track l t (.register uid sink) = g.track l t (.register uid sink) := by
  cases connected : sink.isConnected with
  | false =>
    simp only [act, track, Hub.register, connected, Bool.not_false, if_true]
    exact ⟨alike, trivial⟩
  | true =>
    simp only [act, track, Hub.register, connected, Bool.not_true, Bool.false_eq_true,
      if_false] at same ⊢
    generalize h.ids.take h.listeners = i at same ⊢
    generalize g.ids.take g.listeners = j at same ⊢
    obtain ⟨i, is⟩ := i
    obtain ⟨j, js⟩ := j
    have both : i = l ↔ j = l := by
      have answers : (i == l) = (j == l) := same
      rw [← beq_iff_eq, answers, beq_iff_eq]
    have both' : l = i ↔ l = j := by rw [eq_comm, both, eq_comm]
    refine ⟨⟨alike.queueDepth, ?_, ?_⟩, ?_⟩
    · simp only [Table.find?_insert, alike.queueDepth, alike.outlet, both']
    · simp only [Hub.contains, Table.contains_insert, both']
      exact congrArg (decide (l = j) || ·) alike.contains
    · simp only [both]

end AlikeAt

theorem granted_cons {s : HubStep} {k : ListenerId} (addressed : s.listener? = some k)
    (rest : List HubStep) : h.granted (s :: rest) = (h.act s).granted rest := by
  cases s with
  | register => cases addressed
  | _ => rfl

/-- What is not for `l` may be left out: `l` is served alike as long as the same registrations are
answered with it. -/
theorem AlikeAt.follow {keep : HubStep → Bool} {steps : List HubStep} (alike : AlikeAt l h g)
    (t : Option Trail)
    (others : ∀ s ∈ steps, keep s = false → ∃ k, s.listener? = some k ∧ k ≠ l)
    (same : (h.granted steps).map (· == some l) =
      (g.granted (steps.filter keep)).map (· == some l)) :
    (h.follow l t steps).2 = (g.follow l t (steps.filter keep)).2 ∧
      AlikeAt l (h.follow l t steps).1 (g.follow l t (steps.filter keep)).1 := by
  induction steps generalizing h g t with
  | nil => exact ⟨rfl, alike⟩
  | cons s rest ih =>
    have later : ∀ s ∈ rest, keep s = false → ∃ k, s.listener? = some k ∧ k ≠ l :=
      fun s listed => others s (List.mem_cons_of_mem _ listed)
    cases kept : keep s with
    | false =>
      -- Only the first hub makes this step, and not where `l` is.
      obtain ⟨k, addressed, other⟩ := others s List.mem_cons_self kept
      rw [List.filter_cons_of_neg (by simp [kept]), granted_cons addressed] at same
      rw [List.filter_cons_of_neg (by simp [kept]), Hub.follow,
        h.track_elsewhere addressed other.symm t]
      exact ih (alike.elsewhere addressed other) t later same
    | true =>
      rw [List.filter_cons_of_pos kept] at same ⊢
      simp only [Hub.follow]
      cases addressed : s.listener? with
      | some k =>
        rw [granted_cons addressed, granted_cons addressed] at same
        by_cases own : k = l
        · rw [own] at addressed
          rw [alike.track_here addressed t]
          exact ih (alike.here addressed) _ later same
        · rw [h.track_elsewhere addressed (Ne.symm own) t,
            g.track_elsewhere addressed (Ne.symm own) t]
          exact ih ((alike.elsewhere addressed own).symm.elsewhere addressed own).symm t later same
      | none =>
        cases s with
        | register uid sink =>
          obtain ⟨first, others⟩ := List.cons.inj same
          obtain ⟨after, tracked⟩ := alike.register t first
          rw [tracked]
          exact ih after _ later others
        | shutdown => exact ih alike.shutdown _ later same
        | _ => cases addressed

/-- Ids are drawn by registrations alone, and nothing else adds a listener. -/
theorem act_addressed {s : HubStep} {k : ListenerId} (addressed : s.listener? = some k) :
    (h.act s).ids = h.ids ∧ ∀ j, (h.act s).contains j = true → h.contains j = true := by
  cases s with
  | register | shutdown => cases addressed
  | remove k =>
    simp only [act, remove]
    split
    · exact ⟨rfl, fun _ there => there⟩
    · refine ⟨rfl, fun j there => ?_⟩
      simp only [Hub.contains, Table.contains_erase, Bool.and_eq_true] at there
      exact there.2
  | attach k request =>
    cases known : h.contains k with
    | true =>
      simp only [act, attach, known, if_true]
      exact ⟨trivial, fun j there => by rwa [Hub.contains, Table.contains_modify] at there⟩
    | false =>
      simp only [act, attach, known, Bool.false_eq_true, if_false]
      exact ⟨trivial, fun _ there => there⟩
  | detach k request =>
    simp only [act, detach]
    split
    · exact ⟨rfl, fun j there => by rwa [Hub.contains, Table.contains_modify] at there⟩
    · exact ⟨rfl, fun _ there => there⟩
  | send k m =>
    simp only [act, send]
    split <;> exact ⟨rfl, fun _ there => there⟩
  | turn | read | disconnect | report => exact ⟨rfl, fun _ there => there⟩

/-- A hub that has given out the first `n` ids and no others. -/
structure Counted (n : Nat) (h : Hub) : Prop where
  next : h.ids.next = UInt32.ofNat (n + 1)
  used : ∀ k, h.contains k = true → k.toNat ≤ n

namespace Counted
variable {n : Nat}

theorem new (queueDepth : Nat) : Counted 0 (.new queueDepth) :=
  ⟨rfl, fun _ there => by cases there⟩

theorem addressed (counted : Counted n h) {s : HubStep} {k : ListenerId}
    (addressed : s.listener? = some k) : Counted n (h.act s) := by
  obtain ⟨ids, fewer⟩ := act_addressed addressed
  exact ⟨by rw [ids, counted.next], fun j there => counted.used j (fewer j there)⟩

theorem register (counted : Counted n h) (uid : Uid) {sink : Sink}
    (connected : sink.isConnected = true) (more : n + 1 < UInt32.size) :
    (h.register uid sink).toOption.map (·.1) = some (UInt32.ofNat (n + 1)) ∧
      Counted (n + 1) (h.act (.register uid sink)) := by
  have value : (UInt32.ofNat (n + 1)).toNat = n + 1 := UInt32.toNat_ofNat_of_lt' more
  have nonzero : h.ids.next ≠ 0 := by
    intro zero
    rw [counted.next] at zero
    rw [zero] at value
    exact absurd value (Nat.succ_ne_zero n).symm
  have unused : h.listeners.contains h.ids.next = false := by
    cases there : h.listeners.contains h.ids.next with
    | false => rfl
    | true =>
      have := counted.used _ there
      rw [counted.next, value] at this
      omega
  have fresh := IdSource.take_of_fresh nonzero unused
  simp only [act, Hub.register, connected, Bool.not_true, Bool.false_eq_true, if_false, fresh]
  refine ⟨congrArg some counted.next, ?_, fun k there => ?_⟩
  · rw [counted.next, UInt32.ofNat_add (n + 1) 1]
    rfl
  · simp only [Hub.contains, Table.contains_insert, Bool.or_eq_true, decide_eq_true_eq] at there
    rcases there with rfl | before
    · exact Nat.le_of_eq (by rw [counted.next, value])
    · exact Nat.le_succ_of_le (counted.used k before)

end Counted

/-- As long as the ids last, registrations are answered alike whatever else happens. -/
theorem Counted.granted {n : Nat} {keep : HubStep → Bool} {steps : List HubStep}
    (first : Counted n h) (second : Counted n g)
    (others : ∀ s ∈ steps, keep s = false → ∃ k, s.listener? = some k ∧ k ≠ l)
    (last : n + (h.granted steps).length < UInt32.size) :
    h.granted steps = g.granted (steps.filter keep) := by
  induction steps generalizing h g n with
  | nil => rfl
  | cons s rest ih =>
    have later : ∀ s ∈ rest, keep s = false → ∃ k, s.listener? = some k ∧ k ≠ l :=
      fun s listed => others s (List.mem_cons_of_mem _ listed)
    cases kept : keep s with
    | false =>
      obtain ⟨k, addressed, -⟩ := others s List.mem_cons_self kept
      rw [List.filter_cons_of_neg (by simp [kept]), granted_cons addressed]
      rw [granted_cons addressed] at last
      exact ih (first.addressed addressed) second later last
    | true =>
      rw [List.filter_cons_of_pos kept]
      cases addressed : s.listener? with
      | some k =>
        rw [granted_cons addressed, granted_cons addressed]
        rw [granted_cons addressed] at last
        exact ih (first.addressed addressed) (second.addressed addressed) later last
      | none =>
        cases s with
        | register uid sink =>
          simp only [Hub.granted, List.length_cons] at last ⊢
          cases connected : sink.isConnected with
          | true =>
            -- both hubs have given out the first `n` ids, so both draw the next one
            obtain ⟨answer, after⟩ := first.register uid connected (by omega)
            obtain ⟨answer', after'⟩ := second.register uid connected (by omega)
            rw [answer, answer', ih after after' later (by omega)]
          | false =>
            have refused (f : Hub) : f.register uid sink = .error .listenerUnreachable := by
              rw [Hub.register, connected]
              rfl
            simp only [act, refused] at last ⊢
            rw [ih first second later (by omega)]
        | shutdown =>
          exact ih ⟨first.next, fun _ there => by cases there⟩
            ⟨second.next, fun _ there => by cases there⟩ later last
        | _ => cases addressed

end Hub

/-- Two runs of a broker that differ only in the moves of the delivery to `A` and in what `A` reads
answer alike, do alike, and deliver and read alike everywhere else, at every other step, and leave
the same after it apart from the deliveries to `A`. At the hub alone, what is addressed to others may
be left out, and `l` is sent, taken and delivered the same, provided that `l` is the same listener in
both runs, that is, the same registrations are answered with it; which they are as long as the ids
have not run out and started again. -/
theorem stall_confined (A l : ListenerId) :
    (∀ (d : Desk) (xs ys : List DeskStep),
      xs.filter (!·.isOf A) = ys.filter (!·.isOf A) →
        d.account A xs = d.account A ys ∧ (d.run xs).apart A = (d.run ys).apart A) ∧
    ∀ (queueDepth : Nat) (keep : HubStep → Bool) (steps : List HubStep),
      (∀ s ∈ steps, keep s = false → ∃ k, s.listener? = some k ∧ k ≠ l) →
        (((Hub.new queueDepth).granted steps).map (· == some l) =
            ((Hub.new queueDepth).granted (steps.filter keep)).map (· == some l) →
          ((Hub.new queueDepth).follow l none steps).2 =
              ((Hub.new queueDepth).follow l none (steps.filter keep)).2 ∧
            ((Hub.new queueDepth).follow l none steps).1.outlets.find? l =
              ((Hub.new queueDepth).follow l none (steps.filter keep)).1.outlets.find? l) ∧
        (((Hub.new queueDepth).granted steps).length < UInt32.size →
          (Hub.new queueDepth).granted steps =
            (Hub.new queueDepth).granted (steps.filter keep)) := by
  constructor
  · intro d xs ys same
    constructor
    · rw [d.account_filter A xs, same, ← d.account_filter A ys]
    · rw [d.run_filter A xs, same, ← d.run_filter A ys]
  · intro queueDepth keep steps others
    constructor
    · intro named
      obtain ⟨trail, alike⟩ := Hub.AlikeAt.follow ⟨rfl, rfl, rfl⟩ none others named
      exact ⟨trail, alike.outlet⟩
    · intro last
      exact Hub.Counted.granted (.new queueDepth) (.new queueDepth) others (by omega)

/-- Two listeners wait for a network, and one notification may wait for each. -/
def crowdedDesk : Desk := { broker := (Broker.new { queueDepth := 1 } false .absent).start.after [
  .command (.registerSupplier 0 .wifi "lan" ⟨0⟩),
  .command (.registerListener 10 (.newChannel 1)),
  .command (.registerListener 20 (.newChannel 1)),
  .command (.activate .request {} 1),
  .command (.activate .request {} 2)] }

def upAndDown : List DeskStep := [
  .command (.updateInfo 0 1 { isAvailable := true }), .turn 2, .turn 2,
  .command (.updateInfo 0 1 {}), .turn 2, .read 2, .turn 2]

def upAndDownRead : List DeskStep := [
  .command (.updateInfo 0 1 { isAvailable := true }), .turn 1, .turn 2, .turn 1, .turn 2, .read 1,
  .command (.updateInfo 0 1 {}), .turn 2, .turn 1, .read 2, .turn 2]

def neighbours : List HubStep := [
  .register 7 (.newChannel 1), .register 8 (.newChannel 2), .attach 1 5, .attach 2 6,
  .send 1 ⟨5, .available 3⟩, .send 2 ⟨6, .available 3⟩, .turn 1, .turn 2, .turn 1, .turn 2, .read 1,
  .disconnect 1, .report 1, .remove 1, .send 2 ⟨6, .lost 3⟩, .turn 2, .read 2, .turn 2]

/-- Listener 1 has lost a notification in one run and read one in the other. -/
theorem stall_confined_reader :
    (crowdedDesk.run upAndDown).outlet? 1 ≠ (crowdedDesk.run upAndDownRead).outlet? 1 ∧
      crowdedDesk.account 1 upAndDown = crowdedDesk.account 1 upAndDownRead ∧
      ((crowdedDesk.run upAndDown).outlet? 2).map (·.sink.buffer) = some [⟨2, .lost 1⟩] ∧
      (neighbours.filter (fun s => s.listener? != some 1)).length < neighbours.length ∧
      ((Hub.new 4).follow 2 none neighbours).2 =
        ((Hub.new 4).follow 2 none (neighbours.filter (fun s => s.listener? != some 1))).2 ∧
      (((Hub.new 4).follow 2 none neighbours).2.map (·.read)) = some [⟨6, .available 3⟩] := by
  obtain ⟨runs, hubs⟩ := stall_confined 1 2
  have others : ∀ s ∈ neighbours, (s.listener? != some 1) = false →
      ∃ k, s.listener? = some k ∧ k ≠ 2 := by
    intro s _ dropped
    exact ⟨1, by simpa using dropped, by decide⟩
  obtain ⟨served, named⟩ := hubs 4 (fun s => s.listener? != some 1) neighbours others
  have counted : ((Hub.new 4).granted neighbours).length < UInt32.size := by decide
  refine ⟨by decide, (runs crowdedDesk upAndDown upAndDownRead (by decide)).1, by decide, by decide,
    (served ?_).1, by decide⟩
  rw [named counted]

end Connectivity
