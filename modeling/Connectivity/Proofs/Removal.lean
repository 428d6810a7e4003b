import Connectivity.Proofs.Waiting
/-! What is removed does not come back. What had been queued about a request by then is dropped when
its turn comes, since no later request bears its id; only what the delivery had in hand still arrives. -/
namespace Connectivity

namespace Desk
variable {d : Desk} {l : ListenerId} {q : RequestId} {s : DeskStep}

/-- Request `q` is no longer there, and what still waits about it waits at the outlet of `l`. -/
structure Gone (d : Desk) (q : RequestId) (l : ListenerId) : Prop where
  handed : d.broker.matcher.ids.Handed q
  absent : d.broker.matcher.requests.contains q = false
  elsewhere : ∀ k o n, k ≠ l → d.outlet? k = some o → o.Awaits n → n.request ≠ q

/-- What the delivery to `l` has in hand about `q`. -/
def held (d : Desk) (q : RequestId) (l : ListenerId) : List (ListenerId × Notification) :=
  (((d.outlet? l).bind (·.hand)).toList.filter (·.request == q)).map (l, ·)

def arrivals (d : Desk) : List DeskStep → List (ListenerId × Notification)
  | [] => []
  | s :: rest => (d.act s).1.arrived.toList ++ (d.act s).2.arrivals rest

theorem Gone.unsent (gone : d.Gone q l) (counted : d.Counted) (counts : d.Counts s) :
    (d.act s).2.broker.matcher.requests.contains q = false ∧
      ∀ x ∈ (d.act s).1.deeds.sent, x.2.request ≠ q := by
  have absent : (d.act s).2.broker.matcher.requests.contains q = false := by
    rw [← Bool.not_eq_true]
    intro present
    have before := (counted.draws counts).requests.contained gone.handed present
    exact absurd before (by simp [gone.absent])
  refine ⟨absent, ?_⟩
  rintro ⟨k, n⟩ sent rfl
  obtain ⟨r, found, _⟩ := counted.sent_owner counts sent
  rw [Table.contains_eq_true_iff.2 ⟨r, found⟩] at absent
  cases absent

theorem Gone.act (gone : d.Gone q l) (counted : d.Counted) (counts : d.Counts s) :
    (d.act s).2.Gone q l := by
  obtain ⟨absent, unsent⟩ := gone.unsent counted counts
  refine ⟨(counted.draws counts).requests.handed gone.handed, absent, fun k o n other found awaits => ?_⟩
  rcases awaits_act found awaits with ⟨p, there, before⟩ | sent
  · exact gone.elsewhere k p n other there before
  · exact unsent (k, n) sent

theorem Gone.dead (gone : d.Gone q l) (counted : d.Counted) {o : Outlet}
    (found : d.outlet? l = some o) : o.live.contains q = false := by
  rw [← Bool.not_eq_true]
  intro live
  obtain ⟨r, there, _⟩ := counted.reachable.live_owned found live
  have absent := gone.absent
  rw [Table.contains_eq_true_iff.2 ⟨r, there⟩] at absent
  cases absent

theorem held_of_fed (d : Desk) {e : Desk} {sent : List (ListenerId × Notification)}
    (fed : d.broker.hub.Fed e.broker.hub sent) : e.held q l <+: d.held q l := by
  unfold held outlet?
  cases after : (e.broker.hub.outlets.find? l).bind (·.hand) with
  | none => exact List.nil_prefix
  | some n =>
    obtain ⟨p, found, hand⟩ := Option.bind_eq_some_iff.1 after
    obtain ⟨o, there, before⟩ := fed.hand l p n found hand
    have held : (d.broker.hub.outlets.find? l).bind (·.hand) = some n :=
      Option.bind_eq_some_iff.2 ⟨o, there, before⟩
    exact held ▸ List.prefix_rfl

theorem Gone.arrived (gone : d.Gone q l) (counted : d.Counted) (s : DeskStep) :
    (d.act s).1.arrived.toList.filter (·.2.request == q) ++ (d.act s).2.held q l <+:
      d.held q l := by
  -- only a turn hands anything over, and only the one of `l` anything about `q`
  by_cases turn : ∃ k, s = .turn k
  · obtain ⟨k, rfl⟩ := turn
    have arrived : (d.act (.turn k)).1.arrived =
        ((d.outlet? k).bind (·.arriving?)).map (k, ·) := rfl
    rw [arrived]
    by_cases here : k = l
    · subst here
      unfold held
      rw [outlet?_turn, if_pos rfl]
      cases found : d.outlet? k with
      | none => exact List.prefix_rfl
      | some o =>
        have about := (Outlet.turn_about (gone.dead counted found)).map (fun n => (k, n))
        rw [List.map_append] at about
        have mapped : ((o.arriving?).map (k, ·)).toList.filter (·.2.request == q) =
            (o.arriving?.toList.filter (·.request == q)).map (k, ·) := by
          cases o.arriving? with
          | none => rfl
          | some n => by_cases named : n.request = q <;> simp [named]
        rw [Option.bind_some, mapped]
        exact about
    · have same : (d.act (.turn k)).2.held q l = d.held q l := by
        unfold held
        rw [outlet?_turn, if_neg (Ne.symm here)]
      have foreign : (((d.outlet? k).bind (·.arriving?)).map (k, ·)).toList.filter
          (·.2.request == q) = [] := by
        rw [List.filter_eq_nil_iff]
        rintro ⟨j, n⟩ listed named
        obtain ⟨m, arrives, pair⟩ := Option.map_eq_some_iff.1 (Option.mem_toList.1 listed)
        cases pair
        obtain ⟨o, found, arrives⟩ := Option.bind_eq_some_iff.1 arrives
        exact gone.elsewhere k o n here found (.inl (Outlet.hand_of_arriving? arrives))
          (eq_of_beq named)
      rw [foreign, same]
      exact List.prefix_rfl
  · have fed := d.act_fed (s := s) (fun k same => turn ⟨k, same⟩)
    have nothing : (d.act s).1.arrived = none := by
      cases s with
      | turn k => exact absurd ⟨k, rfl⟩ turn
      | death =>
        obtain ⟨b, deaths⟩ := d
        cases deaths <;> rfl
      | _ => rfl
    rw [nothing]
    exact d.held_of_fed fed

theorem Gone.run (gone : d.Gone q l) (counted : d.Counted) {later : List DeskStep}
    (counts : d.CountsAll later) : (d.run later).Gone q l ∧
      (d.arrivals later).filter (·.2.request == q) ++ (d.run later).held q l <+: d.held q l := by
  induction later generalizing d with
  | nil => exact ⟨gone, List.prefix_rfl⟩
  | cons s rest ih =>
    obtain ⟨after, arrived⟩ := ih (gone.act counted counts.1) (counted.act counts.1) counts.2
    refine ⟨after, ?_⟩
    have along := (List.prefix_append_right_inj
      ((d.act s).1.arrived.toList.filter (·.2.request == q))).2 arrived
    rw [arrivals, List.filter_append, List.append_assoc]
    exact along.trans (gone.arrived counted s)

/-- The ways in which a request goes: it is ended, its listener is unregistered, or that one's death is
dealt with. -/
def Removes (d : Desk) (q : RequestId) (r : ActiveRequest) : DeskStep → Prop
  | .command (.deactivate caller id) =>
    id = q ∧ (d.broker.step (.deactivate caller id)).reply = .ok .done
  | .command (.unregisterListener l) => l = r.listener
  | .death => d.deaths.head? = some r.listener
  | _ => False

theorem Removes.absent {r : ActiveRequest} (removes : d.Removes q r s) (counted : d.Counted)
    (found : d.broker.matcher.find? q = some r) : (d.act s).2.broker.matcher.find? q = none := by
  have orderly := counted.reachable.orderly
  have dropped {b : Broker} (orderly : b.Orderly) (found : b.matcher.find? q = some r) :
      b.hub.contains r.listener = true ∧ (b.dropListener r.listener).matcher.find? q = none := by
    obtain ⟨owner, known, _⟩ := orderly.owned q r found
    have there : b.hub.contains r.listener = true := Table.contains_eq_true_iff.2 ⟨owner, known⟩
    refine ⟨there, ?_⟩
    rw [orderly.find?_dropListener there, found, Option.filter_some, if_neg (by simp)]
  cases s with
  | command c =>
    cases c with
    | deactivate caller id =>
      obtain ⟨rfl, done⟩ := removes
      rcases d.broker.step_cases (.deactivate caller id) with ⟨e, refused⟩ | ⟨_, t, carried, stepped⟩
      · rw [refused] at done
        cases done
      · cases carried with
        | deactivated =>
          refine (congrArg (·.broker.matcher.find? id) stepped).trans ?_
          exact (Table.find?_erase ..).trans (if_pos rfl)
    | unregisterListener l =>
      cases show l = r.listener from removes
      obtain ⟨there, gone⟩ := dropped orderly found
      refine Eq.trans ?_ gone
      simp only [act, Broker.step, Broker.perform, Broker.unregisterListener, if_pos there]
      rfl
    | _ => cases removes
  | death =>
    obtain ⟨b, deaths⟩ := d
    cases deaths with
    | nil => cases removes
    | cons l rest =>
      cases show some l = some r.listener from removes
      obtain ⟨there, gone⟩ := dropped (b := b) orderly found
      simp only [act, Broker.bury, if_pos there]
      exact gone
  | turn | read | disconnect | report => cases removes

theorem Removes.gone {r : ActiveRequest} (removes : d.Removes q r s) (counted : d.Counted)
    (counts : d.Counts s) (found : d.broker.matcher.find? q = some r) :
    (d.act s).2.Gone q r.listener ∧ (d.act s).2.held q r.listener <+: d.held q r.listener := by
  have absent := removes.absent counted found
  have present := counted.numbered.requests q (Table.contains_eq_true_iff.2 ⟨r, found⟩)
  constructor
  · refine ⟨(counted.draws counts).requests.handed present, ?_, fun k o n other there awaits => ?_⟩
    · exact Option.isSome_eq_false_iff.2 (Option.isNone_iff_eq_none.2 absent)
    · rintro rfl
      rcases awaits_act there awaits with ⟨p, known, before⟩ | sent
      · exact other ((counted.addressed known before).2 r found).symm
      · obtain ⟨r', listed, _⟩ := counted.sent_owner counts sent
        cases absent.symm.trans listed
  · apply d.held_of_fed (d.act_fed (s := s) _)
    rintro k rfl
    cases removes

/-- The broker does not know request `q` and will not hear or speak of it again. -/
structure Forgets (d : Desk) (q : RequestId) : Prop where
  absent : d.broker.matcher.find? q = none
  lookup : (d.broker.step (.request q)).reply = .error (.unknownRequest q)
  ending : ∀ caller, (d.broker.step (.deactivate caller q)).reply = .error (.unknownRequest q)
  unissued : ∀ kind specifier l, d.Counts (.command (.activate kind specifier l)) →
    (d.broker.step (.activate kind specifier l)).reply ≠ .ok (.id q)
  unsent : ∀ s, d.Counts s → ∀ x ∈ (d.act s).1.deeds.sent, x.2.request ≠ q

theorem Gone.forgets (gone : d.Gone q l) (counted : d.Counted) : d.Forgets q := by
  have absent : d.broker.matcher.find? q = none :=
    Option.isNone_iff_eq_none.1 (Option.isSome_eq_false_iff.1 gone.absent)
  have unknown : d.broker.matcher.entry q = .error (.unknownRequest q) := by
    rw [Matcher.entry, absent]
  constructor
  · exact absent
  · simp only [Broker.step, Broker.perform, unknown]
    rfl
  · intro caller
    simp only [Broker.step, Broker.perform, Broker.deactivate, Matcher.deactivate, unknown]
    rfl
  · intro kind specifier k counts done
    rcases d.broker.step_cases (.activate kind specifier k) with ⟨e, refused⟩ | ⟨_, t, carried, stepped⟩
    · rw [refused] at done
      cases done
    · rw [stepped] at done
      cases carried with
      | activated sound attached =>
        -- The id given out is the next of the count, and `q` was given out before.
        have more := counts sound (Hub.attach_eq_ok attached).1
        have taken := IdSource.take_of_handed more counted.numbered.requests
        injection done with answer
        injection answer with same
        have next : q = d.broker.matcher.ids.next := same.symm.trans (congrArg Prod.fst taken)
        exact IdSource.not_handed_next more (next ▸ gone.handed)
  · exact fun s counts => (gone.unsent counted counts).2

structure Departed (d : Desk) (l : ListenerId) : Prop where
  absent : d.broker.hub.contains l = false
  unissued : ∀ uid sink, d.Counts (.command (.registerListener uid sink)) →
    (d.broker.step (.registerListener uid sink)).reply ≠ .ok (.id l)
  buried : ∀ rest, d.deaths = l :: rest → d.act .death = ({}, { d with deaths := rest })

theorem buried_of_absent (absent : d.broker.hub.contains l = false) {rest : List ListenerId}
    (head : d.deaths = l :: rest) : d.act .death = ({}, { d with deaths := rest }) := by
  obtain ⟨b, deaths⟩ := d
  cases head
  simp only [act, Broker.bury]
  rw [if_neg (by simp [absent])]

theorem Counted.departed (counted : d.Counted) (handed : d.broker.hub.ids.Handed l)
    (absent : d.broker.hub.contains l = false) : d.Departed l := by
  refine ⟨absent, fun uid sink counts done => ?_, fun _ => buried_of_absent absent⟩
  obtain ⟨hub, registered, _⟩ := Broker.accept_registerListener done
  obtain ⟨connected, drawn, _⟩ := Hub.register_eq_ok registered
  have more : d.broker.hub.ids.next ≠ 0 := counts connected
  have taken := IdSource.take_of_handed more counted.numbered.hub.listeners
  have next : l = d.broker.hub.ids.next := drawn.trans (congrArg Prod.fst taken)
  exact IdSource.not_handed_next more (next ▸ handed)

theorem Counted.absent_run (counted : d.Counted) (handed : d.broker.hub.ids.Handed l)
    (absent : d.broker.hub.contains l = false) {later : List DeskStep} (counts : d.CountsAll later) :
    (d.run later).broker.hub.ids.Handed l ∧ (d.run later).broker.hub.contains l = false := by
  induction later generalizing d with
  | nil => exact ⟨handed, absent⟩
  | cons s rest ih =>
    have draws := (counted.draws counts.1).hub.listeners
    refine ih (counted.act counts.1) (draws.handed handed) ?_ counts.2
    rw [← Bool.not_eq_true] at absent ⊢
    exact mt (draws.contained handed) absent

def Dismisses (d : Desk) (l : ListenerId) (s : DeskStep) : Prop :=
  s = .command (.unregisterListener l) ∨ s = .death ∧ d.deaths.head? = some l

theorem Dismisses.absent (dismisses : d.Dismisses l s) (there : d.broker.hub.contains l = true) :
    (d.act s).2.broker.hub.contains l = false := by
  rcases dismisses with rfl | ⟨rfl, head⟩
  · have bury : (d.act (.command (.unregisterListener l))).2.broker = d.broker.bury l := by
      simp only [act, Broker.step, Broker.perform, Broker.unregisterListener, Broker.bury, if_pos there]
      rfl
    rw [bury]
    exact d.broker.contains_bury l
  · obtain ⟨b, deaths⟩ := d
    cases deaths with
    | nil => cases head
    | cons k rest =>
      cases show some k = some l from head
      exact b.contains_bury l

/-- In a run in which no count of ids comes round, a request that is removed is forgotten for good, and
of what the hub still had about it nothing arrives but what its listener's delivery had in hand. A
listener that has left does not come back, and a death that is dealt with later changes nothing. -/
theorem Counted.removal_terminal (counted : d.Counted) (counts : d.Counts s) {later : List DeskStep}
    (onward : (d.act s).2.CountsAll later) :
    (∀ r, d.broker.matcher.find? q = some r → d.Removes q r s →
      ((d.act s).2.run later).Forgets q ∧
      ((d.act s).2.arrivals later).filter (·.2.request == q) ++
        ((d.act s).2.run later).held q r.listener <+: d.held q r.listener ∧
      ∀ k o n, k ≠ r.listener → ((d.act s).2.run later).outlet? k = some o → o.Awaits n →
        n.request ≠ q) ∧
    (d.broker.hub.contains l = true → d.Dismisses l s → ((d.act s).2.run later).Departed l) ∧
    ∀ k rest, ((d.act s).2.run later).broker.hub.contains k = false →
      ((d.act s).2.run later).deaths = k :: rest →
      ((d.act s).2.run later).act .death = ({}, { (d.act s).2.run later with deaths := rest }) := by
  have next := counted.act counts
  have ends := next.run onward
  refine ⟨fun r found removes => ?_, fun there dismisses => ?_,
    fun k rest absent head => buried_of_absent absent head⟩
  · obtain ⟨gone, held⟩ := removes.gone counted counts found
    obtain ⟨after, arrived⟩ := gone.run next onward
    exact ⟨after.forgets ends, arrived.trans held, after.elsewhere⟩
  · have handed := (counted.draws counts).hub.listeners.handed (counted.numbered.hub.listeners l there)
    obtain ⟨still, absent⟩ := next.absent_run handed (dismisses.absent there) onward
    exact ends.departed still absent

def inHand : Desk := emptyDesk.run (toldThrough (.newChannel 1) ++ [.command (.updateInfo 0 1 {})])

theorem inHand_counted : inHand.Counted := Counted.run (.start {} false .absent) (by decide)

/-- The request is ended, the delivery goes on, and the next request is told of its own. -/
theorem removal_terminal_inHand :
    (inHand.act (.command (.deactivate 10 1))).2.arrivals [.turn 1, .turn 1, .read 1] =
        [(1, ⟨1, .available 1⟩)] ∧
      inHand.held 1 1 = [(1, ⟨1, .available 1⟩)] ∧
      ((inHand.act (.command (.deactivate 10 1))).2.run [.turn 1, .turn 1, .read 1]).Forgets 1 ∧
      ((inHand.act (.command (.unregisterListener 1))).2.run [.turn 1]).Departed 1 := by
  have found : inHand.broker.matcher.find? 1 = some _ := rfl
  have onward : (inHand.act (.command (.deactivate 10 1))).2.CountsAll
      [.turn 1, .turn 1, .read 1] := by decide
  have afterwards : (inHand.act (.command (.unregisterListener 1))).2.CountsAll [.turn 1] := by
    decide
  have ended := Counted.removal_terminal (q := 1) (l := 1) inHand_counted (by decide) onward
  have left := Counted.removal_terminal (q := 1) (l := 1) inHand_counted (by decide) afterwards
  refine ⟨by decide, by decide, ?_, ?_⟩
  · exact (ended.1 _ found ⟨rfl, rfl⟩).1
  · exact left.2.1 (by decide) (.inl rfl)

end Desk

end Connectivity
