import Connectivity.Proofs.Record
import Connectivity.Proofs.Round
/-! What a listener that never misses a delivery believes. A queue that is full drops what is sent,
and the broker takes it for told all the same, so a view stays right exactly as long as nothing that
is dropped says of a request that its supplier has changed. -/
namespace Connectivity

namespace NetworkEvent

def viewOf (heard : List NetworkEvent) : Option SupplierId := heard.foldl view none

end NetworkEvent

theorem mem_expected_self {kind : RequestKind} {news : Option (SupplierId × NetworkEvent)}
    {a : Option SupplierId} {e : NetworkEvent} (due : e ∈ expected kind news a a) :
    ∃ s, news = some (s, e) := by
  cases a with
  | none => simp [expected] at due
  | some s =>
    cases told : news with
    | none => simp [expected, told] at due
    | some x =>
      simp only [expected, told, if_true] at due
      split at due
      · rw [List.mem_singleton.1 due]
        exact ⟨x.1, rfl⟩
      · cases due

open NetworkEvent in
theorem foldl_view_of_changes {events : List NetworkEvent} (changes : ∀ e ∈ events, e.Changes)
    (held : Option SupplierId) : events.foldl view held = held := by
  induction events with
  | nil => rfl
  | cons e rest ih =>
    rw [List.foldl_cons, view_of_changes (changes e List.mem_cons_self)]
    exact ih (fun f listed => changes f (List.mem_cons_of_mem e listed))

open NetworkEvent in
theorem view_of_prefix (kind : RequestKind) {news : Option (SupplierId × NetworkEvent)}
    (change : ∀ s e, news = some (s, e) → e.Changes) {a b : Option SupplierId}
    {kept : List NetworkEvent} (first : kept <+: expected kind news a b) :
    kept.foldl view a = b ↔ a = b ∨ kept = expected kind news a b := by
  by_cases same : a = b
  · subst same
    have changes : ∀ e ∈ kept, e.Changes := by
      intro e listed
      obtain ⟨s, told⟩ := mem_expected_self (first.subset listed)
      exact change s e told
    simp [foldl_view_of_changes changes]
  · cases a with
    | none =>
      cases b with
      | none => exact absurd rfl same
      | some t =>
        simp only [expected, List.prefix_cons_iff, List.prefix_nil] at first
        rcases first with rfl | ⟨_, rfl, rfl⟩ <;> simp [expected, view]
    | some s =>
      cases b with
      | none =>
        simp only [expected, List.prefix_cons_iff, List.prefix_nil] at first
        rcases first with rfl | ⟨_, rfl, rfl⟩ <;> simp [expected, view]
      | some t =>
        have apart : ¬ s = t := fun equal => same (congrArg some equal)
        by_cases tracks : kind = .trackDefault
        · simp only [expected, if_neg apart, if_pos tracks, List.prefix_cons_iff,
            List.prefix_nil] at first ⊢
          rcases first with rfl | ⟨_, rfl, rfl⟩ <;> simp [view, apart]
        · simp only [expected, if_neg apart, if_neg tracks, List.prefix_cons_iff,
            List.prefix_nil] at first ⊢
          rcases first with rfl | ⟨_, rfl, rfl | ⟨_, rfl, rfl⟩⟩ <;> simp [view, apart]

namespace Deeds

theorem about_sentTo {d : Deeds} {l : ListenerId} {q : RequestId} {r : ActiveRequest}
    (own : r.listener = l) {events : List NetworkEvent} (about : d.about q = r.notices events) :
    ((d.sentTo l).filter (·.request == q)).map (·.event) = events := by
  have theirs : (d.about q).filter (·.1 == l) = d.about q := by
    refine List.filter_eq_self.2 (fun x listed => ?_)
    rw [about] at listed
    obtain ⟨e, _, rfl⟩ := List.mem_map.1 listed
    exact beq_iff_eq.2 own
  have swapped : (d.sentTo l).filter (·.request == q) = ((d.about q).filter (·.1 == l)).map (·.2) := by
    unfold sentTo Deeds.about
    rw [List.filter_map, List.filter_filter, List.filter_filter]
    simp only [Function.comp_def, Bool.and_comm]
  rw [swapped, theirs, about]
  simp only [ActiveRequest.notices, List.map_map]
  exact List.map_id _

end Deeds

/-- A round as one listener sees it: the states before and after it, and what the listener has heard
about each request by then. -/
structure Round where
  before : Broker
  input : Input
  after : Broker
  heard : RequestId → List NetworkEvent

namespace Round

def Right (l : ListenerId) (x : Round) : Prop :=
  ∀ q r, x.after.matcher.find? q = some r → r.listener = l →
    NetworkEvent.viewOf (x.heard q) = r.announced

/-- What did not fit into the queue of `l` was about requests with the same supplier as before. -/
def Through (l : ListenerId) (x : Round) : Prop :=
  ∀ n ∈ ((x.before.accept x.input).deeds.sentTo l).drop x.before.hub.queueDepth,
    x.after.announced? n.request = x.before.announced? n.request

instance (l : ListenerId) (x : Round) : Decidable (x.Through l) :=
  inferInstanceAs (Decidable (∀ n ∈ ((x.before.accept x.input).deeds.sentTo l).drop
    x.before.hub.queueDepth, x.after.announced? n.request = x.before.announced? n.request))

end Round

namespace Broker
variable {b : Broker} {l : ListenerId}

def hear (b : Broker) (l : ListenerId) (i : Input) (heard : RequestId → List NetworkEvent)
    (q : RequestId) : List NetworkEvent :=
  (if (b.matcher.find? q).isSome then heard q else []) ++
    ((b.round l i).1.filter (·.request == q)).map (·.event)

/-- Since it came with a new sink, `l` has read everything after every step, its sink has not
failed, and it is still registered. The rounds so far come last first. -/
inductive Watched (l : ListenerId) :
    Broker → (RequestId → List NetworkEvent) → List Round → Prop where
  | joined {b : Broker} (reached : b.Reachable) {uid : Uid} {sink : Sink}
      (new : (∃ depth, sink = .newChannel depth) ∨ ∃ failAfter, sink = .newRecorder failAfter)
      (ends : b.Ends (.command (.registerListener uid sink)))
      (done : (b.step (.registerListener uid sink)).reply = .ok (.id l)) :
      Watched l (b.accept (.command (.registerListener uid sink))).broker.idle (fun _ => []) []
  | others {b : Broker} {heard : RequestId → List NetworkEvent} {past : List Round}
      (earlier : Watched l b heard past) {outlets : Table Outlet} (moved : b.hub.Moved outlets)
      (aside : outlets.find? l = b.hub.outlets.find? l) :
      Watched l (b.withOutlets outlets) heard past
  | round {b : Broker} {heard : RequestId → List NetworkEvent} {past : List Round}
      (earlier : Watched l b heard past) (i : Input) (ends : b.Ends i)
      (still : (b.round l i).2.hub.contains l = true)
      (running : (b.round l i).2.hub.delivers l = true) :
      Watched l (b.round l i).2 (b.hear l i heard)
        (⟨b, i, (b.round l i).2, b.hear l i heard⟩ :: past)

section Step
variable {i : Input} {heard : RequestId → List NetworkEvent}
  (right : ∀ q r, b.matcher.find? q = some r → r.listener = l →
    NetworkEvent.viewOf (heard q) = r.announced)
include right

theorem viewOf_earlier (same : ∀ q r s, b.matcher.find? q = some r →
      (b.accept i).broker.matcher.find? q = some s → s.bare = r.bare)
    {q : RequestId} {r : ActiveRequest} (own : r.listener = l)
    (found : (b.accept i).broker.matcher.find? q = some r) :
    NetworkEvent.viewOf (if (b.matcher.find? q).isSome then heard q else []) = b.announced? q := by
  cases before : b.matcher.find? q with
  | none =>
    -- What was heard under an id that is given anew was about another request.
    rw [announced?, before]
    rfl
  | some s =>
    have listener := (ActiveRequest.bare_eq_iff.1 (same q s r before found)).2.2.2
    rw [announced?_of_found before]
    exact right q s before (listener.symm.trans own)

variable (attended : b.Attended l) (ends : b.Ends i)
  (still : (b.round l i).2.hub.contains l = true) (running : (b.round l i).2.hub.delivers l = true)
include attended ends still running

theorem viewOf_hear {q : RequestId} {r : ActiveRequest} (own : r.listener = l)
    (found : (b.accept i).broker.matcher.find? q = some r) :
    NetworkEvent.viewOf (b.hear l i heard q) = r.announced ↔ b.announced? q = r.announced ∨
      (((b.accept i).deeds.sentTo l).drop b.hub.queueDepth).filter (·.request == q) = [] := by
  obtain ⟨_, received, _, same⟩ := attended.round ends still running
  have about := attended.reachable.notified ends q
  rw [found] at about
  have due := Deeds.about_sentTo own about
  have earlier := viewOf_earlier right same own found
  unfold hear
  rw [received]
  generalize (b.accept i).deeds.sentTo l = sent at due ⊢
  generalize b.hub.queueDepth = depth
  rw [← List.take_append_drop depth sent, List.filter_append, List.map_append] at due
  -- A full queue cuts what is due to the request short, but leaves no gaps in it.
  have first : ((sent.take depth).filter (·.request == q)).map (·.event) <+:
      expected r.kind (b.news i) (b.announced? q) r.announced := ⟨_, due⟩
  have view := view_of_prefix r.kind (@changes_of_news b i) first
  rw [← due, List.self_eq_append_right, List.map_eq_nil_iff] at view
  rw [← view, ← earlier, NetworkEvent.viewOf, List.foldl_append]
  rfl

/-- A view that was right stays so in a round through which everything gets that matters. -/
theorem right_iff_through : (⟨b, i, (b.round l i).2, b.hear l i heard⟩ : Round).Right l ↔
      (⟨b, i, (b.round l i).2, b.hear l i heard⟩ : Round).Through l := by
  obtain ⟨_, _, requests, _⟩ := attended.round ends still running
  have view_iff := fun q (r : ActiveRequest) (own : r.listener = l) =>
    viewOf_hear right attended ends still running (q := q) own
  constructor
  · intro told n dropped
    obtain ⟨r, found, own⟩ := attended.reachable.sent_owner ends (List.mem_of_mem_drop dropped)
    have after := (requests n.request r own).2 found
    refine (announced?_of_found after).trans ?_
    rcases (view_iff n.request r own found).1 (told n.request r after own) with unchanged | none
    · exact unchanged.symm
    · exact absurd (beq_self_eq_true _) (List.filter_eq_nil_iff.1 none n dropped)
  · intro through q r after own
    refine (view_iff q r own ((requests q r own).1 after)).2 ?_
    by_cases unchanged : b.announced? q = r.announced
    · exact .inl unchanged
    · refine .inr (List.filter_eq_nil_iff.2 (fun n dropped named => unchanged ?_))
      have stays := through n dropped
      rw [eq_of_beq named] at stays
      exact stays.symm.trans (announced?_of_found after)

end Step

theorem Watched.attended {heard : RequestId → List NetworkEvent} {past : List Round}
    (watched : Watched l b heard past) : b.Attended l := by
  induction watched with
  | joined reached new ends done =>
    rcases new with ⟨depth, rfl⟩ | ⟨failAfter, rfl⟩
    · exact (reached.joined ends rfl (Nat.le_max_right depth 1) done).1
    · exact (reached.joined ends rfl trivial done).1
  | others earlier moved aside ih =>
    obtain ⟨reached, there, o, found, ready⟩ := ih
    exact ⟨reached.outlets moved, there, o, aside.trans found, ready⟩
  | round earlier i ends still running ih => exact (ih.round ends still running).1

theorem Watched.right_now {heard : RequestId → List NetworkEvent} {past : List Round}
    (watched : Watched l b heard past) (right : ∀ x ∈ past, x.Right l) :
    ∀ q r, b.matcher.find? q = some r → r.listener = l →
      NetworkEvent.viewOf (heard q) = r.announced := by
  induction watched with
  | joined reached new ends done =>
    intro q r found own
    rcases new with ⟨depth, rfl⟩ | ⟨failAfter, rfl⟩
    · exact absurd own ((reached.joined ends rfl (Nat.le_max_right depth 1) done).2 q r found)
    · exact absurd own ((reached.joined ends rfl trivial done).2 q r found)
  | others _ _ _ ih => exact ih right
  | round => exact right _ List.mem_cons_self

/-- A listener that misses nothing was never wrong exactly if, in every round so far, nothing that
its queue had no room for was about a request whose supplier changed. -/
theorem Watched.never_wrong_iff {heard : RequestId → List NetworkEvent} {past : List Round}
    (watched : Watched l b heard past) :
    (∀ x ∈ past, x.Right l) ↔ ∀ x ∈ past, x.Through l := by
  induction watched with
  | joined => simp
  | others _ _ _ ih => exact ih
  | round earlier i ends still running ih =>
    -- The last round is judged from a view that was right, so either side needs the rounds before.
    simp only [List.forall_mem_cons]
    constructor
    · rintro ⟨last, before⟩
      have step := right_iff_through (earlier.right_now before) earlier.attended ends still running
      exact ⟨step.1 last, ih.1 before⟩
    · rintro ⟨last, before⟩
      have right := earlier.right_now (ih.2 before)
      have step := right_iff_through right earlier.attended ends still running
      exact ⟨step.2 last, ih.2 before⟩

/-- A network is up, the queue of each listener holds one notification, and a listener has come. -/
def narrow : Broker := (((Broker.new { queueDepth := 1 } false .absent).start.after [
  .command (.registerSupplier 0 .wifi "lan" ⟨0⟩),
  .command (.updateInfo 0 1 { isAvailable := true })]).accept
    (.command (.registerListener 10 (.newChannel 4)))).broker.idle

def asking : Input := .command (.activate .request {} 1)

def narrowRounds : List Round :=
  let once := (narrow.round 1 asking).2
  let heard := narrow.hear 1 asking (fun _ => [])
  [⟨once, asking, (once.round 1 asking).2, once.hear 1 asking heard⟩, ⟨narrow, asking, once, heard⟩]

theorem narrow_watched : Watched 1 ((narrow.round 1 asking).2.round 1 asking).2
    ((narrow.round 1 asking).2.hear 1 asking (narrow.hear 1 asking (fun _ => []))) narrowRounds := by
  have joined : Watched 1 narrow (fun _ => []) [] :=
    .joined (Reachable.after (.start _ _ _) (by decide)) (.inl ⟨4, rfl⟩) (by decide) rfl
  have first := joined.round asking (by decide) (by decide) (by decide)
  exact first.round asking (by decide) (by decide) (by decide)

theorem never_wrong_narrow : (∀ x ∈ narrowRounds, x.Through 1) ∧ ∀ x ∈ narrowRounds, x.Right 1 := by
  have through : ∀ x ∈ narrowRounds, x.Through 1 := by decide
  exact ⟨through, narrow_watched.never_wrong_iff.2 through⟩

/-- The network is lost, and only the first of the two requests gets to hear of it. -/
theorem stale_narrow : ∃ b heard past, Watched 1 b heard past ∧ ∃ r, b.matcher.find? 2 = some r ∧
    r.listener = 1 ∧ r.announced = none ∧ NetworkEvent.viewOf (heard 2) = some 1 := by
  have lost := narrow_watched.round (.command (.updateInfo 0 1 {})) (by decide) (by decide) (by decide)
  exact ⟨_, _, _, lost, { id := 2, kind := .request, specifier := {}, listener := 1 },
    by decide, rfl, rfl, by decide⟩

end Broker

end Connectivity
