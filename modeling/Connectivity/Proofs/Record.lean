import Connectivity.Proofs.Notification
/-! What was sent about each request, over a whole run. An event is in place or not by what came
before it, and the last word about a supplier is what is announced. -/
namespace Connectivity

namespace NetworkEvent

def view (held : Option SupplierId) : NetworkEvent → Option SupplierId
  | .available s => some s
  | .lost _ => none
  | .capabilitiesChanged _ | .linkChanged _ => held

/-- The supplier an event is about: the one it names, or the one there is news of. -/
def subject (news : Option (SupplierId × NetworkEvent)) : NetworkEvent → Option SupplierId
  | .available s | .lost s => some s
  | .capabilitiesChanged _ | .linkChanged _ => news.map (·.1)

def Changes : NetworkEvent → Prop
  | .available _ | .lost _ => False
  | .capabilitiesChanged _ | .linkChanged _ => True

theorem view_of_changes {e : NetworkEvent} (changes : e.Changes) (held : Option SupplierId) :
    e.view held = held := by
  cases e with
  | available | lost => exact changes.elim
  | capabilitiesChanged | linkChanged => rfl

/-- An event about `subject` is in place while `held` is announced. -/
def Fits (held subject : Option SupplierId) : NetworkEvent → Prop
  | .available s => held ≠ some s
  | .lost s => held = some s
  | .capabilitiesChanged _ | .linkChanged _ => held.isSome = true ∧ held = subject

end NetworkEvent

abbrev Record := List (NetworkEvent × Option SupplierId)

namespace Record

def of (news : Option (SupplierId × NetworkEvent)) (events : List NetworkEvent) : Record :=
  events.map (fun e => (e, e.subject news))

def view (held : Option SupplierId) (record : Record) : Option SupplierId :=
  record.foldl (fun held x => x.1.view held) held

/-- Every event is in place when it comes. -/
def Sound : Option SupplierId → Record → Prop
  | _, [] => True
  | held, (e, subject) :: rest => e.Fits held subject ∧ Sound (e.view held) rest

theorem view_append (held : Option SupplierId) (first last : Record) :
    (first ++ last).view held = last.view (first.view held) := List.foldl_append

theorem sound_append {held : Option SupplierId} {first last : Record} :
    Sound held (first ++ last) ↔ Sound held first ∧ Sound (first.view held) last := by
  induction first generalizing held with
  | nil => simp [Sound, view]
  | cons x rest ih => simp only [List.cons_append, Sound, ih, and_assoc]; rfl

end Record

open NetworkEvent in
/-- What is to be expected is in place, and leads from the supplier announced before to the next. -/
theorem sound_expected (kind : RequestKind) {news : Option (SupplierId × NetworkEvent)}
    (change : ∀ s e, news = some (s, e) → e.Changes) (a b : Option SupplierId) :
    (Record.of news (expected kind news a b)).Sound a ∧
      (Record.of news (expected kind news a b)).view a = b := by
  cases a with
  | none => cases b <;> simp [expected, Record.of, Record.Sound, Record.view, Fits, view]
  | some s =>
    cases b with
    | none => simp [expected, Record.of, Record.Sound, Record.view, Fits, view]
    | some t =>
      by_cases same : s = t
      · subst same
        cases told : news with
        | none => simp [expected, Record.of, Record.Sound, Record.view]
        | some x =>
          obtain ⟨u, e⟩ := x
          by_cases here : u = s
          · subst here
            have changes := change u e told
            cases e with
            | available | lost => exact changes.elim
            | capabilitiesChanged | linkChanged =>
              simp [expected, Record.of, Record.Sound, Record.view, Fits, view, subject]
          · simp [expected, here, Record.of, Record.Sound, Record.view]
      · cases kind <;> simp [expected, same, Record.of, Record.Sound, Record.view, Fits, view]

namespace Broker

def recordOf (b : Broker) (i : Input) (q : RequestId) : Record :=
  .of (b.news i) (((b.accept i).deeds.about q).map (·.2.event))

/-- The broker has come to this state, having sent this about each request since it was activated. -/
inductive Recorded : Broker → (RequestId → Record) → Prop where
  | start (settings : BrokerSettings) (keeps : Bool) (file : PolicyFile) :
      Recorded (Broker.new settings keeps file).start (fun _ => [])
  | accept {b : Broker} {record : RequestId → Record} (earlier : Recorded b record) (i : Input)
      (ends : b.Ends i) : Recorded (b.accept i).broker (fun q =>
        (if (b.matcher.find? q).isSome then record q else []) ++ b.recordOf i q)
  | outlets {b : Broker} {record : RequestId → Record} (earlier : Recorded b record)
      {outlets : Table Outlet} (moved : b.hub.Moved outlets) :
      Recorded (b.withOutlets outlets) record

variable {b : Broker} {record : RequestId → Record}

theorem Recorded.reachable (recorded : b.Recorded record) : b.Reachable := by
  induction recorded with
  | start settings keeps file => exact .start settings keeps file
  | accept _ i ends ih => exact ih.accept i ends
  | outlets _ moved ih => exact ih.outlets moved

theorem Reachable.recorded (reached : b.Reachable) : ∃ record, b.Recorded record := by
  induction reached with
  | start settings keeps file => exact ⟨_, .start settings keeps file⟩
  | accept _ i ends ih => obtain ⟨_, recorded⟩ := ih; exact ⟨_, recorded.accept i ends⟩
  | outlets _ moved ih => obtain ⟨_, recorded⟩ := ih; exact ⟨_, recorded.outlets moved⟩

theorem changes_of_news {i : Input} {s : SupplierId} {e : NetworkEvent}
    (news : b.news i = some (s, e)) : e.Changes := by
  unfold Broker.news at news
  split at news
  · split at news
    · split at news
      · cases news
      · cases news
        trivial
    · cases news
      trivial
    · cases news
  · cases news

theorem recordOf_eq (reached : b.Reachable) {i : Input} (ends : b.Ends i) {q : RequestId}
    {r : ActiveRequest} (found : (b.accept i).broker.matcher.find? q = some r) :
    b.recordOf i q =
      .of (b.news i) (expected r.kind (b.news i) (b.announced? q) r.announced) := by
  rw [recordOf, reached.notified ends q, found]
  simp only [ActiveRequest.notices, List.map_map]
  exact congrArg _ (List.map_id _)

theorem Recorded.sound (recorded : b.Recorded record) {q : RequestId} {r : ActiveRequest}
    (found : b.matcher.find? q = some r) :
    (record q).Sound none ∧ (record q).view none = r.announced := by
  induction recorded generalizing r with
  | start settings keeps file => cases found
  | @accept b record earlier i ends ih =>
    have step := sound_expected r.kind (@changes_of_news b i) (b.announced? q) r.announced
    rw [← recordOf_eq earlier.reachable ends found] at step
    -- An id that is drawn anew starts with an empty record, whatever was sent under it earlier.
    have before : (if (b.matcher.find? q).isSome then record q else []).Sound none ∧
        (if (b.matcher.find? q).isSome then record q else []).view none = b.announced? q := by
      cases there : b.matcher.find? q with
      | none => rw [announced?, there]; exact ⟨trivial, rfl⟩
      | some s => rw [announced?, there]; exact ih there
    rw [Record.sound_append, Record.view_append, before.2]
    exact ⟨⟨before.1, step.1⟩, step.2⟩
  | outlets _ _ ih => exact ih found

/-- A step sends each request just what is to be expected of the suppliers announced before and
after it. So all that was sent about a request is in place, and ends with the supplier announced. -/
theorem notification_law :
    (∀ b : Broker, b.Reachable → ∀ i, b.Ends i → ∀ q, (b.accept i).deeds.about q =
      match (b.accept i).broker.matcher.find? q with
      | none => []
      | some r => (expected r.kind (b.news i) (b.announced? q) r.announced).map
          (fun e => (r.listener, ⟨r.id, e⟩))) ∧
      ∀ (b : Broker) record, b.Recorded record → ∀ q r, b.matcher.find? q = some r →
        (record q).Sound none ∧ (record q).view none = r.announced :=
  ⟨fun _ reached _ ends q => reached.notified ends q,
    fun _ _ recorded _ _ found => recorded.sound found⟩

theorem notification_firstNetwork :
    (firstNetwork.accept (.command (.updateCapabilities 0 1 .internet))).deeds.about 1 =
        [(1, ⟨1, .capabilitiesChanged .internet⟩)] ∧
      ∃ record, firstNetwork.Recorded record ∧ (record 1).view none = some 1 := by
  obtain ⟨record, recorded⟩ := firstNetwork_reachable.recorded
  refine ⟨?_, record, recorded, (notification_law.2 _ _ recorded 1 _ firstNetwork_request).2⟩
  exact (notification_law.1 _ firstNetwork_reachable _ (by decide) 1).trans (by decide)

end Broker

end Connectivity
