import Connectivity.Http.Gateway
import Connectivity.Proofs.Bystanders
import Connectivity.Proofs.Gate
/-! Callers that are no system uid. Whatever one of them asks, and when a stream of its own closes, the
suppliers, the policies and the default network stay, and so does all that belongs to others. -/
namespace Connectivity

/-! What a request may ask for is asked for in the name of its caller. -/

/-- The command is one that requests can bring, and `u` is who it says it is from. -/
def Command.IsFrom (u : Uid) : Command → Prop
  | .registerSupplier caller .. | .unregisterSupplier caller _ | .updateInfo caller ..
  | .updateCapabilities caller .. | .updateLink caller .. | .deactivate caller _
  | .setUidPolicy caller .. | .setBackgroundPolicy caller _ | .setUidBackground caller .. =>
    caller = u
  | .status => True
  | .registerListener .. | .unregisterListener _ | .activate .. | .request _ => False

def HttpCall.IsFrom (u : Uid) : HttpCall → Prop
  | .view _ => True
  | .command c => c.IsFrom u
  | .stream uid .. => uid = u

theorem Operation.isFrom {op : Operation} {u : Uid} {params : List (List Char)} {query : List Char}
    {q : HttpRequest} {call : HttpCall} (done : op.callOf u params query q = .ok call) :
    call.IsFrom u := by
  cases op with
  | status | networks | default | hasDefault | getBackground =>
    cases done
    exact trivial
  | trackDefault =>
    cases done
    exact rfl
  | registerSupplier | activate | listen | setBackground | unregisterSupplier | deactivate =>
    obtain ⟨_, _, done⟩ := bind_eq_ok_iff.1 done
    cases done
    exact rfl
  | getSupplier | link | capabilities | getUidPolicy | uidsWithPolicy | backgroundOfUid =>
    obtain ⟨_, _, done⟩ := bind_eq_ok_iff.1 done
    cases done
    exact trivial
  | updateInfo | updateCapabilities | updateLink | setUidPolicy | setUidState =>
    obtain ⟨_, _, done⟩ := bind_eq_ok_iff.1 done
    obtain ⟨_, _, done⟩ := bind_eq_ok_iff.1 done
    cases done
    exact rfl
  | networksOfType =>
    obtain ⟨given, _, done⟩ := bind_eq_ok_iff.1 done
    split at done
    · cases done
      exact trivial
    · cases done
  | uidAllowed =>
    obtain ⟨_, _, done⟩ := bind_eq_ok_iff.1 done
    obtain ⟨_, _, done⟩ := bind_eq_ok_iff.1 done
    obtain ⟨_, _, done⟩ := bind_eq_ok_iff.1 done
    cases done
    exact trivial

theorem Gateway.isFrom {g : Gateway} {u : Uid} {q : HttpRequest} {call : HttpCall}
    (caller : ∀ v, q.headers.caller g.token = .ok v → v = u) (done : g.callOf q = .ok call) :
    call.IsFrom u := by
  unfold callOf at done
  dsimp only at done
  split at done
  · cases done
  · split at done
    · cases done
    · split at done
      · cases done
      · rename_i v known
        rw [caller v known] at done
        exact Operation.isFrom done

/-- Where this fails, it is not with a stream. -/
def OpensNone {α : Type} (x : Except HttpResponse α) : Prop := ∀ l q, x ≠ .error (.stream l q)

theorem Operation.opensNone (op : Operation) (caller : Uid) (params : List (List Char))
    (query : List Char) (q : HttpRequest) : OpensNone (op.callOf caller params query q) :=
  fun _ _ opened => nomatch op.rejects caller params query q _ opened

theorem Gateway.opensNone (g : Gateway) (q : HttpRequest) : OpensNone (g.callOf q) := by
  intro l r opened
  unfold callOf at opened
  dsimp only at opened
  split at opened
  · cases opened
  · split at opened
    · cases opened
    · split at opened
      · cases opened
      · exact Operation.opensNone _ _ _ _ q l r opened

structure Exchange.Confined (u : Uid) (s : Service) (x : Exchange) : Prop where
  untouched : s.broker.Untouched u x.service.broker
  sent : ∀ l n, (l, n) ∈ x.deeds.sent → x.service.broker.hub.uid? l = some u
  stream : ∀ l q, x.response = .stream l q → x.service.broker.hub.uid? l = some u

namespace Broker
variable {u : Uid} {b : Broker}

/-- A command of a caller that is no system uid is refused, looks only, or ends a request of its
own. -/
theorem untouched_step (unprivileged : b.firewall.isSystem u = false) {c : Command}
    (asked : c.IsFrom u) : b.Untouched u (b.step c).broker ∧ (b.step c).deeds.sent = [] := by
  rcases b.step_cases c with ⟨e, refused⟩ | ⟨a, t, carried, done⟩
  · rw [refused]
    exact ⟨.refl u b, rfl⟩
  · rw [done]
    have denied : ∀ {caller : Uid}, b.firewall.isSystem caller = true → caller ≠ u := by
      rintro caller system rfl
      exact Bool.noConfusion (system.symm.trans unprivileged)
    cases carried with
    | known system | registered system | unregistered system | informed system | equipped system
    | linked system | policed system | restricted system | grounded system =>
      exact absurd asked (denied system)
    | joined | left | activated | looked => exact asked.elim
    | deactivated found allowed =>
      obtain rfl : _ = u := asked
      have own := allowed.resolve_left (by simp [unprivileged])
      exact ⟨untouched_deactivate found own, rfl⟩
    | counted => exact ⟨.refl u b, rfl⟩

end Broker

namespace Service

theorem call_cases (s : Service) (c : Command) :
    s.call c = ⟨.error .notReady, s, {}⟩ ∨
      (s.ready && s.stage == .serving) = true ∧
        s.call c = ⟨(s.broker.step c).reply, { s with broker := (s.broker.step c).broker },
          (s.broker.step c).deeds⟩ := by
  unfold call
  split
  · rename_i serving
    exact .inr ⟨serving, rfl⟩
  · exact .inl rfl

end Service

namespace Gateway
variable {g : Gateway} {s : Service} {u : Uid}

/-- The request is dealt with in the end. A search for a fresh id is not, where every id is in use. -/
def Ends (g : Gateway) (s : Service) (q : HttpRequest) : Prop :=
  ∀ uid kind specifier, g.callOf q = .ok (.stream uid kind specifier) →
    s.broker.hub.listeners.HasRoom ∧ (specifier.flaw? = none → s.broker.matcher.requests.HasRoom)

theorem confined_of_same {x : Exchange} (same : x.service = s) (silent : x.deeds.sent = [])
    (other : ∀ l q, x.response ≠ .stream l q) : x.Confined u s where
  untouched := by
    rw [same]
    exact .refl u s.broker
  sent l n listed := by
    rw [silent] at listed
    cases listed
  stream l q opened := absurd opened (other l q)

theorem untouched_unregister (reached : s.broker.Reachable) {l : ListenerId}
    (own : s.broker.hub.uid? l = some u) :
    s.broker.Untouched u (s.call (.unregisterListener l)).service.broker := by
  rcases s.call_cases (.unregisterListener l) with unready | ⟨-, called⟩
  · rw [unready]
    exact .refl u s.broker
  · rw [called]
    rcases s.broker.step_cases (.unregisterListener l) with ⟨e, refused⟩ | ⟨a, t, carried, done⟩
    · rw [refused]
      exact .refl u s.broker
    · rw [done]
      cases carried with
      | left there => exact Broker.untouched_dropListener reached.orderly own

/-- The second half of opening a stream: the listener is there, and is given its request. -/
def giveRequest (s : Service) (kind : RequestKind) (specifier : Specifier) (l : ListenerId) :
    Exchange :=
  let active := s.call (.activate kind specifier l)
  match active.id with
  | .ok request => ⟨.stream l request, active.service, active.deeds⟩
  | .error r => ⟨.ofRefusal r, (active.service.call (.unregisterListener l)).service, {}⟩

theorem confined_giveRequest (reached : s.broker.Reachable) (kind : RequestKind)
    (specifier : Specifier) {l : ListenerId} (own : s.broker.hub.uid? l = some u)
    (requests : specifier.flaw? = none → s.broker.matcher.requests.HasRoom) :
    (giveRequest s kind specifier l).Confined u s := by
  have takenBack : ∀ {r : Refusal},
      (⟨.ofRefusal r, (s.call (.unregisterListener l)).service, {}⟩ : Exchange).Confined u s := {
    untouched := untouched_unregister reached own
    sent := fun l n listed => by cases listed
    stream := fun l q opened => by cases opened }
  unfold giveRequest
  rcases s.call_cases (.activate kind specifier l) with unready | ⟨-, called⟩
  · rw [unready]
    exact takenBack
  · rw [called]
    rcases s.broker.step_cases (.activate kind specifier l) with ⟨e, refused⟩ | ⟨a, t, carried, done⟩
    · rw [refused]
      exact takenBack
    · rw [done]
      cases carried with
      | @activated _ _ _ hub sound attached =>
        have room := requests sound
        have matched := reached.matched
        have start := (Turn.From.begin (s.broker.withRequest kind specifier l hub)).reevaluate
          (.request (s.broker.matcher.activate kind specifier l).1)
        have still : ((s.broker.withRequest kind specifier l hub).begin.reevaluate
            (.request (s.broker.matcher.activate kind specifier l).1)).broker.hub.uid? l = some u := by
          have listeners := start.kept.listeners.trans (Hub.attach_eq_ok attached).2
          exact (Hub.uid?_of_modify listeners (fun _ => rfl) l).trans own
        exact {
          untouched := Broker.untouched_activate reached.orderly matched room own attached
          sent := fun k n listed => by
            rw [Broker.sent_activate reached.orderly matched room attached listed]
            exact still
          stream := fun k q opened => by
            cases opened
            exact still }

theorem confined_openStream (reached : s.broker.Reachable) (kind : RequestKind)
    (specifier : Specifier) (listeners : s.broker.hub.listeners.HasRoom)
    (requests : specifier.flaw? = none → s.broker.matcher.requests.HasRoom) :
    (g.openStream s u kind specifier).Confined u s := by
  have refused : ∀ {r : Refusal}, (⟨.ofRefusal r, s, {}⟩ : Exchange).Confined u s :=
    confined_of_same rfl rfl (fun l q opened => by cases opened)
  unfold openStream
  rcases s.call_cases (.registerListener u (.newChannel g.queueDepth)) with unready | ⟨-, called⟩
  · rw [unready]
    exact refused
  · have after := reached.accept (.command (.registerListener u (.newChannel g.queueDepth)))
      (fun _ => listeners)
    rw [called]
    rcases s.broker.step_cases (.registerListener u (.newChannel g.queueDepth)) with
      ⟨e, full⟩ | ⟨a, t, carried, done⟩
    · rw [full]
      exact refused
    · simp only [Broker.accept, done] at after ⊢
      cases carried with
      | @joined _ _ l hub registered =>
        have own : hub.uid? l = some u := by
          rw [Hub.uid?, (Hub.register_eq_ok registered).2.2, Table.find?_insert, if_pos rfl]
          rfl
        have given := confined_giveRequest (s := { s with broker := { s.broker with hub } }) after
          kind specifier own requests
        have joined := Broker.untouched_register listeners registered
        exact ⟨joined.trans given.untouched, given.sent, given.stream⟩

theorem confined_carryOut (reached : s.broker.Reachable)
    (unprivileged : s.broker.firewall.isSystem u = false) {call : HttpCall} (asked : call.IsFrom u)
    (room : ∀ uid kind specifier, call = .stream uid kind specifier →
      s.broker.hub.listeners.HasRoom ∧
        (specifier.flaw? = none → s.broker.matcher.requests.HasRoom)) :
    (g.carryOut s call).Confined u s := by
  cases call with
  | view f =>
    refine confined_of_same rfl rfl (fun l q opened => ?_)
    simp only [carryOut, HttpResponse.ofReply] at opened
    split at opened <;> cases opened
  | command c =>
    obtain ⟨untouched, silent⟩ := Broker.untouched_step unprivileged asked
    have closed : ∀ (reply : Except Refusal Answer) (l : ListenerId) (q : RequestId),
        HttpResponse.ofReply Answer.toJson reply ≠ .stream l q := by
      intro reply l q opened
      cases reply <;> cases opened
    simp only [carryOut]
    rcases s.call_cases c with unready | ⟨-, called⟩
    · rw [unready]
      exact confined_of_same rfl rfl (closed (.error .notReady))
    · rw [called]
      exact {
        untouched
        sent := fun l n listed => by
          rw [silent] at listed
          cases listed
        stream := fun l q opened => absurd opened (closed _ l q) }
  | stream uid kind specifier =>
    obtain rfl : uid = u := asked
    obtain ⟨listeners, requests⟩ := room uid kind specifier rfl
    exact confined_openStream reached kind specifier listeners requests

theorem confined_forHeadersAlone {x : Exchange} (confined : x.Confined u s) :
    (forHeadersAlone x).Confined u s := by
  unfold forHeadersAlone
  cases response : x.response with
  | bare status =>
    exact ⟨confined.untouched, confined.sent, fun l q opened => by cases opened⟩
  | envelope e =>
    exact ⟨confined.untouched, confined.sent, fun l q opened => by cases opened⟩
  | stream k r =>
    have own := confined.stream k r response
    have gone : x.service.broker.Untouched u (x.service.disconnect k).broker := by
      refine Broker.untouched_disconnect (fun v known => ?_)
      exact Option.some.inj (known.symm.trans own)
    exact {
      untouched := confined.untouched.trans gone
      sent := confined.sent
      stream := fun l q opened => by
        cases opened
        exact own }

theorem confined_answer (reached : s.broker.Reachable)
    (unprivileged : s.broker.firewall.isSystem u = false) {q : HttpRequest}
    (caller : ∀ v, q.headers.caller g.token = .ok v → v = u) (ends : g.Ends s q) :
    (g.answer s q).Confined u s := by
  have refused {response : HttpResponse} (failed : g.callOf q = .error response) :
      (⟨response, s, {}⟩ : Exchange).Confined u s :=
    confined_of_same rfl rfl (fun l r opened => g.opensNone q l r (opened ▸ failed))
  have served {call : HttpCall} (asked : g.callOf q = .ok call) : (g.carryOut s call).Confined u s := by
    refine confined_carryOut reached unprivileged (g.isFrom caller asked) ?_
    rintro uid kind specifier rfl
    exact ends uid kind specifier asked
  unfold answer
  split
  · exact confined_of_same rfl rfl (fun l q opened => by cases opened)
  · dsimp only
    split
    · refine confined_forHeadersAlone ?_
      split
      · exact refused (by assumption)
      · exact served (by assumption)
    · split
      · exact refused (by assumption)
      · exact served (by assumption)

end Gateway

/-- Whatever a caller `u` that is no system uid asks, and when a stream of `u` closes: nothing changes
that is not `u`'s own, and nobody but `u` is sent anything. A stream that closes is dealt with in two
steps, its end and the report of that, and an idle broker left to itself after it does no more. -/
theorem Broker.Reachable.unprivileged_confined {g : Gateway} {s : Service} {u : Uid}
    (reached : s.broker.Reachable) (unprivileged : s.broker.firewall.isSystem u = false) :
    (∀ q : HttpRequest, (∀ v, q.headers.caller g.token = .ok v → v = u) → g.Ends s q →
      (g.answer s q).Confined u s) ∧
    ∀ l, (∀ v, s.broker.hub.uid? l = some v → v = u) →
      s.broker.Untouched u (s.disconnect l).broker ∧
      s.broker.Untouched u (s.broker.accept (.death l)).broker ∧
      (s.broker.accept (.death l)).deeds.sent = [] ∧
      (s.broker.Idle → s.broker.Untouched u (s.disconnect l).settle.broker) := by
  refine ⟨fun q caller ends => ?_, fun l own => ⟨?_, ?_, rfl, fun idle => ?_⟩⟩
  · exact Gateway.confined_answer reached unprivileged caller ends
  · exact Broker.untouched_disconnect own
  · exact Broker.untouched_bury reached.orderly own
  · exact Broker.untouched_idle reached idle own

def crowdedService : Service :=
  { broker := Broker.mixedRequests.after [
      .command (.registerListener 11 (.newChannel 4)),
      .command (.activate .trackDefault {} 2)]
    stage := .serving
    ready := true }

def plainGateway : Gateway := { token := "netbroker.broker.v1", queueDepth := 4 }

def strangersRequest : HttpRequest :=
  { method := "POST"
    target := "/api/requests"
    headers := [("x-netbroker-interface", "netbroker.broker.v1"), ("x-netbroker-uid", "11"),
      ("content-type", "application/json")]
    body := String.ofList ['{', '}'] }

theorem strangersRequest_caller :
    strangersRequest.headers.caller plainGateway.token = .ok 11 := by decide +kernel

theorem strangersRequest_call :
    plainGateway.callOf strangersRequest = .ok (.stream 11 .request {}) := by
  have target : Uri.ofTarget strangersRequest.target = ("/api/requests".toList, []) := by
    decide +kernel
  have below : Uri.segmentsBelow Gateway.basePath "/api/requests".toList =
      some ["requests".toList] := by decide +kernel
  have endpoint : Endpoint.find? ["requests".toList] =
      some (⟨[Endpoint.word "requests"], [("POST", .activate)]⟩, []) := by rfl
  have operation : Endpoint.operation? ⟨[Endpoint.word "requests"], [("POST", .activate)]⟩
      strangersRequest.method = some .activate := by rfl
  have declared : strangersRequest.headers.hasJson = true := by decide +kernel
  have body : Json.decodeText Specifier.decode strangersRequest.body = .ok {} := rfl
  simp only [Gateway.callOf, target, below, Option.bind_some, endpoint, operation,
    strangersRequest_caller, Operation.callOf, HttpRequest.bodyAs, declared, body]
  rfl

theorem unprivileged_confined_stranger :
    crowdedService.broker.Reachable ∧ crowdedService.broker.firewall.isSystem 11 = false ∧
    (plainGateway.answer crowdedService strangersRequest).Confined 11 crowdedService ∧
    (plainGateway.answer crowdedService strangersRequest).deeds.sent = [(3, ⟨5, .available 1⟩)] ∧
    crowdedService.broker.Untouched 11 (crowdedService.disconnect 2).broker := by
  have reached : crowdedService.broker.Reachable :=
    Broker.Reachable.after Broker.mixedRequests_reachable (by decide)
  have unprivileged : crowdedService.broker.firewall.isSystem 11 = false := by decide
  have confined := Broker.Reachable.unprivileged_confined reached unprivileged (g := plainGateway)
  refine ⟨reached, unprivileged, confined.1 strangersRequest ?_ ?_, ?_, (confined.2 2 ?_).1⟩
  · intro v known
    rw [strangersRequest_caller] at known
    exact (Except.ok.inj known).symm
  · intro uid kind specifier asked
    exact ⟨by decide, fun _ => by decide⟩
  · have opened : plainGateway.answer crowdedService strangersRequest =
        plainGateway.openStream crowdedService 11 .request {} := by
      simp only [Gateway.answer, strangersRequest_call, Gateway.carryOut]
      rfl
    rw [opened]
    decide +kernel
  · intro v known
    exact Option.some.inj (known.symm.trans (by decide))

end Connectivity
