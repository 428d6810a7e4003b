import Connectivity.Proofs.Independence
import Connectivity.Proofs.Reads
import Connectivity.Proofs.Unprivileged
/-! Callers that name no uid. They count as one uid like any other, so they govern nothing and end no
request of a named uid as long as the settings do not make that one uid a system uid. Nothing but the
settings sees to that. -/
namespace Connectivity

structure Headers.Nameless (h : Headers) (token : String) : Prop where
  token : h.visible? tokenHeader = some token
  uid : h.first? uidHeader = none

theorem Headers.Nameless.caller {h : Headers} {token : String} (nameless : h.Nameless token) :
    h.caller token = .ok anonymousUid := by
  simp only [Headers.caller, nameless.token, nameless.uid, ne_eq, not_true_eq_false, if_false]

def HttpRequest.Asks (q : HttpRequest) (op : Operation) : Prop :=
  ∃ endpoint params, q.endpoint? = some (endpoint, params) ∧
    endpoint.operation? q.method = some op

/-- The path, the query or the body could not be understood. -/
def HttpResponse.Unread (response : HttpResponse) : Prop :=
  ∃ status ∈ [400, 415, 422], response = .bare status

namespace Operation

/-- Suppliers or policies are changed by it. -/
def governs : Operation → Bool
  | registerSupplier | unregisterSupplier | updateInfo | updateCapabilities | updateLink
  | setUidPolicy | setUidState | setBackground => true
  | _ => false

variable {op : Operation} {u : Uid} {params : List (List Char)} {query : List Char}
  {q : HttpRequest}

theorem unread_of_governs (governs : op.governs = true) :
    FailsAs HttpResponse.Unread (op.callOf u params query q) := by
  have bare : ∀ status ∈ [400, 415, 422], HttpResponse.Unread (.bare status) :=
    fun status among => ⟨status, among, rfl⟩
  have id := failsAs_idParameter bare params
  cases op with
  | registerSupplier | setBackground =>
    exact failsAs_bind (failsAs_bodyAs bare q _) (fun _ => failsAs_ok _)
  | unregisterSupplier => exact failsAs_bind id (fun _ => failsAs_ok _)
  | updateInfo | updateCapabilities | updateLink | setUidPolicy | setUidState =>
    exact failsAs_bind id (fun _ => failsAs_bind (failsAs_bodyAs bare q _) (fun _ => failsAs_ok _))
  | _ => cases governs

theorem command_of_governs (governs : op.governs = true) {call : HttpCall}
    (done : op.callOf u params query q = .ok call) :
    ∃ c, call = .command c ∧ ∀ b : Broker, b.firewall.isSystem u = false →
      b.step c = ⟨.error (.notPermitted u), b, {}⟩ := by
  have refused {b : Broker} (other : b.firewall.isSystem u = false) :
      b.authorize u = .error (.notPermitted u) := by
    rw [Broker.authorize, other]
    rfl
  cases op with
  | registerSupplier | setBackground | unregisterSupplier =>
    obtain ⟨_, _, done⟩ := bind_eq_ok_iff.1 done
    cases done
    refine ⟨_, rfl, fun b other => ?_⟩
    simp only [Broker.step, Broker.perform, refused other]
    rfl
  | updateInfo | updateCapabilities | updateLink | setUidPolicy | setUidState =>
    obtain ⟨_, _, done⟩ := bind_eq_ok_iff.1 done
    obtain ⟨_, _, done⟩ := bind_eq_ok_iff.1 done
    cases done
    refine ⟨_, rfl, fun b other => ?_⟩
    simp only [Broker.step, Broker.perform, refused other]
    rfl
  | _ => cases governs

end Operation

namespace HttpRequest
variable {q : HttpRequest} {op : Operation}

theorem Asks.routed (asks : q.Asks op) : q.Routed := by
  obtain ⟨endpoint, params, found, there⟩ := asks
  exact ⟨endpoint, params, op, found, there⟩

theorem Asks.method_ne (asks : q.Asks op) (governs : op.governs = true) : q.method ≠ "HEAD" := by
  have none : ∀ e ∈ Endpoint.all, (e.operation? "HEAD").all (fun op => !op.governs) = true := by
    decide
  obtain ⟨endpoint, params, found, there⟩ := asks
  obtain ⟨_, _, found⟩ := Option.bind_eq_some_iff.1 found
  intro same
  have idle := none endpoint (Endpoint.mem_all_of_find? found)
  rw [← same, there] at idle
  simp [governs] at idle

end HttpRequest

namespace Gateway
variable {g : Gateway} {s : Service} {q : HttpRequest} {op : Operation} {u : Uid}

theorem callOf_of_asks (asks : q.Asks op) (known : q.headers.caller g.token = .ok u) :
    ∃ params, g.callOf q = op.callOf u params (Uri.ofTarget q.target).2 q := by
  obtain ⟨endpoint, params, found, there⟩ := asks
  refine ⟨params, ?_⟩
  simp only [callOf_eq_dispatch, dispatch, found, there, Operation.handle_eq,
    RoutedRequest.caller, known]
  rfl

theorem answer_of_governs (running : s.Running) (asks : q.Asks op) (governs : op.governs = true)
    (known : q.headers.caller g.token = .ok u)
    (unprivileged : s.broker.firewall.isSystem u = false) :
    ((g.answer s q).response.Unread ∨ (g.answer s q).response = .ofRefusal (.notPermitted u)) ∧
      (g.answer s q).service = s ∧ (g.answer s q).deeds = {} := by
  obtain ⟨ready, serving, -⟩ := running.serves
  obtain ⟨params, called⟩ := callOf_of_asks asks known
  rw [answer, if_neg asks.routed.method_ne, if_neg (asks.method_ne governs), called]
  cases done : op.callOf u params (Uri.ofTarget q.target).2 q with
  | error response => exact ⟨.inl (Operation.unread_of_governs governs response done), rfl, rfl⟩
  | ok call =>
    obtain ⟨c, rfl, refused⟩ := Operation.command_of_governs governs done
    have done := Service.call_of_serving ready serving c
    rw [refused s.broker unprivileged] at done
    simp only [carryOut, done]
    exact ⟨.inr rfl, trivial, trivial⟩

/-- Callers that name no uid are kept out. What they ask of suppliers or policies is refused, if it can
be understood, and nothing comes of it; and whatever they ask to end, the requests of listeners under
other uids stay as they are. -/
structure KeepsOut (g : Gateway) (s : Service) : Prop where
  governing : ∀ q op, q.headers.Nameless g.token → q.Asks op → op.governs = true →
    ((g.answer s q).response.Unread ∨
        (g.answer s q).response = .ofRefusal (.notPermitted anonymousUid)) ∧
      (g.answer s q).service = s ∧ (g.answer s q).deeds = {}
  ending : ∀ q, q.headers.Nameless g.token → q.Asks .deactivate → ∀ id r v, v ≠ anonymousUid →
    s.broker.matcher.find? id = some r → s.broker.hub.uid? r.listener = some v →
    (g.answer s q).service.broker.matcher.find? id = some r

theorem keepsOut_of_unprivileged (running : s.Running)
    (unprivileged : s.broker.firewall.isSystem anonymousUid = false) : g.KeepsOut s where
  governing q op nameless asks governs :=
    answer_of_governs running asks governs nameless.caller unprivileged
  ending q nameless asks id r v named found owner := by
    have caller : ∀ v, q.headers.caller g.token = .ok v → v = anonymousUid := fun v known =>
      (Except.ok.inj (nameless.caller.symm.trans known)).symm
    have ends : g.Ends s q := by
      intro uid kind specifier opens
      obtain ⟨params, called⟩ := callOf_of_asks asks nameless.caller
      rw [called] at opens
      obtain ⟨_, _, done⟩ := bind_eq_ok_iff.1 opens
      cases done
    have confined := confined_answer running.serves.2.2 unprivileged caller ends
    exact ((confined.untouched.requests id r v named).2 ⟨found, owner⟩).1

def namelessRequest (g : Gateway) (restricted : Bool) : HttpRequest where
  method := "PUT"
  target := "/api/policy/background"
  headers := [(tokenHeader, g.token), ("content-type", "application/json")]
  body := if restricted then "\x7b\"restricted\":true\x7d" else "\x7b\"restricted\":false\x7d"

theorem namelessRequest_nameless (spoken : ∀ c ∈ g.token.toList, Headers.isVisible c = true)
    (restricted : Bool) : (g.namelessRequest restricted).headers.Nameless g.token where
  token := by
    have first : (g.namelessRequest restricted).headers.first? tokenHeader = some g.token := by
      have same : (tokenHeader.toLower == tokenHeader) = true := by decide +kernel
      simp only [Headers.first?, namelessRequest, List.find?_cons, same, Option.map_some]
    rw [Headers.visible?, first]
    simp [Option.filter, List.all_eq_true.2 spoken]
  uid := by
    have token : (tokenHeader.toLower == uidHeader) = false := by decide +kernel
    have body : ("content-type".toLower == uidHeader) = false := by decide +kernel
    simp [Headers.first?, namelessRequest, token, body]

theorem namelessRequest_asks (g : Gateway) (restricted : Bool) :
    (g.namelessRequest restricted).Asks .setBackground := by
  have target : Uri.ofTarget "/api/policy/background" = ("/api/policy/background".toList, []) := by
    decide +kernel
  have below : Uri.segmentsBelow Gateway.basePath "/api/policy/background".toList =
      some ["policy".toList, "background".toList] := by decide +kernel
  refine ⟨⟨[Endpoint.word "policy", Endpoint.word "background"],
    [("GET", .getBackground), ("PUT", .setBackground)]⟩, [], ?_, rfl⟩
  simp only [HttpRequest.endpoint?, namelessRequest, target, below, Option.bind_some]
  rfl

/-- The request is granted where nameless callers are system uids. -/
theorem answer_namelessRequest (running : s.Running)
    (spoken : ∀ c ∈ g.token.toList, Headers.isVisible c = true)
    (privileged : s.broker.firewall.isSystem anonymousUid = true) (restricted : Bool) :
    (g.answer s (g.namelessRequest restricted)).response = .envelope (.ofValue .null) ∧
      (g.answer s (g.namelessRequest restricted)).service =
        { s with broker := (s.broker.setBackgroundPolicy restricted).2.broker } := by
  obtain ⟨ready, serving, -⟩ := running.serves
  have asks := g.namelessRequest_asks restricted
  obtain ⟨params, called⟩ := callOf_of_asks asks (g.namelessRequest_nameless spoken restricted).caller
  have declared : (g.namelessRequest restricted).headers.hasJson = true := by
    have token : (tokenHeader.toLower == "content-type") = false := by decide +kernel
    have body : ("content-type".toLower == "content-type") = true := by decide +kernel
    have first : (g.namelessRequest restricted).headers.first? "content-type" =
        some "application/json" := by
      simp [Headers.first?, namelessRequest, token, body]
    rw [Headers.hasJson, Headers.visible?, first]
    decide +kernel
  have body : Json.decodeText (decodeOnly "restricted" Json.decodeBool)
      (g.namelessRequest restricted).body = .ok restricted := by
    simp only [namelessRequest]
    cases restricted <;> decide +kernel
  have call : g.callOf (g.namelessRequest restricted) =
      .ok (.command (.setBackgroundPolicy anonymousUid restricted)) := by
    rw [called]
    simp only [Operation.callOf, HttpRequest.bodyAs, declared, body]
    rfl
  have granted : s.broker.step (.setBackgroundPolicy anonymousUid restricted) =
      ⟨.ok (s.broker.setBackgroundPolicy restricted).1, (s.broker.setBackgroundPolicy restricted).2.broker,
        (s.broker.setBackgroundPolicy restricted).2.deeds⟩ := by
    simp only [Broker.step, Broker.perform, Broker.authorize, privileged]
    rfl
  have done := Service.call_of_serving ready serving (.setBackgroundPolicy anonymousUid restricted)
  rw [granted] at done
  rw [answer, if_neg asks.routed.method_ne, if_neg (asks.method_ne rfl), call]
  simp only [carryOut, done]
  exact ⟨rfl, trivial⟩

theorem not_keepsOut_of_privileged (running : s.Running)
    (spoken : ∀ c ∈ g.token.toList, Headers.isVisible c = true)
    (privileged : s.broker.firewall.isSystem anonymousUid = true) : ¬ g.KeepsOut s := by
  intro keptOut
  obtain ⟨answered, -, -⟩ := keptOut.governing _ _ (g.namelessRequest_nameless spoken true)
    (g.namelessRequest_asks true) rfl
  rw [(answer_namelessRequest running spoken privileged true).1] at answered
  rcases answered with ⟨_, _, unread⟩ | refused
  · cases unread
  · cases refused

end Gateway

namespace Broker

theorem accept_system (b : Broker) (i : Input) :
    (b.accept i).broker.firewall.system = b.firewall.system := by
  rcases b.accept_cases i with same | ⟨c, a, -, carried, -⟩ | ⟨l, -, there, dropped⟩
  · rw [same]
    rfl
  · rw [firewall, carried.store, PolicyStore.after_firewall, Firewall.after_system]
    rfl
  · obtain ⟨owner, known⟩ := Hub.find?_of_contains there
    rw [dropped, dropListener_eq known]
    rfl

/-- A broker starts with the system uids of its settings, whatever policies are kept from before. -/
theorem start_isSystem (settings : BrokerSettings) (keeps : Bool) (file : PolicyFile) (u : Uid) :
    (Broker.new settings keeps file).start.firewall.isSystem u = settings.systemUids.contains u := by
  have system : (Broker.new settings keeps file).start.firewall.system =
      .ofList settings.systemUids := by
    cases keeps <;> cases file <;> rfl
  rw [Firewall.isSystem, system, IdSet.contains_ofList]

end Broker

/-- Callers that name no uid are kept out exactly as long as their common uid is no system uid. Nobody
becomes a system uid while the broker runs, so this is settled when it starts: by its settings, which
may list any uid. -/
theorem Service.Running.keepsOut_iff {s : Service} (running : s.Running) {g : Gateway}
    (spoken : ∀ c ∈ g.token.toList, Headers.isVisible c = true) :
    (g.KeepsOut s ↔ s.broker.firewall.isSystem anonymousUid = false) ∧
      (∀ i u, (s.broker.accept i).broker.firewall.isSystem u = s.broker.firewall.isSystem u) ∧
      ∀ settings keeps file u,
        (Service.start { broker := .new settings keeps file }).broker.firewall.isSystem u =
          settings.systemUids.contains u := by
  refine ⟨⟨fun keptOut => ?_, Gateway.keepsOut_of_unprivileged running⟩, fun i u => ?_,
    Broker.start_isSystem⟩
  · by_contra privileged
    exact Gateway.not_keepsOut_of_privileged running spoken (Bool.of_not_eq_false privileged) keptOut
  · rw [Firewall.isSystem, Broker.accept_system]
    rfl

theorem keepsOut_iff_crowdedService :
    crowdedService.Running ∧ (∀ c ∈ plainGateway.token.toList, Headers.isVisible c = true) ∧
      plainGateway.KeepsOut crowdedService := by
  have running : crowdedService.Running :=
    Service.running_of_reachable (Broker.Reachable.after Broker.mixedRequests_reachable (by decide))
  have spoken : ∀ c ∈ plainGateway.token.toList, Headers.isVisible c = true :=
    List.all_eq_true.1 (by decide +kernel)
  exact ⟨running, spoken, (running.keepsOut_iff spoken).1.2 (by decide)⟩

/-- The settings list the uid that nameless callers share. Uid 10 has a request. -/
def lenientService : Service where
  broker := (Broker.new { systemUids := [0, anonymousUid] } false .absent).start.after [
    .command (.registerListener 10 (.newChannel 4)),
    .command (.activate .request {} 1)]
  stage := .serving
  ready := true

def namelessEnding : HttpRequest where
  method := "DELETE"
  target := "/api/requests/1"
  headers := [(tokenHeader, plainGateway.token)]

theorem namelessEnding_call :
    plainGateway.callOf namelessEnding = .ok (.command (.deactivate anonymousUid 1)) := by
  have target : Uri.ofTarget namelessEnding.target = ("/api/requests/1".toList, []) := by
    decide +kernel
  have below : Uri.segmentsBelow Gateway.basePath "/api/requests/1".toList =
      some ["requests".toList, "1".toList] := by decide +kernel
  have endpoint : Endpoint.find? ["requests".toList, "1".toList] =
      some (⟨[Endpoint.word "requests", .param], [("DELETE", .deactivate)]⟩, ["1".toList]) := by rfl
  have operation : Endpoint.operation? ⟨[Endpoint.word "requests", .param], [("DELETE", .deactivate)]⟩
      namelessEnding.method = some .deactivate := by rfl
  have caller : namelessEnding.headers.caller plainGateway.token = .ok anonymousUid := by
    decide +kernel
  have id : idParameter ["1".toList] = .ok 1 := by rfl
  simp only [Gateway.callOf, target, below, Option.bind_some, endpoint, operation, caller,
    Operation.callOf, id]
  rfl

theorem not_keepsOut_lenientService :
    lenientService.Running ∧ ¬ plainGateway.KeepsOut lenientService ∧
      lenientService.broker.firewall.restricted = true ∧
      (plainGateway.answer lenientService
        (plainGateway.namelessRequest false)).service.broker.firewall.restricted = false ∧
      (lenientService.broker.matcher.find? 1).isSome = true ∧
      (plainGateway.answer lenientService namelessEnding).service.broker.matcher.find? 1 = none := by
  have running : lenientService.Running :=
    Service.running_of_reachable (Broker.Reachable.after (.start _ _ _) (by decide))
  have spoken : ∀ c ∈ plainGateway.token.toList, Headers.isVisible c = true :=
    List.all_eq_true.1 (by decide +kernel)
  have privileged : lenientService.broker.firewall.isSystem anonymousUid = true := by decide
  have granted := (Gateway.answer_namelessRequest running spoken privileged false).2
  refine ⟨running, Gateway.not_keepsOut_of_privileged running spoken privileged, by decide, ?_,
    by decide, ?_⟩
  · rw [granted]
    decide
  · have ended : plainGateway.answer lenientService namelessEnding =
        plainGateway.carryOut lenientService (.command (.deactivate anonymousUid 1)) := by
      simp only [Gateway.answer, namelessEnding_call]
      rfl
    rw [ended]
    decide +kernel

end Connectivity
