import Mathlib.Data.List.TakeWhile
import Connectivity.Http.Handlers
import Connectivity.Proofs.Run
/-! Who is let in. Every handler asks for the caller before anything else, so a request without the
token, or with a uid that is none, is turned away as such, whatever else is wrong with it, and the
broker never hears of it. -/
namespace Connectivity

/-! The handlers. -/

theorem Operation.handle_eq (op : Operation) (r : RoutedRequest) :
    op.handle r = r.caller >>= fun caller => op.callOf caller r.params r.query r.request := by
  cases op <;> rfl

theorem Gateway.callOf_eq_dispatch (g : Gateway) (q : HttpRequest) : g.callOf q = g.dispatch q := by
  have lookup : (Uri.segmentsBelow basePath (Uri.ofTarget q.target).1).bind Endpoint.find? =
    q.endpoint? := rfl
  simp only [callOf, dispatch, lookup]
  cases q.endpoint? with
  | none => rfl
  | some found =>
    cases operation : found.1.operation? q.method with
    | none => simp only [operation]
    | some =>
      simp only [operation, Operation.handle_eq, RoutedRequest.caller]
      cases q.headers.caller g.token <;> rfl

/-- A request of a known caller that cannot be understood. -/
inductive HttpResponse.Faulty : HttpResponse → Prop where
  | bare {status : Nat} (among : status ∈ [400, 415, 422]) : Faulty (.bare status)
  | refused (r : Refusal) : Faulty (.ofRefusal r)

theorem Refusal.status_ne (r : Refusal) : r.code.httpStatus ≠ 401 := by cases r <;> nofun

theorem HttpResponse.Faulty.status_ne {response : HttpResponse} (faulty : response.Faulty) :
    response.status ≠ 401 := by
  cases faulty with
  | bare among =>
    rintro rfl
    exact absurd among (by decide)
  | refused r => exact r.status_ne

/-- Where this fails, the request could not be understood. -/
def Rejects {α : Type} (x : Except HttpResponse α) : Prop :=
  ∀ response, x = .error response → response.Faulty

/-- Where this fails, it is with such a response. -/
def FailsAs (P : HttpResponse → Prop) {α : Type} (x : Except HttpResponse α) : Prop :=
  ∀ response, x = .error response → P response

section
variable {α β : Type} {P : HttpResponse → Prop}

theorem failsAs_bind {x : Except HttpResponse α} {f : α → Except HttpResponse β}
    (first : FailsAs P x) (rest : ∀ a, FailsAs P (f a)) : FailsAs P (x >>= f) := by
  cases x with
  | error fault =>
    rintro response ⟨⟩
    exact first fault rfl
  | ok a => exact rest a

theorem failsAs_ok (a : α) : FailsAs P (.ok a) := fun _ => nofun

theorem failsAs_error {response : HttpResponse} (such : P response) :
    FailsAs P (.error response : Except HttpResponse α) := by
  rintro _ ⟨⟩
  exact such

variable (bare : ∀ status ∈ [400, 415, 422], P (.bare status))
include bare

theorem failsAs_bodyAs (q : HttpRequest) (d : Json.Decoder α) : FailsAs P (q.bodyAs d) := by
  unfold HttpRequest.bodyAs
  split
  · exact failsAs_error (bare 415 (by decide))
  · split
    · exact failsAs_ok _
    · exact failsAs_error (bare 400 (by decide))
    · exact failsAs_error (bare 422 (by decide))

theorem failsAs_textParameter (params : List (List Char)) : FailsAs P (textParameter params) := by
  unfold textParameter
  split
  · exact failsAs_ok _
  · exact failsAs_error (bare 400 (by decide))

theorem failsAs_idParameter (params : List (List Char)) : FailsAs P (idParameter params) := by
  refine failsAs_bind (failsAs_textParameter bare params) (fun s => ?_)
  split
  · exact failsAs_ok _
  · exact failsAs_error (bare 400 (by decide))

theorem failsAs_flagParameter (query : List Char) (name : String) :
    FailsAs P (flagParameter query name) := by
  unfold flagParameter
  split
  · exact failsAs_ok _
  · exact failsAs_error (bare 400 (by decide))

end

theorem Operation.rejects (op : Operation) (caller : Uid) (params : List (List Char))
    (query : List Char) (q : HttpRequest) : Rejects (op.callOf caller params query q) := by
  have bare : ∀ status ∈ [400, 415, 422], HttpResponse.Faulty (.bare status) := fun _ => .bare
  have id := failsAs_idParameter bare params
  cases op with
  | status | networks | default | hasDefault | getBackground | trackDefault => exact failsAs_ok _
  | registerSupplier | activate | listen | setBackground =>
    exact failsAs_bind (failsAs_bodyAs bare q _) (fun _ => failsAs_ok _)
  | unregisterSupplier | deactivate | getSupplier | link | capabilities | getUidPolicy
  | uidsWithPolicy | backgroundOfUid => exact failsAs_bind id (fun _ => failsAs_ok _)
  | updateInfo | updateCapabilities | updateLink | setUidPolicy | setUidState =>
    exact failsAs_bind id (fun _ => failsAs_bind (failsAs_bodyAs bare q _) (fun _ => failsAs_ok _))
  | networksOfType =>
    refine failsAs_bind (failsAs_textParameter bare params) (fun given => ?_)
    split
    · exact failsAs_ok _
    · exact failsAs_error (.refused _)
  | uidAllowed =>
    exact failsAs_bind id (fun _ => failsAs_bind (failsAs_flagParameter bare query _) (fun _ =>
      failsAs_bind (failsAs_flagParameter bare query _) (fun _ => failsAs_ok _)))

/-! The caller. -/

namespace Headers
variable {h : Headers} {name token : String}

theorem visible?_eq_some_iff {v : String} : h.visible? name = some v ↔
    h.first? name = some v ∧ ∀ c ∈ v.toList, isVisible c = true := by
  rw [visible?, Option.filter_eq_some_iff, List.all_eq_true]

theorem isVisible_of_isMargin {c : Char} (margin : isMargin c = true) : isVisible c = true := by
  simp only [isMargin, Bool.or_eq_true, beq_iff_eq] at margin
  rcases margin with rfl | rfl <;> rfl

theorem mem_dropWhile_or {p : Char → Bool} {cs : List Char} {c : Char} (there : c ∈ cs) :
    p c = true ∨ c ∈ cs.dropWhile p := by
  rw [← List.takeWhile_append_dropWhile (p := p) (l := cs), List.mem_append] at there
  exact there.imp_left (fun taken => List.mem_takeWhile_imp taken)

theorem isVisible_of_trimmed {v : String} (visible : ∀ c ∈ (trimmed v).toList, isVisible c = true) :
    ∀ c ∈ v.toList, isVisible c = true := by
  intro c there
  rcases mem_dropWhile_or there with margin | inner
  · exact isVisible_of_isMargin margin
  · rcases mem_dropWhile_or (List.mem_reverse.2 inner) with margin | inner
    · exact isVisible_of_isMargin margin
    · exact visible c (by simpa [trimmed] using inner)

theorem isVisible_of_denotes {v : String} {n : Nat} (denotes : Decimal.Denotes v n) :
    ∀ c ∈ v.toList, isVisible c = true := by
  have digit : ∀ c : Char, c.isDigit = true → isVisible c = true := by
    intro c digit
    simp only [Char.isDigit, Bool.and_eq_true, decide_eq_true_eq, ge_iff_le,
      UInt32.le_iff_toNat_le] at digit
    have low : 0x20 ≤ c.toNat := Nat.le_trans (by decide) digit.1
    have high : c.toNat < 0x7F := Nat.lt_of_le_of_lt digit.2 (by decide)
    simp [isVisible, low, high]
  obtain ⟨ds, shape | shape, -, digits, -⟩ := denotes
  · rw [shape]
    exact fun c there => digit c (digits c there)
  · rw [shape]
    intro c there
    rcases List.mem_cons.1 there with rfl | there
    · rfl
    · exact digit c (digits c there)

/-- The caller does not show the token, or gives a uid that is none. -/
inductive Stranger (h : Headers) (token : String) : Prop where
  | absent (missing : h.first? tokenHeader = none)
  | hidden {given : String} (first : h.first? tokenHeader = some given) {c : Char}
      (there : c ∈ given.toList) (dark : isVisible c = false)
  | different {given : String} (first : h.first? tokenHeader = some given) (other : given ≠ token)
  | malformed {given : String} (first : h.first? uidHeader = some given)
      (unread : ∀ n ≤ 0xFFFFFFFF, ¬ Decimal.Denotes (trimmed given) n)

theorem visible?_of_hidden {v : String} {c : Char} (first : h.first? name = some v)
    (there : c ∈ v.toList) (dark : isVisible c = false) : h.visible? name = none := by
  rw [Option.eq_none_iff_forall_ne_some]
  intro w visible
  obtain ⟨same, clear⟩ := visible?_eq_some_iff.1 visible
  obtain rfl := Option.some.inj (first.symm.trans same)
  exact Bool.false_ne_true (dark.symm.trans (clear c there))

/-- The uid that a header gives, if it is one. -/
theorem uid?_eq_some_iff {v : String} (first : h.first? uidHeader = some v) {n : Nat} :
    (h.visible? uidHeader).bind (fun s => Decimal.count? 0xFFFFFFFF (trimmed s)) = some n ↔
      Decimal.Denotes (trimmed v) n ∧ n ≤ 0xFFFFFFFF := by
  simp only [Option.bind_eq_some_iff, visible?_eq_some_iff, Decimal.count?_eq_some_iff, first]
  constructor
  · rintro ⟨w, ⟨same, -⟩, denotes, small⟩
    cases same
    exact ⟨denotes, small⟩
  · rintro ⟨denotes, small⟩
    have clear := isVisible_of_trimmed (isVisible_of_denotes denotes)
    exact ⟨v, ⟨rfl, clear⟩, denotes, small⟩

theorem stranger_iff : h.Stranger token ↔ ∃ fault, h.caller token = .error fault := by
  unfold caller
  constructor
  · intro stranger
    split
    · exact ⟨_, rfl⟩
    · rename_i shown visible
      obtain ⟨first, clear⟩ := visible?_eq_some_iff.1 visible
      split
      · exact ⟨_, rfl⟩
      · rename_i same
        cases stranger with
        | absent missing => cases missing.symm.trans first
        | hidden given there dark =>
          cases (visible?_of_hidden given there dark).symm.trans visible
        | different given other =>
          obtain rfl := Option.some.inj (given.symm.trans first)
          exact absurd other same
        | malformed given unread =>
          rw [given]
          dsimp only
          split
          · rename_i n read
            obtain ⟨denotes, small⟩ := (uid?_eq_some_iff given).1 read
            exact absurd denotes (unread n small)
          · exact ⟨_, rfl⟩
  · rintro ⟨fault, turned⟩
    split at turned
    · rename_i unseen
      cases first : h.first? tokenHeader with
      | none => exact .absent first
      | some given =>
        have dark : ¬ ∀ c ∈ given.toList, isVisible c = true := by
          intro clear
          cases unseen.symm.trans (visible?_eq_some_iff.2 ⟨first, clear⟩)
        simp only [not_forall, Bool.not_eq_true] at dark
        obtain ⟨c, there, dark⟩ := dark
        exact .hidden first there dark
    · rename_i shown visible
      split at turned
      · rename_i other
        exact .different (visible?_eq_some_iff.1 visible).1 other
      · split at turned
        · cases turned
        · rename_i given first
          split at turned
          · cases turned
          · rename_i unread
            refine .malformed first (fun n small denotes => ?_)
            cases unread.symm.trans ((uid?_eq_some_iff first).2 ⟨denotes, small⟩)

end Headers

/-! What comes of it. -/

/-- The path is that of an endpoint, and the method one that the endpoint has. -/
def HttpRequest.Routed (q : HttpRequest) : Prop :=
  ∃ endpoint params operation, q.endpoint? = some (endpoint, params) ∧
    endpoint.operation? q.method = some operation

/-- The exchange is over before the broker hears of it: the caller is told that the interface is not
open to it, with no value, and everything is as it was. A request for headers alone is told the same
without the body. -/
structure Exchange.TurnedAway (x : Exchange) (s : Service) (q : HttpRequest) : Prop where
  status : x.response.status = 401
  told : ∃ e : Envelope, e.code.number = 8 ∧ e.value = .null ∧
    x.response = if q.method = "HEAD" then (HttpResponse.envelope e).withoutBody else .envelope e
  service : x.service = s
  deeds : x.deeds = {}

theorem Endpoint.mem_all_of_find? {parts : List (List Char)} {endpoint : Endpoint}
    {params : List (List Char)} (found : find? parts = some (endpoint, params)) :
    endpoint ∈ all := by
  obtain ⟨e, listed, fits⟩ := List.exists_of_findSome?_eq_some found
  obtain ⟨_, _, same⟩ := Option.map_eq_some_iff.1 fits
  exact (Prod.mk.inj same).1 ▸ listed

theorem Endpoint.operation?_options {parts : List (List Char)} {endpoint : Endpoint}
    {params : List (List Char)} (found : find? parts = some (endpoint, params)) :
    endpoint.operation? "OPTIONS" = none := by
  have none : ∀ e ∈ all, e.operation? "OPTIONS" = none := by decide
  exact none endpoint (mem_all_of_find? found)

theorem HttpRequest.Routed.method_ne {q : HttpRequest} (routed : q.Routed) :
    q.method ≠ "OPTIONS" := by
  obtain ⟨endpoint, params, operation, found, there⟩ := routed
  intro same
  obtain ⟨_, _, found⟩ := Option.bind_eq_some_iff.1 found
  rw [same, Endpoint.operation?_options found] at there
  cases there

namespace Gateway
variable {g : Gateway} {s : Service} {q : HttpRequest}

theorem dispatch_of_routed (routed : q.Routed) {fault : CallerFault}
    (turned : q.headers.caller g.token = .error fault) :
    g.dispatch q = .error (.envelope (.ofCallerFault fault)) := by
  obtain ⟨endpoint, params, operation, found, there⟩ := routed
  simp only [dispatch, found, there, Operation.handle_eq, RoutedRequest.caller, turned]
  rfl

theorem of_dispatch_unauthorized {response : HttpResponse} (failed : g.dispatch q = .error response)
    (unauthorized : response.status = 401) :
    q.Routed ∧ ∃ fault, q.headers.caller g.token = .error fault := by
  unfold dispatch at failed
  split at failed
  · cases failed
    cases unauthorized
  · rename_i endpoint params found
    split at failed
    · cases failed
      cases unauthorized
    · rename_i operation there
      refine ⟨⟨endpoint, params, operation, found, there⟩, ?_⟩
      rw [Operation.handle_eq] at failed
      unfold RoutedRequest.caller at failed
      dsimp only at failed
      split at failed
      · exact absurd unauthorized (operation.rejects _ _ _ _ response failed).status_ne
      · rename_i fault turned
        exact ⟨fault, turned⟩

theorem status_openStream (uid : Uid) (kind : RequestKind) (specifier : Specifier) :
    (g.openStream s uid kind specifier).response.status ≠ 401 := by
  unfold openStream
  dsimp only
  split
  · exact Refusal.status_ne _
  · split
    · nofun
    · exact Refusal.status_ne _

theorem status_carryOut (call : HttpCall) : (g.carryOut s call).response.status ≠ 401 := by
  have replied : ∀ {α : Type} (f : α → Json) (reply : Except Refusal α),
      (HttpResponse.ofReply f reply).status ≠ 401 := by
    intro α f reply
    cases reply with
    | ok a => nofun
    | error r => exact r.status_ne
  cases call with
  | view f => exact replied _ _
  | command c => exact replied _ _
  | stream uid kind specifier => exact status_openStream uid kind specifier

/-- The status is the same with a body or without. -/
theorem status_ofMethod (x : Exchange) (method : String) :
    (if method = "HEAD" then forHeadersAlone x else x).response.status = x.response.status := by
  split
  · unfold forHeadersAlone HttpResponse.withoutBody
    cases x.response <;> rfl
  · rfl

theorem turnedAway_of_stranger (routed : q.Routed) (stranger : q.headers.Stranger g.token) :
    (g.answer s q).TurnedAway s q := by
  obtain ⟨fault, turned⟩ := Headers.stranger_iff.1 stranger
  -- The handler asks for the caller first, so it fails there whatever else there is.
  have failed : g.callOf q = .error (.envelope (.ofCallerFault fault)) := by
    rw [callOf_eq_dispatch, dispatch_of_routed routed turned]
  simp only [answer, if_neg routed.method_ne, failed]
  split
  · rename_i head
    exact ⟨rfl, ⟨.ofCallerFault fault, rfl, rfl, by rw [if_pos head]; rfl⟩, rfl, rfl⟩
  · rename_i other
    exact ⟨rfl, ⟨.ofCallerFault fault, rfl, rfl, by rw [if_neg other]⟩, rfl, rfl⟩

theorem stranger_of_unauthorized (unauthorized : (g.answer s q).response.status = 401) :
    q.Routed ∧ q.headers.Stranger g.token := by
  rw [Headers.stranger_iff]
  unfold answer at unauthorized
  split at unauthorized
  · cases unauthorized
  · rw [status_ofMethod] at unauthorized
    cases called : g.callOf q with
    | error response =>
      rw [called] at unauthorized
      exact of_dispatch_unauthorized (callOf_eq_dispatch g q ▸ called) unauthorized
    | ok call =>
      rw [called] at unauthorized
      exact absurd unauthorized (status_carryOut call)

/-- The interface is open to those who show its token and to nobody else, at every endpoint. -/
theorem token_gates (g : Gateway) (s : Service) (q : HttpRequest) :
    (q.Routed → q.headers.Stranger g.token → (g.answer s q).TurnedAway s q) ∧
      ((g.answer s q).response.status = 401 → q.Routed ∧ q.headers.Stranger g.token) :=
  ⟨turnedAway_of_stranger, stranger_of_unauthorized⟩

def misfit : HttpRequest :=
  { method := "PUT"
    target := "/api/policy/uid/me/state"
    headers := [("X-Netbroker-Interface", "netbroker.broker.v1"),
      ("x-netbroker-uid", " +4294967296\t")]
    body := "[" }

theorem misfit_routed : misfit.Routed := by
  have path : (Uri.ofTarget misfit.target).1 = "/api/policy/uid/me/state".toList := by
    decide +kernel
  have below : Uri.segmentsBelow basePath "/api/policy/uid/me/state".toList =
      some ["policy".toList, "uid".toList, "me".toList, "state".toList] := by decide +kernel
  have endpoint : misfit.endpoint? = some (⟨[.word "policy", .word "uid", .param, .word "state"],
      [("PUT", .setUidState)]⟩, ["me".toList]) := by
    rw [HttpRequest.endpoint?, path, below]
    rfl
  exact ⟨_, _, .setUidState, endpoint, rfl⟩

theorem misfit_stranger : misfit.headers.Stranger "netbroker.broker.v1" := by
  have first : misfit.headers.first? uidHeader = some " +4294967296\t" := by decide +kernel
  refine .malformed first (fun n small denotes => ?_)
  have read := Decimal.count?_eq_some_iff.2 ⟨denotes, small⟩
  have large : Decimal.count? 0xFFFFFFFF (trimmed " +4294967296\t") = none := by decide +kernel
  cases large.symm.trans read

theorem token_gates_misfit : ∃ s : Service, s.broker.Reachable ∧
    ((⟨"netbroker.broker.v1", 4⟩ : Gateway).answer s misfit).TurnedAway s misfit ∧
    misfit.headers.Stranger "netbroker.broker.v1" := by
  have gates := token_gates ⟨"netbroker.broker.v1", 4⟩
    { broker := Broker.firstNetwork, stage := .serving, ready := true } misfit
  have away := gates.1 misfit_routed misfit_stranger
  exact ⟨_, Broker.firstNetwork_reachable, away, (gates.2 away.status).2⟩

end Gateway

end Connectivity
