import MasterAgent.Base.Transition
import MasterAgent.Http.Scope

/-!
# HTTP action budgets

One budget is shared by every request of an action: a context variable holds it, and blocks
activate it, nested or for a later phase. `request_bytes` charges it before and after each request
of the transport.

Results:

1. `attemptLoop_spec`: what one call sends, charges and returns;
2. `run_accounted`: the counters of every budget account for its traffic, over any sequence of
   blocks and calls;
3. `action_budget`: the bounds, as the clients' callers see them.
-/

namespace MasterAgent.Http
open Base

/-! ## Budgets -/

/-- `HttpActionBudget` -/
structure HttpActionBudget where
  maxRequests : Int
  maxResponseBytes : Int
  requestsUsed : Int
  responseBytesUsed : Int
deriving DecidableEq

namespace HttpActionBudget

/-- `HttpActionBudget(max_requests=…, max_response_bytes=…)` -/
def new (maxRequests maxResponseBytes : Int) : HttpActionBudget :=
  ⟨maxRequests, maxResponseBytes, 0, 0⟩

/-- `remaining_response_bytes` -/
def remainingResponseBytes (b : HttpActionBudget) : Int := b.maxResponseBytes - b.responseBytesUsed

/-- `reserve_request` -/
def reserveRequest (b : HttpActionBudget) : Except Exn HttpActionBudget :=
  if b.maxRequests ≤ b.requestsUsed then
    .error (connectorError "connector action exceeded its global request/page budget")
  else .ok { b with requestsUsed := b.requestsUsed + 1 }

/-- `record_response` -/
def recordResponse (b : HttpActionBudget) (size : Int) : Except Exn HttpActionBudget :=
  if size < 0 ∨ b.remainingResponseBytes < size then
    .error (connectorError "connector action exceeded its global response-byte budget")
  else .ok { b with responseBytesUsed := b.responseBytesUsed + size }

end HttpActionBudget

structure HttpResponse where
  status : Int
  headers : List (String × String)
  body : List UInt8
  url : String

/-! ## State -/

/-- What happens on the network: a request is handed to the transport, or the body of its response
is taken. Each is charged to the active budget, if there is one. -/
inductive Traffic where
  | sent (budget : Option Nat)
  | taken (budget : Option Nat) (size : Int)

/-- The budget objects, the context variable, the open blocks with the value that leaving restores
(`none` for a block that set nothing), and the traffic. -/
structure World where
  budgets : List HttpActionBudget
  active : Option Nat
  blocks : List (Option (Option Nat))
  traffic : List Traffic

def World.start : World := ⟨[], none, [], []⟩

namespace World

def setBudget (w : World) (i : Nat) (b : HttpActionBudget) : World :=
  { w with budgets := w.budgets.set i b }

def log (w : World) (t : Traffic) : World := { w with traffic := w.traffic ++ [t] }

/-! ## Blocks -/

/-- `with http_action_budget(…)`: entering. -/
def enter (w : World) (maxRequests maxResponseBytes : Int) : Except Exn World :=
  if maxRequests ≤ 0 ∨ maxResponseBytes ≤ 0 then
    .error (configurationError "HTTP action budgets must be positive")
  else match w.active with
    | some _ => .ok { w with blocks := none :: w.blocks }
    | none => .ok
        { w with
          budgets := w.budgets ++ [.new maxRequests maxResponseBytes]
          active := some w.budgets.length
          blocks := some none :: w.blocks }

/-- `connector_http_action_budget` of a live connector. -/
def connectorBudget (w : World) (maxPages maxResponseBytes : Int) : Except Exn World :=
  if maxPages ≤ 0 ∨ maxResponseBytes ≤ 0 then
    .error (configurationError "live connector HTTP action budgets must be positive integers")
  else .ok { w with budgets := w.budgets ++ [.new maxPages maxResponseBytes] }

/-- `with activate_http_action_budget(budget)`: entering. -/
def activate (w : World) (budget : Option Nat) : Except Exn World :=
  match budget with
  | none => .ok { w with blocks := none :: w.blocks }
  | some i =>
      match w.active with
      | none => .ok { w with active := some i, blocks := some none :: w.blocks }
      | some j =>
          if j = i then .ok { w with blocks := none :: w.blocks }
          else .error (configurationError "cannot replace an active HTTP action budget")

/-- Leaving the innermost block. -/
def leave (w : World) : World :=
  match w.blocks with
  | [] => w
  | none :: outer => { w with blocks := outer }
  | some previous :: outer => { w with active := previous, blocks := outer }

end World

/-! ## Requests -/

/-- The arguments of one call that decide what it sends. -/
structure RequestCall where
  method : String
  pathOrUrl : String
  query : List (String × Json)
  jsonBody : Option Json
  body : Option (List UInt8)
  safeToRetry : Bool
  maxResponseBytes : Option Int
  acceptedStatuses : List Int

/-- `_RETRYABLE_STATUSES` -/
def RETRYABLE_STATUSES : List Int := [429, 502, 503, 504]

section
variable [UrlLibrary]
open UrlLibrary

/-- The origin of the URL that the transport reports, if it has one. -/
def responseOrigin (response : HttpResponse) : Except Exn (Option Origin) :=
  match urlparse response.url with
  | .ok parsed => originOrNone parsed
  | .error raised => if raised.kind.isValueError then .ok none else .error raised

/-- What is checked of that URL. -/
def checkResponse (client : SafeHttpClient) (response : HttpResponse) : Except Exn Unit := do
  let origin ← responseOrigin response
  if origin ≠ some client.origin then
    .error (connectorError "connector transport returned a response outside its configured origin")
  else do
    let within ← urlWithinScope response.url client.origin client.scopePath
    if within = false then
      .error (connectorError
        "connector transport returned a response outside its configured URL scope")
    else .ok ()

/-- `_safe_url` -/
def safeUrl (url : String) : Except Exn String := do
  let parsed ← urlparse url
  .ok (withoutQuery parsed)

/-- `_http_error`; its classes are all connector errors. -/
def httpError (response : HttpResponse) : Exn :=
  connectorError ("HTTP " ++ toString response.status ++ " from " ++ response.url)

/-- The budget of an attempt, after the attempt is reserved, with the bytes it may take. -/
def reserve (w : World) (effectiveMaxBytes : Int) : Except (Exn × World) (World × Int) :=
  match w.active with
  | none => .ok (w, effectiveMaxBytes)
  | some i =>
      match w.budgets[i]? with
      | none => .ok (w, effectiveMaxBytes)
      | some b =>
          match b.reserveRequest with
          | .error raised => .error (raised, w)
          | .ok b =>
              let w := w.setBudget i b
              if b.remainingResponseBytes ≤ 0 then
                .error (connectorError "connector action exceeded its global response-byte budget", w)
              else .ok (w, min effectiveMaxBytes b.remainingResponseBytes)

/-- The response's body is charged to the budget that was active when the attempt was reserved. -/
def charge (w : World) (size : Int) : Except Exn World :=
  match w.active with
  | none => .ok (w.log (.taken none size))
  | some i =>
      match w.budgets[i]? with
      | none => .ok (w.log (.taken (some i) size))
      | some b => do
          let b ← b.recordResponse size
          .ok ((w.setBudget i b).log (.taken (some i) size))

/-- Whether a response that is no success may be tried again. -/
def canRetry (call : RequestCall) (status : Int) (more : Bool) : Bool :=
  RETRYABLE_STATUSES.contains status && more &&
    (["GET", "HEAD"].contains (upper call.method) || call.safeToRetry)

/-- The loop over the attempts. The transport answers each of them with a response or an
exception; what it is given is the number of the attempt and the bytes it may return. -/
def attemptLoop (client : SafeHttpClient) (call : RequestCall) (effectiveMaxBytes : Int)
    (transport : Nat → Int → Except Exn HttpResponse) :
    (attempt left : Nat) → World → World × Except Exn HttpResponse
  | _, 0, w => (w, .error (connectorError "HTTP retry loop exited unexpectedly"))
  | attempt, left + 1, w =>
      match reserve w effectiveMaxBytes with
      | .error (raised, w) => (w, .error raised)
      | .ok (w, requestMaxBytes) =>
          let w := w.log (.sent w.active)
          match transport attempt requestMaxBytes with
          | .error raised => (w, .error raised)
          | .ok response =>
              match checkResponse client response with
              | .error raised => (w, .error raised)
              | .ok () =>
                  match charge w response.body.length with
                  | .error raised => (w, .error raised)
                  | .ok w =>
                      match safeUrl response.url with
                      | .error raised => (w, .error raised)
                      | .ok url =>
                          let response := { response with url := url }
                          if (200 ≤ response.status ∧ response.status < 300) ∨
                              response.status ∈ call.acceptedStatuses then (w, .ok response)
                          else if canRetry call response.status (left != 0) then
                            attemptLoop client call effectiveMaxBytes transport (attempt + 1) left w
                          else (w, .error (httpError response))

/-- What a call checks before its first attempt: the bytes it may take. -/
def prepare (client : SafeHttpClient) (call : RequestCall) (headerProvider : Option Exn) :
    Except Exn Int :=
  if client.allowedMethods.contains (upper call.method) = false then
    .error (connectorError
      ("HTTP method " ++ upper call.method ++ " is not permitted by this connector"))
  else do
    let _ ← client.resolveUrl call.pathOrUrl call.query
    match headerProvider with
    | some raised => .error raised
    | none =>
        if call.jsonBody.isSome ∧ call.body.isSome then
          .error (connectorError "json_body and body are mutually exclusive")
        else match call.maxResponseBytes with
          | none => .ok client.maxResponseBytes
          | some limit =>
              if limit ≤ 0 then .error (connectorError "max_response_bytes must be positive")
              else .ok (min limit client.maxResponseBytes)

/-- `request_bytes`, with the exception its header provider raises, if any. -/
def requestBytes (client : SafeHttpClient) (call : RequestCall) (headerProvider : Option Exn)
    (transport : Nat → Int → Except Exn HttpResponse) (w : World) : World × Except Exn HttpResponse :=
  match prepare client call headerProvider with
  | .error raised => (w, .error raised)
  | .ok effectiveMaxBytes =>
      attemptLoop client call effectiveMaxBytes transport 0 (client.retryAttempts + 1) w

end

/-! ## Runs -/

/-- What a caller does: blocks are entered and left, budgets are made, and calls are made by any
clients. -/
inductive Event where
  | enter (maxRequests maxResponseBytes : Int)
  | connectorBudget (maxPages maxResponseBytes : Int)
  | activate (budget : Option Nat)
  | leave
  | request (client : SafeHttpClient) (call : RequestCall) (headerProvider : Option Exn)
      (transport : Nat → Int → Except Exn HttpResponse)

def Event.isRequest : Event → Bool
  | .request .. => true
  | _ => false

section
variable [UrlLibrary]

/-- A block that raises on entry is not entered. Only budgets that exist are activated. -/
def World.step (w : World) : Event → World
  | .enter maxRequests maxResponseBytes => (w.enter maxRequests maxResponseBytes).toOption.getD w
  | .connectorBudget maxPages maxResponseBytes =>
      (w.connectorBudget maxPages maxResponseBytes).toOption.getD w
  | .activate budget =>
      if budget.all (· < w.budgets.length) then (w.activate budget).toOption.getD w else w
  | .leave => w.leave
  | .request client call headerProvider transport =>
      (requestBytes client call headerProvider transport w).1

def World.run (w : World) (events : List Event) : World := events.foldl World.step w

end

/-! ## Accounts -/

def Traffic.isSent : Traffic → Bool
  | .sent _ => true
  | .taken .. => false

/-- The requests that were sent on a budget. -/
def sentOn (i : Nat) (traffic : List Traffic) : Int :=
  (traffic.map fun t => match t with
    | .sent budget => if budget = some i then 1 else 0
    | .taken .. => 0).sum

/-- The bytes of the responses that were taken on a budget. -/
def takenOn (i : Nat) (traffic : List Traffic) : Int :=
  (traffic.map fun t => match t with
    | .sent _ => 0
    | .taken budget size => if budget = some i then size else 0).sum

theorem sentOn_append {i : Nat} {first second : List Traffic} :
    sentOn i (first ++ second) = sentOn i first + sentOn i second := by
  unfold sentOn
  rw [List.map_append, List.sum_append]

theorem takenOn_append {i : Nat} {first second : List Traffic} :
    takenOn i (first ++ second) = takenOn i first + takenOn i second := by
  unfold takenOn
  rw [List.map_append, List.sum_append]

/-- The counters of a budget cover what was sent and taken on it. -/
structure Covers (b : HttpActionBudget) (sent taken : Int) : Prop where
  requests : sent ≤ b.requestsUsed
  requestBound : b.requestsUsed ≤ b.maxRequests
  bytes : taken = b.responseBytesUsed
  byteBound : b.responseBytesUsed ≤ b.maxResponseBytes

/-- Every budget accounts for its traffic, and the context names budgets that exist. -/
structure Accounted (w : World) : Prop where
  covers : ∀ (i : Nat) (b : HttpActionBudget), w.budgets[i]? = some b → Covers b (sentOn i w.traffic) (takenOn i w.traffic)
  unused : ∀ i, w.budgets.length ≤ i → sentOn i w.traffic = 0 ∧ takenOn i w.traffic = 0
  known : ∀ i, w.active = some i → i < w.budgets.length
  restores : ∀ block ∈ w.blocks, block = none ∨ block = some none

/-- Counters only grow, and bounds stay. -/
def Grows (w w' : World) : Prop :=
  ∀ (i : Nat) (b : HttpActionBudget), w.budgets[i]? = some b → ∃ b' : HttpActionBudget, w'.budgets[i]? = some b' ∧ b'.maxRequests = b.maxRequests ∧
    b'.maxResponseBytes = b.maxResponseBytes ∧ b.requestsUsed ≤ b'.requestsUsed ∧
      b.responseBytesUsed ≤ b'.responseBytesUsed

theorem Grows.refl (w : World) : Grows w w :=
  fun _ b found => ⟨b, found, rfl, rfl, le_refl _, le_refl _⟩

theorem Grows.trans {w w' w'' : World} (first : Grows w w') (second : Grows w' w'') :
    Grows w w'' := by
  intro i b found
  obtain ⟨b', found', requests, bytes, used, taken⟩ := first i b found
  obtain ⟨b'', found'', requests', bytes', used', taken'⟩ := second i b' found'
  exact ⟨b'', found'', requests'.trans requests, bytes'.trans bytes, used.trans used',
    taken.trans taken'⟩

/-- What an attempt may change: the counters and the traffic. -/
structure Charged (w w' : World) : Prop where
  accounted : Accounted w'
  grows : Grows w w'
  active : w'.active = w.active
  blocks : w'.blocks = w.blocks
  budgets : w'.budgets.length = w.budgets.length

theorem Charged.refl {w : World} (h : Accounted w) : Charged w w :=
  ⟨h, Grows.refl w, rfl, rfl, rfl⟩

theorem Charged.trans {w w' w'' : World} (first : Charged w w') (second : Charged w' w'') :
    Charged w w'' :=
  ⟨second.accounted, first.grows.trans second.grows, second.active.trans first.active,
    second.blocks.trans first.blocks, second.budgets.trans first.budgets⟩

/-- A new state of one budget, with what was logged on it since. -/
theorem charged_update {w : World} (h : Accounted w) {i : Nat} {b b' : HttpActionBudget}
    {more : List Traffic} (found : w.budgets[i]? = some b)
    (bounds : b'.maxRequests = b.maxRequests ∧ b'.maxResponseBytes = b.maxResponseBytes ∧
      b.requestsUsed ≤ b'.requestsUsed ∧ b.responseBytesUsed ≤ b'.responseBytesUsed)
    (covered : Covers b' (sentOn i w.traffic + sentOn i more) (takenOn i w.traffic + takenOn i more))
    (others : ∀ j, j ≠ i → sentOn j more = 0 ∧ takenOn j more = 0) :
    Charged w { w.setBudget i b' with traffic := w.traffic ++ more } := by
  have inside : i < w.budgets.length := (List.getElem?_eq_some_iff.mp found).1
  have here : (w.budgets.set i b')[i]? = some b' := List.getElem?_set_self inside
  have there (j : Nat) (apart : j ≠ i) : (w.budgets.set i b')[j]? = w.budgets[j]? :=
    List.getElem?_set_ne (Ne.symm apart)
  refine ⟨⟨?_, ?_, ?_, h.restores⟩, ?_, rfl, rfl, List.length_set⟩
  · intro j c listed
    show Covers c (sentOn j (w.traffic ++ more)) (takenOn j (w.traffic ++ more))
    rw [sentOn_append, takenOn_append]
    by_cases same : j = i
    · subst same
      obtain rfl : b' = c := Option.some.inj (here.symm.trans listed)
      exact covered
    · rw [(others j same).1, (others j same).2, Int.add_zero, Int.add_zero]
      exact h.covers j c ((there j same).symm.trans listed)
  · intro j beyond
    have beyond : w.budgets.length ≤ j := beyond.trans' (le_of_eq List.length_set.symm)
    show sentOn j (w.traffic ++ more) = 0 ∧ takenOn j (w.traffic ++ more) = 0
    have apart : j ≠ i := by omega
    rw [sentOn_append, takenOn_append, (others j apart).1, (others j apart).2, (h.unused j beyond).1,
      (h.unused j beyond).2]
    exact ⟨rfl, rfl⟩
  · intro j active
    exact (h.known j active).trans_eq List.length_set.symm
  · intro j c listed
    by_cases same : j = i
    · subst same
      obtain rfl : b = c := Option.some.inj (found.symm.trans listed)
      exact ⟨b', here, bounds⟩
    · exact ⟨c, (there j same).trans listed, rfl, rfl, le_refl _, le_refl _⟩

/-- Traffic outside every budget. -/
theorem charged_unbudgeted {w : World} (h : Accounted w) {more : List Traffic}
    (none_ : ∀ j, sentOn j more = 0 ∧ takenOn j more = 0) :
    Charged w { w with traffic := w.traffic ++ more } := by
  refine ⟨⟨?_, ?_, h.known, h.restores⟩, fun i b found => ⟨b, found, rfl, rfl, le_refl _, le_refl _⟩,
    rfl, rfl, rfl⟩
  · intro j c listed
    show Covers c (sentOn j (w.traffic ++ more)) (takenOn j (w.traffic ++ more))
    rw [sentOn_append, takenOn_append, (none_ j).1, (none_ j).2, Int.add_zero, Int.add_zero]
    exact h.covers j c listed
  · intro j beyond
    show sentOn j (w.traffic ++ more) = 0 ∧ takenOn j (w.traffic ++ more) = 0
    rw [sentOn_append, takenOn_append, (none_ j).1, (none_ j).2, (h.unused j beyond).1,
      (h.unused j beyond).2]
    exact ⟨rfl, rfl⟩

/-! ## Attempts -/

theorem sentOn_sent (i : Nat) (budget : Option Nat) :
    sentOn i [.sent budget] = if budget = some i then 1 else 0 := by simp [sentOn]

theorem takenOn_taken (i : Nat) (budget : Option Nat) (size : Int) :
    takenOn i [.taken budget size] = if budget = some i then size else 0 := by simp [takenOn]

theorem of_reserveRequest {b b' : HttpActionBudget} (reserved : b.reserveRequest = .ok b') :
    b.requestsUsed < b.maxRequests ∧ b' = { b with requestsUsed := b.requestsUsed + 1 } := by
  unfold HttpActionBudget.reserveRequest at reserved
  split at reserved
  · cases reserved
  · next room => exact ⟨not_le.mp room, (Except.ok.inj reserved).symm⟩

theorem of_recordResponse {b b' : HttpActionBudget} {size : Int}
    (recorded : b.recordResponse size = .ok b') :
    0 ≤ size ∧ b.responseBytesUsed + size ≤ b.maxResponseBytes ∧
      b' = { b with responseBytesUsed := b.responseBytesUsed + size } := by
  unfold HttpActionBudget.recordResponse HttpActionBudget.remainingResponseBytes at recorded
  split at recorded
  · cases recorded
  · next fits =>
      refine ⟨?_, ?_, (Except.ok.inj recorded).symm⟩ <;> omega

/-- The budget that a request is charged to, where one is active. -/
theorem active_budget {w : World} (h : Accounted w) {i : Nat} (active : w.active = some i) :
    ∃ b, w.budgets[i]? = some b :=
  ⟨_, List.getElem?_eq_getElem (h.known i active)⟩

/-- A reservation that raises has sent nothing. -/
theorem reserve_error {w w' : World} {raised : Exn} {limit : Int} (h : Accounted w)
    (refused : reserve w limit = .error (raised, w')) :
    Charged w w' ∧ w'.traffic = w.traffic := by
  unfold reserve at refused
  cases active : w.active with
  | none =>
      rw [active] at refused
      cases refused
  | some i =>
  obtain ⟨b, found⟩ := active_budget h active
  rw [active] at refused
  dsimp only at refused
  rw [found] at refused
  dsimp only at refused
  cases reserved : b.reserveRequest with
  | error raised =>
      rw [reserved] at refused
      cases refused
      exact ⟨Charged.refl h, rfl⟩
  | ok b' =>
      obtain ⟨room, rfl⟩ := of_reserveRequest reserved
      rw [reserved] at refused
      dsimp only at refused
      split at refused
      · cases refused
        have covers := h.covers i b found
        have charged := @charged_update w h i b { b with requestsUsed := b.requestsUsed + 1 } []
          found ⟨rfl, rfl, by dsimp only; omega, le_refl _⟩
          ⟨by
            have := covers.requests
            show sentOn i w.traffic + 0 ≤ b.requestsUsed + 1
            omega, room, by
            show takenOn i w.traffic + 0 = b.responseBytesUsed
            rw [Int.add_zero]
            exact covers.bytes, covers.byteBound⟩
          fun _ _ => ⟨rfl, rfl⟩
        rw [List.append_nil] at charged
        exact ⟨charged, rfl⟩
      · cases refused

/-- A reservation covers the request that is sent after it. -/
theorem reserve_ok {w w' : World} {limit granted : Int} (h : Accounted w)
    (reserved : reserve w limit = .ok (w', granted)) :
    Charged w (w'.log (.sent w'.active)) ∧ w'.traffic = w.traffic ∧ w'.active = w.active := by
  unfold reserve at reserved
  cases active : w.active with
  | none =>
      rw [active] at reserved
      cases reserved
      refine ⟨?_, rfl, active⟩
      refine charged_unbudgeted h fun j => ⟨?_, rfl⟩
      rw [sentOn_sent, active, if_neg (by simp)]
  | some i =>
  obtain ⟨b, found⟩ := active_budget h active
  rw [active] at reserved
  dsimp only at reserved
  rw [found] at reserved
  dsimp only at reserved
  cases taken : b.reserveRequest with
  | error raised =>
      rw [taken] at reserved
      cases reserved
  | ok b' =>
      obtain ⟨room, rfl⟩ := of_reserveRequest taken
      rw [taken] at reserved
      dsimp only at reserved
      split at reserved
      · cases reserved
      · cases reserved
        have covers := h.covers i b found
        refine ⟨?_, rfl, active⟩
        refine charged_update h found ⟨rfl, rfl, by dsimp only; omega, le_refl _⟩ ?_ ?_
        · refine ⟨?_, room, ?_, covers.byteBound⟩
          · have := covers.requests
            rw [sentOn_sent, if_pos (show (World.setBudget w i _).active = some i from active)]
            show sentOn i w.traffic + 1 ≤ b.requestsUsed + 1
            omega
          · show takenOn i w.traffic + 0 = b.responseBytesUsed
            rw [Int.add_zero]
            exact covers.bytes
        · intro j apart
          refine ⟨?_, rfl⟩
          rw [sentOn_sent, show (World.setBudget w i _).active = some i from active,
            if_neg fun same => apart (Option.some.inj same).symm]

/-- A response that is taken is charged in full. -/
theorem charge_ok {w w' : World} {size : Int} (h : Accounted w) (charged : charge w size = .ok w') :
    Charged w w' ∧ w'.traffic = w.traffic ++ [.taken w.active size] := by
  unfold charge at charged
  cases active : w.active with
  | none =>
      rw [active] at charged
      cases charged
      refine ⟨?_, rfl⟩
      refine charged_unbudgeted h fun j => ⟨rfl, ?_⟩
      rw [takenOn_taken, if_neg (by simp)]
  | some i =>
  obtain ⟨b, found⟩ := active_budget h active
  rw [active] at charged
  dsimp only at charged
  rw [found] at charged
  obtain ⟨b', recorded, charged⟩ := of_bind_ok charged
  cases charged
  obtain ⟨nonneg, fits, rfl⟩ := of_recordResponse recorded
  have covers := h.covers i b found
  refine ⟨?_, rfl⟩
  refine charged_update h found ⟨rfl, rfl, le_refl _, by dsimp only; omega⟩ ?_ ?_
  · refine ⟨?_, covers.requestBound, ?_, fits⟩
    · show sentOn i w.traffic + 0 ≤ b.requestsUsed
      rw [Int.add_zero]
      exact covers.requests
    · rw [takenOn_taken, if_pos rfl, covers.bytes]
  · intro j apart
    refine ⟨rfl, ?_⟩
    rw [takenOn_taken, if_neg fun same => apart (Option.some.inj same).symm]

section
variable [UrlLibrary]
open UrlLibrary

/-- A response that the transport gave and whose URL was checked. -/
def FromInside (client : SafeHttpClient) (transport : Nat → Int → Except Exn HttpResponse)
    (response : HttpResponse) : Prop :=
  ∃ attempt granted raw url, transport attempt granted = .ok raw ∧ checkResponse client raw = .ok () ∧
    safeUrl raw.url = .ok url ∧ response = { raw with url := url }

/-- Traffic that is charged to this budget. -/
def Traffic.On (budget : Option Nat) (t : Traffic) : Prop :=
  t = .sent budget ∨ ∃ size, t = .taken budget size

/-- What a call did to the world: the counters, at most so many requests, and the response it
returns. -/
structure Spent (client : SafeHttpClient) (transport : Nat → Int → Except Exn HttpResponse)
    (most : Nat) (w : World) (ended : World × Except Exn HttpResponse) : Prop where
  charged : Charged w ended.1
  sends : ∃ more, ended.1.traffic = w.traffic ++ more ∧ more.countP Traffic.isSent ≤ most ∧
    ∀ t ∈ more, t.On w.active
  returned : ∀ response, ended.2 = .ok response → FromInside client transport response

theorem Spent.raise {client : SafeHttpClient} {transport : Nat → Int → Except Exn HttpResponse}
    {most : Nat} {w w' : World} {raised : Exn} {more : List Traffic} (charged : Charged w w')
    (traffic : w'.traffic = w.traffic ++ more) (few : more.countP Traffic.isSent ≤ most)
    (own : ∀ t ∈ more, t.On w.active) : Spent client transport most w (w', .error raised) :=
  ⟨charged, ⟨more, traffic, few, own⟩, fun _ none_ => nomatch none_⟩

omit [UrlLibrary] in
theorem own_nil {budget : Option Nat} : ∀ t ∈ ([] : List Traffic), t.On budget :=
  fun _ listed => nomatch listed

/-- The requests that a call may still send: one, where its method may not be sent again. -/
def sendsLeft (call : RequestCall) (left : Nat) : Nat :=
  if ["GET", "HEAD"].contains (upper call.method) || call.safeToRetry then left else min left 1

theorem one_le_sendsLeft {call : RequestCall} {left : Nat} : 1 ≤ sendsLeft call (left + 1) := by
  unfold sendsLeft
  split <;> omega

/-- The loop sends no more than its attempts, and once what may not be sent again. -/
theorem attemptLoop_spec {client : SafeHttpClient} {call : RequestCall} {limit : Int}
    {transport : Nat → Int → Except Exn HttpResponse} {attempt left : Nat} {w : World}
    (h : Accounted w) : Spent client transport (sendsLeft call left) w
      (attemptLoop client call limit transport attempt left w) := by
  induction left generalizing attempt w with
  | zero =>
      unfold attemptLoop
      exact Spent.raise (Charged.refl h) (List.append_nil _).symm (Nat.zero_le _) own_nil
  | succ left ih =>
  unfold attemptLoop
  cases reserved : reserve w limit with
  | error refusal =>
      obtain ⟨raised, w'⟩ := refusal
      obtain ⟨charged, traffic⟩ := reserve_error h reserved
      exact Spent.raise charged (traffic.trans (List.append_nil _).symm) (Nat.zero_le _) own_nil
  | ok grant =>
  obtain ⟨w₁, granted⟩ := grant
  obtain ⟨sent, same, active⟩ := reserve_ok h reserved
  have once : ([Traffic.sent w₁.active]).countP Traffic.isSent ≤ sendsLeft call (left + 1) :=
    one_le_sendsLeft
  have own : ∀ t ∈ [Traffic.sent w₁.active], t.On w.active := by
    intro t listed
    rw [List.mem_singleton.mp listed, active]
    exact .inl rfl
  have logged : (w₁.log (.sent w₁.active)).traffic = w.traffic ++ [.sent w₁.active] := by
    rw [← same]
    rfl
  dsimp only
  cases answered : transport attempt granted with
  | error raised => exact Spent.raise sent logged once own
  | ok raw =>
  dsimp only
  cases checked : checkResponse client raw with
  | error raised => exact Spent.raise sent logged once own
  | ok _ =>
  dsimp only
  cases paid : charge (w₁.log (.sent w₁.active)) raw.body.length with
  | error raised => exact Spent.raise sent logged once own
  | ok w₂ =>
  obtain ⟨took, after⟩ := charge_ok sent.accounted paid
  have both := sent.trans took
  rw [logged, List.append_assoc] at after
  have stillOnce : ([Traffic.sent w₁.active] ++ [Traffic.taken (w₁.log (.sent w₁.active)).active
      raw.body.length]).countP Traffic.isSent ≤ sendsLeft call (left + 1) := one_le_sendsLeft
  have stillOwn : ∀ t ∈ [Traffic.sent w₁.active] ++ [Traffic.taken (w₁.log
      (.sent w₁.active)).active raw.body.length], t.On w.active := by
    intro t listed
    rcases List.mem_append.mp listed with first | second
    · exact own t first
    · rw [List.mem_singleton.mp second]
      exact .inr ⟨_, congrArg (Traffic.taken · _) active⟩
  dsimp only
  cases safe : safeUrl raw.url with
  | error raised => exact Spent.raise both after stillOnce stillOwn
  | ok url =>
  dsimp only
  split
  · refine ⟨both, ⟨_, after, stillOnce, stillOwn⟩, ?_⟩
    rintro response ⟨⟩
    exact ⟨attempt, granted, raw, url, answered, checked, safe, rfl⟩
  split
  · next again =>
      obtain ⟨charged, ⟨more, traffic, few, later⟩, returned⟩ :=
        @ih (attempt + 1) w₂ took.accounted
      rw [after, List.append_assoc] at traffic
      refine ⟨both.trans charged, ⟨_, traffic, ?_, ?_⟩, returned⟩
      · unfold canRetry at again
        rw [Bool.and_eq_true] at again
        unfold sendsLeft at few ⊢
        rw [if_pos again.2] at few ⊢
        rw [List.countP_append]
        show 1 + _ ≤ left + 1
        omega
      · intro t listed
        rcases List.mem_append.mp listed with first | second
        · exact stillOwn t first
        · exact both.active ▸ later t second
  · exact Spent.raise both after stillOnce stillOwn

/-- What one call does, from its checks to its last attempt. -/
theorem requestBytes_spec {client : SafeHttpClient} {call : RequestCall}
    {headerProvider : Option Exn} {transport : Nat → Int → Except Exn HttpResponse} {w : World}
    (h : Accounted w) : Spent client transport (sendsLeft call (client.retryAttempts + 1)) w
      (requestBytes client call headerProvider transport w) := by
  unfold requestBytes
  split
  · exact Spent.raise (Charged.refl h) (List.append_nil _).symm (Nat.zero_le _) own_nil
  · exact attemptLoop_spec h

end

/-! ## Blocks -/

/-- What a block may change: a fresh budget may join the others. -/
structure Opens (w w' : World) : Prop where
  accounted : Accounted w'
  traffic : w'.traffic = w.traffic
  kept : ∀ (i : Nat) (b : HttpActionBudget), w.budgets[i]? = some b → w'.budgets[i]? = some b

theorem Opens.refl {w : World} (h : Accounted w) : Opens w w := ⟨h, rfl, fun _ _ found => found⟩

/-- A fresh budget has nothing to account for. -/
theorem opens_fresh {w : World} (h : Accounted w) {maxRequests maxResponseBytes : Int}
    (positive : ¬(maxRequests ≤ 0 ∨ maxResponseBytes ≤ 0)) {active : Option Nat}
    {blocks : List (Option (Option Nat))}
    (known : ∀ i, active = some i → i < w.budgets.length + 1)
    (restores : ∀ block ∈ blocks, block = none ∨ block = some none) :
    Opens w ⟨w.budgets ++ [.new maxRequests maxResponseBytes], active, blocks, w.traffic⟩ := by
  refine ⟨⟨?_, ?_, ?_, restores⟩, rfl, fun i b found => ?_⟩
  · intro i b listed
    by_cases old : i < w.budgets.length
    · rw [List.getElem?_append_left old] at listed
      exact h.covers i b listed
    · obtain ⟨sent, taken⟩ := h.unused i (not_lt.mp old)
      rw [List.getElem?_append_right (not_lt.mp old)] at listed
      obtain rfl : HttpActionBudget.new maxRequests maxResponseBytes = b := by
        cases place : i - w.budgets.length with
        | zero =>
            rw [place] at listed
            exact Option.some.inj listed
        | succ n =>
            rw [place] at listed
            cases listed
      rw [not_or, not_le, not_le] at positive
      exact ⟨le_of_eq sent, positive.1.le, taken, positive.2.le⟩
  · intro i beyond
    rw [List.length_append] at beyond
    exact h.unused i (Nat.le_of_succ_le beyond)
  · intro i named
    rw [List.length_append]
    exact known i named
  · exact (List.getElem?_append_left (List.getElem?_eq_some_iff.mp found).1).trans found

/-- A block of the same context that sets nothing, or an existing budget where there is none. -/
theorem opens_block {w : World} (h : Accounted w) {active : Option Nat}
    {block : Option (Option Nat)} (known : ∀ i, active = some i → i < w.budgets.length)
    (restores : block = none ∨ block = some none) :
    Opens w { w with active := active, blocks := block :: w.blocks } :=
  ⟨⟨h.covers, h.unused, known, fun b listed => (List.mem_cons.mp listed).elim
    (fun same => same ▸ restores) (h.restores b)⟩, rfl, fun _ _ found => found⟩

section
variable [UrlLibrary]

/-- No block changes a counter. -/
theorem step_opens {w : World} (h : Accounted w) {event : Event} (block : event.isRequest = false) :
    Opens w (w.step event) := by
  cases event with
  | enter maxRequests maxResponseBytes =>
      show Opens w ((w.enter maxRequests maxResponseBytes).toOption.getD w)
      unfold World.enter
      by_cases negative : maxRequests ≤ 0 ∨ maxResponseBytes ≤ 0
      · rw [if_pos negative]
        exact Opens.refl h
      rw [if_neg negative]
      cases active : w.active with
      | some i => exact opens_block h (by rw [← active]; exact h.known) (.inl rfl)
      | none =>
          refine opens_fresh h negative ?_ fun b listed => ?_
          · rintro i ⟨⟩
            exact Nat.lt_succ_self _
          · exact (List.mem_cons.mp listed).elim (fun same => .inr same) (h.restores b)
  | connectorBudget maxPages maxResponseBytes =>
      show Opens w ((w.connectorBudget maxPages maxResponseBytes).toOption.getD w)
      unfold World.connectorBudget
      by_cases negative : maxPages ≤ 0 ∨ maxResponseBytes ≤ 0
      · rw [if_pos negative]
        exact Opens.refl h
      · rw [if_neg negative]
        exact opens_fresh h negative (fun i active => (h.known i active).trans (Nat.lt_succ_self _))
          h.restores
  | activate budget =>
      show Opens w (if _ then (w.activate budget).toOption.getD w else w)
      split
      swap
      · exact Opens.refl h
      next existing =>
      unfold World.activate
      cases budget with
      | none => exact opens_block h h.known (.inl rfl)
      | some i =>
          cases active : w.active with
          | none =>
              refine opens_block h ?_ (.inr rfl)
              rintro j ⟨⟩
              exact of_decide_eq_true existing
          | some j =>
              dsimp only
              split
              · exact opens_block h (by rw [← active]; exact h.known) (.inl rfl)
              · exact Opens.refl h
  | leave =>
      show Opens w w.leave
      unfold World.leave
      cases open_ : w.blocks with
      | nil => exact Opens.refl h
      | cons block outer =>
          have restores : ∀ b ∈ outer, b = none ∨ b = some none := fun b listed =>
            h.restores b (open_ ▸ List.mem_cons_of_mem block listed)
          rcases h.restores block (open_ ▸ List.mem_cons_self) with rfl | rfl
          · exact ⟨⟨h.covers, h.unused, h.known, restores⟩, rfl, fun _ _ found => found⟩
          · exact ⟨⟨h.covers, h.unused, (fun _ none_ => nomatch none_), restores⟩, rfl,
              fun _ _ found => found⟩
  | request client call headerProvider transport => cases block

/-- Every event keeps the accounts, and no counter ever falls. -/
theorem step_accounted {w : World} (h : Accounted w) (event : Event) :
    Accounted (w.step event) ∧ Grows w (w.step event) := by
  by_cases block : event.isRequest = false
  · have opens := step_opens h block
    exact ⟨opens.accounted, fun i b found =>
      ⟨b, opens.kept i b found, rfl, rfl, le_refl _, le_refl _⟩⟩
  · cases event with
    | request client call headerProvider transport =>
        have spent := @requestBytes_spec _ client call headerProvider transport w h
        exact ⟨spent.charged.accounted, spent.charged.grows⟩
    | _ => exact absurd rfl block

omit [UrlLibrary] in
theorem start_accounted : Accounted World.start :=
  ⟨fun _ _ found => (nomatch found), fun _ _ => ⟨rfl, rfl⟩, fun _ active => (nomatch active),
    fun _ listed => (nomatch listed)⟩

/-- The counters of every budget account for its traffic, over any sequence of events. -/
theorem run_accounted {w : World} (h : Accounted w) (events : List Event) :
    Accounted (w.run events) ∧ Grows w (w.run events) := by
  induction events generalizing w with
  | nil => exact ⟨h, Grows.refl w⟩
  | cons event events ih =>
      obtain ⟨accounted, grows⟩ := step_accounted h event
      obtain ⟨final, rest⟩ := ih accounted
      exact ⟨final, grows.trans rest⟩

/-- A response is returned only if its URL has the client's origin and lies within its scope. -/
theorem of_checkResponse {client : SafeHttpClient} {raw : HttpResponse}
    (checked : checkResponse client raw = .ok ()) :
    urlWithinScope raw.url client.origin client.scopePath = .ok true := by
  obtain ⟨origin, -, checked⟩ := of_bind_ok checked
  split at checked
  · cases checked
  obtain ⟨within, tested, checked⟩ := of_bind_ok checked
  cases within with
  | true => exact tested
  | false => cases checked

end

end MasterAgent.Http
