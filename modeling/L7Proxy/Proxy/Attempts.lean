import L7Proxy.Proxy.Headers

/-!
# What attempts carry

Every attempt of a request carries the client's method and body and the same
normalized headers, and an answer that is no error of the proxy is the upstream's.
-/

set_option autoImplicit false

namespace L7Proxy

open Interaction

/-- What a request has read so far, and the latest outcome of a call. -/
structure Carried where
  id : Option Uuid
  body : Option Bytes
  outcome : Option UpstreamOutcome

/-- The message is the client's, with its headers normalized for the id drawn. -/
def Carried.Sends (carried : Carried) (req : Request) (sent : OutgoingRequest) : Prop :=
  ∃ id ∈ carried.id, ∃ body ∈ carried.body, sent.method = req.method ∧ sent.body = body ∧
    normalizeHeaders req.headers id.text req.remoteAddr = some sent.headers

/-- Observes the id, the body and the latest outcome; each of the first two is read
once, and only the client's message is sent. -/
def carriesRequest (req : Request) : Monitor Effect Answer Carried where
  next carried event := match event with
    | ⟨.newV4, id⟩ => { carried with id := some id }
    | ⟨.toBytes, body⟩ => { carried with body := body }
    | ⟨.clientRequest _ _, outcome⟩ => { carried with outcome := some outcome }
    | _ => carried
  allowed carried effect := match effect with
    | .newV4 => carried.id = none
    | .toBytes => carried.body = none
    | .clientRequest sent _ => carried.Sends req sent
    | _ => True

/-- The result is an error, the answer to an unmatched path before any call, or the
response of the latest call without its hop-by-hop headers. -/
def Carried.Explains (carried : Carried) (result : ProxyResult) : Prop :=
  ∀ resp, result = .ok resp →
    carried.outcome = none ∧ resp = .text .notFound "No matching route" ∨
      ∃ answer, carried.outcome = some (.response answer) ∧
        resp = { answer with headers := stripHopByHopHeaders answer.headers }

/-!
## Following a request
-/

section

variable {req : Request} {ctx : RequestContext}

private theorem carriesRequest_overlooks (carried : Carried) (effect : Effect)
    (prepares : effect.PreparesAttempt) : (carriesRequest req).Overlooks carried effect := by
  cases effect <;> first
    | exact prepares.elim
    | exact ⟨trivial, fun _ => rfl⟩

private theorem carriesRequest_overlooks_reports (carried : Carried) (effect : Effect)
    (reports : effect.Reports) : (carriesRequest req).Overlooks carried effect := by
  cases effect <;> first
    | exact reports.elim
    | exact ⟨trivial, fun _ => rfl⟩

/-- A turn that answers the request with a response answers with the one it got. -/
theorem settle_answers (ctx : RequestContext) (upstream : String) (attemptsMade : Nat) (result : ProxyResult) :
    (settle ctx upstream attemptsMade result).Confined Effect.Reports fun step =>
      ∀ resp, step = .answer (.ok resp) → result = .ok resp := by
  apply (settle_confined ctx upstream attemptsMade result).mono fun _ reports => reports
  intro step settled resp answered
  subst answered
  exact settled.symm

/-- The request's id and body have been read, and the context holds them with the
client's method, headers and address. -/
structure Carried.Ready (carried : Carried) (req : Request) (ctx : RequestContext) : Prop where
  id : carried.id = some ctx.requestId
  body : carried.body = some ctx.wholeBody
  method : ctx.methodStr = req.method
  headers : ctx.headers = req.headers
  client : ctx.clientIp = req.remoteAddr

theorem explains_result {carried : Carried} {outcome : UpstreamOutcome}
    (latest : carried.outcome = some outcome) {result : ProxyResult} (answered : ∀ resp,
      result = .ok resp → outcome.result = .ok resp) : carried.Explains result := by
  intro resp ok
  right
  have same := answered resp ok
  cases outcome with
  | response answer =>
      cases same
      exact ⟨answer, latest, rfl⟩
  | failed | elapsed => cases same

theorem explains_error {carried : Carried} {result : ProxyResult} (error : ∀ resp, result ≠ .ok resp) :
    carried.Explains result :=
  fun resp ok => absurd ok (error resp)

private theorem visit_carries {carried : Carried} (ready : carried.Ready req ctx) (healthyExists : Bool)
    (offset : Nat) (loop : LoopState) :
    Program.Follows (carriesRequest req)
      (fun reached step => reached.Ready req ctx ∧ ∀ result, step = .answer result → reached.Explains result)
      (visit ctx healthyExists offset loop) carried := by
  apply follows_visit (carriesRequest_overlooks _) (fun _ => trivial)
  · refine ⟨ready, fun result answered => ?_⟩
    cases answered
  · refine ⟨ready, fun result answered => ?_⟩
    cases answered
  intro upstream _
  have settles : ∀ (reached : Carried) (result : ProxyResult), reached.Ready req ctx →
      (∀ other, (∀ resp, other = .ok resp → result = .ok resp) → reached.Explains other) →
      Program.Follows (carriesRequest req)
        (fun reached step => reached.Ready req ctx ∧ ∀ result, step = .answer result → reached.Explains result)
        (settle ctx upstream (loop.attemptsMade + 1) result) reached := by
    intro reached result stillReady explains
    refine .of_confined (settle_answers ctx upstream _ result) (carriesRequest_overlooks_reports _) ?_
    intro step origin
    refine ⟨stillReady, fun other answered => explains other fun resp ok => origin resp ?_⟩
    rw [answered, ok]
  apply follows_attempt
  · exact trivial
  · refine ⟨trivial, settles _ _ ready fun other answered => explains_error fun resp ok => ?_⟩
    cases answered resp ok
  · intro headers normalized
    rw [ready.headers, ready.client] at normalized
    refine ⟨⟨ctx.requestId, ready.id, ctx.wholeBody, ready.body, ready.method, rfl, normalized⟩, ?_⟩
    intro outcome
    refine ⟨trivial, settles _ _ { ready with } fun other answered => ?_⟩
    exact explains_result rfl answered

theorem proxyRequest_carries (parses : UriParser) (req : Request) :
    Program.Follows (carriesRequest req) Carried.Explains (proxyRequest parses req) ⟨none, none, none⟩ := by
  refine ⟨trivial, fun start => ⟨rfl, fun requestId => ⟨trivial, fun config =>
    ⟨trivial, fun router => ?_⟩⟩⟩⟩
  refine follows_routeRequest parses req start requestId config.value router.value ?_ rfl ?_ ?_ ?_
  · intro _
    refine ⟨trivial, fun _ resp ok => ?_⟩
    cases ok
    exact .inl ⟨rfl, rfl⟩
  · exact explains_error fun resp ok => by cases ok
  · intro wholeBody effect selects
    cases effect <;> first
      | exact selects.elim
      | exact ⟨trivial, fun _ => rfl⟩
  · intro route wholeBody startIndex _
    refine follows_tryUpstreams (fun carried _ => carried.Ready req
        (matchedContext parses req start requestId config.value route wholeBody startIndex))
      (carriesRequest_overlooks _) trivial ⟨rfl, rfl, rfl, rfl, rfl⟩ ?_ ?_
    · intro healthyExists offset carried loop ready
      apply Program.Follows.mono _ (visit_carries ready healthyExists offset loop)
      intro reached step turn
      cases step with
      | again next => exact turn.1
      | leave => exact turn.1
      | answer result => exact turn.2 result rfl
    · intro carried loop _
      refine ⟨trivial, fun _ => ⟨trivial, fun _ => ⟨trivial, fun _ => ?_⟩⟩⟩
      exact explains_error fun resp ok => by cases ok

end

/-!
## The events of a request
-/

def IsCall (event : ProxyEvent) : Prop := ∃ sent timeout, event.effect = .clientRequest sent timeout

/-- The observed state says what the events so far have been. -/
structure Accounts (req : Request) (history : List ProxyEvent) (carried : Carried) : Prop where
  identified : ∀ id, carried.id = some id → ⟨.newV4, id⟩ ∈ history
  read : ∀ body, carried.body = some body → ⟨.toBytes, some body⟩ ∈ history
  attempts : ∀ sent timeout outcome, ⟨.clientRequest sent timeout, outcome⟩ ∈ history →
    carried.Sends req sent
  answered : ∀ outcome, carried.outcome = some outcome → ∃ before sent timeout after,
    history = before ++ ⟨.clientRequest sent timeout, outcome⟩ :: after ∧ ∀ event ∈ after, ¬ IsCall event
  unanswered : carried.outcome = none → ∀ event ∈ history, ¬ IsCall event

theorem not_isCall {event : ProxyEvent} (other : ∀ sent timeout, event.effect ≠ .clientRequest sent timeout) :
    ¬ IsCall event := by
  intro call
  obtain ⟨sent, timeout, same⟩ := call
  exact other sent timeout same

namespace Accounts

variable {req : Request} {history : List ProxyEvent} {carried : Carried}

theorem new (req : Request) : Accounts req [] ⟨none, none, none⟩ := by
  refine ⟨fun id known => ?_, fun body known => ?_, fun sent timeout outcome member => ?_,
    fun outcome known => ?_, fun _ event member => ?_⟩
  · cases known
  · cases known
  · cases member
  · cases known
  · cases member

/-- An event that is no call, reads nothing and keeps what was read. -/
theorem keep (accounts : Accounts req history carried) {event : ProxyEvent} (noCall : ¬ IsCall event)
    {id : Option Uuid} {body : Option Bytes}
    (identified : ∀ drawn, id = some drawn → ⟨.newV4, drawn⟩ ∈ history ++ [event])
    (read : ∀ bytes, body = some bytes → ⟨.toBytes, some bytes⟩ ∈ history ++ [event])
    (sends : ∀ sent, carried.Sends req sent → Carried.Sends ⟨id, body, carried.outcome⟩ req sent) :
    Accounts req (history ++ [event]) ⟨id, body, carried.outcome⟩ where
  identified := identified
  read := read
  attempts sent timeout outcome member := by
    rcases List.mem_append.mp member with earlier | here
    · exact sends sent (accounts.attempts sent timeout outcome earlier)
    · rw [List.mem_singleton] at here
      exact absurd ⟨sent, timeout, by rw [← here]⟩ noCall
  answered outcome known := by
    obtain ⟨before, sent, timeout, after, split, last⟩ := accounts.answered outcome known
    refine ⟨before, sent, timeout, after ++ [event], by rw [split]; simp, ?_⟩
    simpa [or_imp, forall_and] using ⟨last, noCall⟩
  unanswered none := by
    simpa [or_imp, forall_and] using ⟨accounts.unanswered none, noCall⟩

theorem event (accounts : Accounts req history carried) (next : ProxyEvent)
    (allowed : (carriesRequest req).allowed carried next.effect) :
    Accounts req (history ++ [next]) ((carriesRequest req).next carried next) := by
  have identified : ∀ id, carried.id = some id → ⟨.newV4, id⟩ ∈ history ++ [next] :=
    fun id known => List.mem_append_left _ (accounts.identified id known)
  have read : ∀ body, carried.body = some body → ⟨.toBytes, some body⟩ ∈ history ++ [next] :=
    fun body known => List.mem_append_left _ (accounts.read body known)
  obtain ⟨effect, answer⟩ := next
  cases effect with
  | newV4 =>
      have fresh : carried.id = none := allowed
      refine accounts.keep (not_isCall fun _ _ same => by cases same) (fun id known => ?_) read ?_
      · cases known
        simp
      · intro sent sends
        obtain ⟨id, known, _⟩ := sends
        rw [fresh] at known
        cases known
  | toBytes =>
      have fresh : carried.body = none := allowed
      refine accounts.keep (not_isCall fun _ _ same => by cases same) identified (fun body known => ?_) ?_
      · have same : answer = some body := known
        simp [same]
      · intro sent sends
        obtain ⟨_, _, body, known, _⟩ := sends
        rw [fresh] at known
        cases known
  | clientRequest sent timeout =>
      refine ⟨identified, read, fun other otherTimeout outcome member => ?_, fun outcome known => ?_,
        fun unknown => ?_⟩
      · rcases List.mem_append.mp member with earlier | here
        · exact accounts.attempts other otherTimeout outcome earlier
        · rw [List.mem_singleton] at here
          cases here
          exact allowed
      · have same : some answer = some outcome := known
        cases same
        exact ⟨history, sent, timeout, [], rfl, by simp⟩
      · cases unknown
  | _ => exact accounts.keep (not_isCall fun _ _ same => by cases same) identified read fun _ sends => sends

end Accounts

/-- Whatever a request has done so far is accounted for. -/
theorem steps_accounts {parses : UriParser} {req : Request} {history : List ProxyEvent}
    {rest : Proxy ProxyResult} (steps : Program.Steps (proxyRequest parses req) history rest) :
    Accounts req history (history.foldl (carriesRequest req).next ⟨none, none, none⟩) :=
  (proxyRequest_carries parses req).recorded (Accounts req) (fun _ _ next allowed accounts =>
    accounts.event next allowed) steps (.new req)

end L7Proxy
