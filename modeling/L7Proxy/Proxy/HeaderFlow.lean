import L7Proxy.Proxy.Attempts
import L7Proxy.Proxy.RetryLoop

/-!
# Headers across the proxy

The chain of client addresses, the hop-by-hop headers and all other headers, on every
attempt of a request and on the response it returns.
-/

set_option autoImplicit false

namespace L7Proxy

open Interaction
open Program (Runs Steps)

/-!
## Runs of sample requests
-/

def firstCall : List ProxyEvent → Option OutgoingRequest
  | [] => none
  | ⟨.clientRequest sent _, _⟩ :: _ => some sent
  | _ :: rest => firstCall rest

theorem firstCall_mem {history : List ProxyEvent} {sent : OutgoingRequest}
    (found : firstCall history = some sent) :
    ∃ timeout outcome, ⟨.clientRequest sent timeout, outcome⟩ ∈ history := by
  fun_induction firstCall history with
  | case1 => cases found
  | case2 first timeout outcome rest =>
      cases found
      exact ⟨timeout, outcome, List.mem_cons_self⟩
  | case3 event rest _ ih =>
      obtain ⟨timeout, outcome, member⟩ := ih found
      exact ⟨timeout, outcome, List.mem_cons_of_mem _ member⟩

/-- The plain request with these headers, from a known client. -/
def requestWith (headers : HeaderMap) : Request :=
  { plainRequest with headers := headers, remoteAddr := some plainClient }

/-- A complete run of the request with an attempt in it. -/
def Attempts (headers : HeaderMap) (history : List ProxyEvent) (sent : OutgoingRequest) : Prop :=
  (∃ result, Runs (proxyRequest (fun _ => true) (requestWith headers)) history result) ∧
    ∃ timeout outcome, ⟨.clientRequest sent timeout, outcome⟩ ∈ history

theorem attempts_of_answerBy {headers : HeaderMap} {history : List ProxyEvent} {result : ProxyResult}
    {sent : OutgoingRequest}
    (answered : (proxyRequest (fun _ => true) (requestWith headers)).answerBy (answersWithStatus .ok .ok) =
      some (history, result)) (found : firstCall history = some sent) : Attempts headers history sent :=
  ⟨⟨result, Program.answerBy_runs answered⟩, firstCall_mem found⟩

def firstProxy : HeaderValue := ⟨utf8Bytes "192.0.2.1", by decide⟩

def secondProxy : HeaderValue := ⟨utf8Bytes "192.0.2.2", by decide⟩

/-!
## The chain of client addresses
-/

/-- On every attempt the chain received with the request is sent on with the client's
address at its end, exactly when all of it was on the first line. -/
theorem forwarded_chain_iff_onFirstLine {parses : UriParser} {req : Request} {ip : IpAddr}
    {history : List ProxyEvent} {rest : Proxy ProxyResult} {sent : OutgoingRequest} {timeout : Duration}
    {outcome : UpstreamOutcome} (steps : Steps (proxyRequest parses req) history rest)
    (client : req.remoteAddr = some ip) (attempted : ⟨.clientRequest sent timeout, outcome⟩ ∈ history) :
    forwardedElements sent.headers = forwardedElements req.headers ++ [utf8Bytes ip.display] ↔
      ChainOnFirstLine req.headers := by
  obtain ⟨id, _, body, _, _, _, normalized⟩ := (steps_accounts steps).attempts sent timeout outcome attempted
  rw [client] at normalized
  exact forwardedElements_appended_iff (normalizeHeaders_normalized normalized)

/-- One proxy before this one has put its client's address on one line. -/
theorem forwarded_chain_iff_onFirstLine_single :
    ∃ history sent, Attempts [("x-forwarded-for", firstProxy)] history sent ∧
      forwardedElements sent.headers = [utf8Bytes "192.0.2.1", utf8Bytes plainClient.display] := by
  have attempts : ∃ history sent, Attempts [("x-forwarded-for", firstProxy)] history sent :=
    ⟨_, _, attempts_of_answerBy rfl rfl⟩
  obtain ⟨history, sent, made⟩ := attempts
  obtain ⟨result, run⟩ := made.1
  obtain ⟨timeout, outcome, attempted⟩ := made.2
  refine ⟨history, sent, made, ?_⟩
  have chain := (forwarded_chain_iff_onFirstLine run rfl attempted).mpr ?_
  · rw [chain]
    decide
  · intro first further lines
    have single : [firstProxy] = first :: further := lines
    cases single
    exact ⟨by decide, by simp⟩

def twoLines : HeaderMap := [("x-forwarded-for", firstProxy), ("x-forwarded-for", secondProxy)]

/-- Of two lines only the first reaches the upstream. -/
theorem second_line_lost :
    ∃ history sent, Attempts twoLines history sent ∧
      forwardedElements sent.headers ≠ forwardedElements twoLines ++ [utf8Bytes plainClient.display] := by
  refine ⟨_, _, attempts_of_answerBy rfl rfl, ?_⟩
  decide

/-!
## Hop-by-hop headers
-/

/-- Nothing hop-by-hop for the request is sent and nothing hop-by-hop for the response
is returned exactly when `Connection` nominates, besides the eight names, only headers
that the request, the proxy and the response do not have. -/
theorem forwardOnce_noneCross_iff {parses : UriParser} {req : AttemptRequest} {upstream finalPath : String}
    {requestId : Uuid} {clientIp : Option IpAddr} {requestTimeout timeout : Duration} {sent : OutgoingRequest}
    {outcome : UpstreamOutcome} {result : ProxyResult}
    (run : Runs (forwardOnce parses req upstream finalPath requestId.text clientIp requestTimeout)
      [⟨.clientRequest sent timeout, outcome⟩] result) :
    (NoneCross req.headers sent.headers ∧
      ∀ answer resp, outcome = .response answer → result = .ok resp →
        NoneCross answer.headers resp.headers) ↔
    (NominatesOnlyStripped req.headers ∧ NominatesNothingSet req.headers clientIp) ∧
      ∀ answer, outcome = .response answer → NominatesOnlyStripped answer.headers := by
  obtain ⟨headers, normalized, forwarded⟩ :=
    forwardOnce_eq parses req upstream finalPath requestId clientIp requestTimeout
  rw [forwarded] at run
  split at run
  · obtain ⟨answered, later, same, finished⟩ := Program.runs_act.mp run
    obtain ⟨empty, returned⟩ := Program.runs_done.mp finished
    cases same
    subst returned
    rw [normalized_noneCross_iff (normalizeHeaders_normalized normalized)]
    refine and_congr_right fun _ => ?_
    constructor
    · intro crosses answer received
      have stripped := crosses answer _ received (by rw [received]; rfl)
      exact (stripped_noneCross_iff answer.headers).mp stripped
    · intro nominates answer resp received returned
      rw [received] at returned
      cases returned
      exact (stripped_noneCross_iff answer.headers).mpr (nominates answer received)
  · cases run

def secretConnection : HeaderValue := ⟨utf8Bytes "X-Secret", by decide⟩

/-- One attempt with these headers, answered by a response with those. -/
def ForwardsAndReturns (headers answered : HeaderMap) (sent : OutgoingRequest) (result : ProxyResult) : Prop :=
  Runs (forwardOnce (fun _ => true) ⟨"GET", headers, []⟩ "http://10.0.0.1:9001" "/" plainId.text none 5)
    [⟨.clientRequest sent 5, .response ⟨.ok, answered, []⟩⟩] result

def closingRequest : HeaderMap :=
  [("connection", ⟨utf8Bytes "Keep-Alive, Upgrade", by decide⟩), ("keep-alive", ⟨utf8Bytes "timeout=5", by decide⟩),
    ("upgrade", ⟨utf8Bytes "h2c", by decide⟩), ("accept", ⟨utf8Bytes "text/html", by decide⟩)]

def closingResponse : HeaderMap :=
  [("connection", ⟨utf8Bytes "keep-alive", by decide⟩), ("keep-alive", ⟨utf8Bytes "timeout=5", by decide⟩),
    ("etag", ⟨utf8Bytes "1", by decide⟩)]

/-- Both sides nominate only headers that are stripped anyway. -/
theorem forwardOnce_noneCross_iff_plain :
    ∃ sent resp, ForwardsAndReturns closingRequest closingResponse sent (.ok resp) ∧
      NoneCross closingRequest sent.headers ∧ NoneCross closingResponse resp.headers := by
  have run : ∃ sent resp, ForwardsAndReturns closingRequest closingResponse sent (.ok resp) :=
    ⟨_, _, Program.runs_act.mpr ⟨_, _, rfl, .refl _⟩⟩
  obtain ⟨sent, resp, run⟩ := run
  have requested : ∀ name, Nominated closingRequest name → name ∈ hopByHopHeaders :=
    fun name nominated => nominated_hopByHop (by decide) nominated
  have clean := (forwardOnce_noneCross_iff run).mpr ?_
  · exact ⟨sent, resp, run, clean.1, clean.2 _ _ rfl rfl⟩
  · refine ⟨⟨fun name nominated other => absurd (requested name nominated) other, ?_⟩, ?_⟩
    · exact ⟨fun nominated => absurd (requested _ nominated) (by decide),
        fun nominated => absurd (requested _ nominated) (by decide),
        fun _ nominated => absurd (requested _ nominated) (by decide),
        fun _ nominated => absurd (requested _ nominated) (by decide)⟩
    · intro answer received name nominated other
      cases received
      exact absurd (nominated_hopByHop (by decide) nominated) other

/-- A header that `Connection` nominates is sent upstream. -/
theorem nominated_header_crosses :
    ∃ sent result, ForwardsAndReturns [("connection", secretConnection), ("x-secret", firstProxy)] [] sent result ∧
      Nominated [("connection", secretConnection), ("x-secret", firstProxy)] "x-secret" ∧
      sent.headers.getAll "x-secret" ≠ [] := by
  refine ⟨_, _, Program.runs_act.mpr ⟨_, _, rfl, .refl _⟩, ⟨secretConnection, by decide, by decide⟩, by decide⟩

/-!
## All other headers
-/

/-- Every attempt carries the client's method and body, its other headers as they came
and the proxy's own ones, the same each time; and the response of a request that made
an attempt is that of the last one with its other headers as they came. -/
theorem headers_are_framed {parses : UriParser} {req : Request} {history : List ProxyEvent}
    {rest : Proxy ProxyResult} (steps : Steps (proxyRequest parses req) history rest) :
    (∀ sent timeout outcome, ⟨.clientRequest sent timeout, outcome⟩ ∈ history →
      ∃ id body, ⟨.newV4, id⟩ ∈ history ∧ ⟨.toBytes, some body⟩ ∈ history ∧
        sent.method = req.method ∧ sent.body = body ∧
        (∀ name, name ∉ hopByHopHeaders → ¬ Nominated req.headers name → name ∉ proxyHeaders →
          sent.headers.getAll name = req.headers.getAll name) ∧
        (sent.headers.getAll "x-request-id").map (·.bytes) = [utf8Bytes id.text] ∧
        (sent.headers.getAll "x-forwarded-proto").map (·.bytes) = [utf8Bytes "http"] ∧
        ∀ host, req.headers.get "host" = some host → host.bytes.all isVisibleAscii = true →
          sent.headers.getAll "x-forwarded-host" = [host]) ∧
    (∀ first firstTimeout firstOutcome second secondTimeout secondOutcome,
      ⟨.clientRequest first firstTimeout, firstOutcome⟩ ∈ history →
      ⟨.clientRequest second secondTimeout, secondOutcome⟩ ∈ history → second.headers = first.headers) ∧
    ∀ resp, rest = .done (.ok resp) → (∃ event ∈ history, IsCall event) →
      ∃ before sent timeout answer after,
        history = before ++ ⟨.clientRequest sent timeout, .response answer⟩ :: after ∧
          (∀ event ∈ after, ¬ IsCall event) ∧ resp.status = answer.status ∧ resp.body = answer.body ∧
          ∀ name, name ∉ hopByHopHeaders → ¬ Nominated answer.headers name →
            resp.headers.getAll name = answer.headers.getAll name := by
  have accounts := steps_accounts steps
  refine ⟨fun sent timeout outcome attempted => ?_, ?_, fun resp finished called => ?_⟩
  · obtain ⟨id, drawn, body, read, method, sentBody, normalization⟩ :=
      accounts.attempts sent timeout outcome attempted
    have normalized := normalizeHeaders_normalized normalization
    refine ⟨id, body, accounts.identified id drawn, accounts.read body read, method, sentBody,
      fun name kept _ other => normalized.others name kept other, normalized.identified, normalized.proto,
      fun host first visible => normalized.host host ?_⟩
    rw [originalHost, first, Option.filter_some, if_pos visible]
  · intro first _ _ second _ _ attempted again
    obtain ⟨id, drawn, _, _, _, _, normalized⟩ := accounts.attempts first _ _ attempted
    obtain ⟨other, otherDrawn, _, _, _, _, otherNormalized⟩ := accounts.attempts second _ _ again
    rw [Option.mem_def, Option.mem_def.mp drawn, Option.some.injEq] at otherDrawn
    subst otherDrawn
    rw [normalized, Option.some.injEq] at otherNormalized
    exact otherNormalized.symm
  · subst finished
    rcases (proxyRequest_carries parses req).runs steps resp rfl with ⟨none, _⟩ | ⟨answer, latest, same⟩
    · obtain ⟨event, member, call⟩ := called
      exact absurd call (accounts.unanswered none event member)
    · obtain ⟨before, sent, timeout, after, split, last⟩ := accounts.answered _ latest
      subst same
      refine ⟨before, sent, timeout, answer, after, split, last, rfl, rfl, fun name kept _ => ?_⟩
      rw [getAll_stripHopByHop, if_neg kept]

/-- A request with a header of its own and one that the proxy overwrites. -/
theorem headers_are_framed_overwritten :
    ∃ history sent, Attempts [("x-request-id", firstProxy), ("accept", secondProxy)] history sent ∧
      sent.headers.getAll "accept" = [secondProxy] := by
  have attempts : ∃ history sent,
      Attempts [("x-request-id", firstProxy), ("accept", secondProxy)] history sent :=
    ⟨_, _, attempts_of_answerBy rfl rfl⟩
  obtain ⟨history, sent, made⟩ := attempts
  obtain ⟨result, run⟩ := made.1
  obtain ⟨timeout, outcome, attempted⟩ := made.2
  obtain ⟨_, _, _, _, _, _, others, _⟩ := (headers_are_framed run).1 sent timeout outcome attempted
  refine ⟨history, sent, made, others "accept" (by decide) ?_ (by decide)⟩
  intro nominated
  obtain ⟨value, present, _⟩ := nominated
  cases present

end L7Proxy
