import L7Proxy.Proxy.Effect

/-!
# One attempt at an upstream

The headers of the forwarded request and the call of the HTTP client.
-/

set_option autoImplicit false

namespace L7Proxy

open Interaction

/-- Hop-by-hop headers that must not be forwarded to upstreams or back to clients. -/
def hopByHopHeaders : List HeaderName :=
  ["connection", "keep-alive", "proxy-authenticate", "proxy-authorization", "te", "trailer",
    "transfer-encoding", "upgrade"]

def stripHopByHopHeaders (headers : HeaderMap) : HeaderMap :=
  hopByHopHeaders.foldl HeaderMap.remove headers

/-- The value sent as `X-Forwarded-For`: the client's address appended to the first
value received. -/
def forwardedFor (headers : HeaderMap) (ip : IpAddr) : String :=
  match headers.get "x-forwarded-for" with
  | some existing => existing.toStr.getD "" ++ ", " ++ ip.display
  | none => ip.display

/-- Header normalization; `none` where an `unwrap` of an illegal header value panics. -/
def normalizeHeaders (headers : HeaderMap) (requestId : String) (clientIp : Option IpAddr) :
    Option HeaderMap := do
  let originalHost := (headers.get "host").bind HeaderValue.toStr
  let headers := headers.insert "x-request-id" (← HeaderValue.fromStr requestId)
  let headers ← match clientIp with
    | some ip =>
        (HeaderValue.fromStr (forwardedFor headers ip)).map (headers.insert "x-forwarded-for")
    | none => some headers
  let headers := headers.insert "x-forwarded-proto" (← HeaderValue.fromStr "http")
  let headers := match originalHost.bind HeaderValue.fromStr with
    | some val => headers.insert "x-forwarded-host" val
    | none => headers
  some (stripHopByHopHeaders headers)

abbrev UriParser := String → Bool

structure AttemptRequest where
  method : String
  headers : HeaderMap
  body : Bytes
  deriving DecidableEq

def UpstreamOutcome.result : UpstreamOutcome → ProxyResult
  | .response resp => .ok { resp with headers := stripHopByHopHeaders resp.headers }
  | .failed => .error .upstreamFailure
  | .elapsed => .error .upstreamTimeout

def forwardOnce (parses : UriParser) (req : AttemptRequest) (upstream finalPath requestId : String)
    (clientIp : Option IpAddr) (requestTimeout : Duration) : Proxy ProxyResult := do
  let newUri := upstream ++ finalPath
  if parses newUri then
    let headers ← Proxy.unwrap (normalizeHeaders req.headers requestId clientIp)
    let upstreamCall := Effect.clientRequest ⟨req.method, newUri, headers, req.body⟩ requestTimeout
    let outcome : UpstreamOutcome ← Proxy.perform upstreamCall
    return outcome.result
  else return .error .upstreamFailure

theorem forwardedFor_visible (headers : HeaderMap) (ip : IpAddr) :
    VisibleText (forwardedFor headers ip) := by
  unfold forwardedFor
  cases existing : headers.get "x-forwarded-for" with
  | none => exact ip.visible
  | some value =>
      have separator : VisibleText ", " := by decide
      simp only [visibleText_append]
      refine ⟨⟨?_, separator⟩, ip.visible⟩
      cases converted : value.toStr with
      | none => decide
      | some text => exact HeaderValue.toStr_visible converted

/-- No header value the proxy makes up is illegal, so no `unwrap` panics. -/
theorem normalizeHeaders_isSome (headers : HeaderMap) (requestId : Uuid) (clientIp : Option IpAddr) :
    ∃ normalized, normalizeHeaders headers requestId.text clientIp = some normalized := by
  obtain ⟨idValue, idLegal, _⟩ := HeaderValue.fromStr_of_visible requestId.visible
  obtain ⟨protoValue, protoLegal, _⟩ :=
    HeaderValue.fromStr_of_visible (show VisibleText "http" by decide)
  cases clientIp with
  | none => simp [normalizeHeaders, idLegal, protoLegal]
  | some ip =>
      obtain ⟨forValue, forLegal, _⟩ := HeaderValue.fromStr_of_visible
        (forwardedFor_visible (headers.insert "x-request-id" idValue) ip)
      simp [normalizeHeaders, idLegal, protoLegal, forLegal]

/-- An attempt either fails before anything is sent or is one call of the client. -/
theorem forwardOnce_eq (parses : UriParser) (req : AttemptRequest) (upstream finalPath : String)
    (requestId : Uuid) (clientIp : Option IpAddr) (requestTimeout : Duration) :
    ∃ headers, normalizeHeaders req.headers requestId.text clientIp = some headers ∧
      forwardOnce parses req upstream finalPath requestId.text clientIp requestTimeout =
        if parses (upstream ++ finalPath) then
          .act (.clientRequest ⟨req.method, upstream ++ finalPath, headers, req.body⟩ requestTimeout)
            fun outcome => .done outcome.result
        else .done (.error .upstreamFailure) := by
  obtain ⟨headers, normalized⟩ := normalizeHeaders_isSome req.headers requestId clientIp
  refine ⟨headers, normalized, ?_⟩
  unfold forwardOnce
  simp only [normalized, Proxy.unwrap_some, Program.pure_eq_done, Program.bind_done,
    Program.perform_bind]

theorem follows_forwardOnce {State : Type} {monitor : Monitor Effect Answer State}
    {post : State → ProxyResult → Prop} {state : State} (parses : UriParser) (req : AttemptRequest)
    (upstream finalPath : String) (requestId : Uuid) (clientIp : Option IpAddr)
    (requestTimeout : Duration) (unsent : post state (.error .upstreamFailure))
    (sent : ∀ headers, normalizeHeaders req.headers requestId.text clientIp = some headers →
      Program.Follows monitor post
        (.act (.clientRequest ⟨req.method, upstream ++ finalPath, headers, req.body⟩ requestTimeout)
          fun outcome => .done outcome.result) state) :
    Program.Follows monitor post
      (forwardOnce parses req upstream finalPath requestId.text clientIp requestTimeout) state := by
  obtain ⟨headers, normalized, forwarded⟩ :=
    forwardOnce_eq parses req upstream finalPath requestId clientIp requestTimeout
  rw [forwarded]
  split
  · exact sent headers normalized
  · exact unsent

end L7Proxy
