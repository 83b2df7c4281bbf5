import L7Proxy.Errors
import L7Proxy.Library.Program
import L7Proxy.State

/-!
# What a request does

The operations on shared state, the clock, random numbers and the network that a
request performs, each one atomic step, with the answers it can receive.
-/

set_option autoImplicit false

namespace L7Proxy

open Interaction

/-- How a call of the HTTP client under a timeout ends. -/
inductive UpstreamOutcome where
  | response (response : Response)
  | failed
  | elapsed
  deriving DecidableEq

inductive Effect where
  | instantNow
  | newV4
  | loadConfig
  | loadRouter
  | incRequestsTotal (method route status : String)
  | observeRequestDuration (method route : String) (elapsed : Duration)
  | incRetriesTotal (route : String)
  | incErrorsTotal (route errorType : String)
  | toBytes
  | nextIndexForKey (balancer : BalancerRef) (poolSize : Nat) (key : String)
  | recordStart (balancer : BalancerRef) (index : Nat)
  | recordDone (balancer : BalancerRef) (index : Nat)
  | isHealthy (upstream : String)
  | recordFailure (upstream : String)
  | recordSuccess (upstream : String)
  | recordRequest
  | allowRetry
  | randomRange (greatest : Nat)
  | sleep (millis : Nat)
  | clientRequest (request : OutgoingRequest) (timeout : Duration)
  | panicked
  deriving DecidableEq

/-- A panic receives no answer: the request goes no further. -/
abbrev Answer : Effect → Type
  | .instantNow => Instant
  | .newV4 => Uuid
  | .loadConfig => Arc Config
  | .loadRouter => Arc Router
  | .toBytes => Option Bytes
  | .nextIndexForKey _ _ _ => Option Nat
  | .isHealthy _ | .allowRetry => Bool
  | .randomRange greatest => Fin (greatest + 1)
  | .clientRequest _ _ => UpstreamOutcome
  | .panicked => Empty
  | _ => Unit

abbrev ProxyEvent := Event Effect Answer

abbrev Proxy (Value : Type) := Program Effect Answer Value

abbrev ProxyResult := Except ProxyError Response

namespace Proxy

abbrev perform (effect : Effect) : Proxy (Answer effect) := Program.perform effect

/-- The effects at which the future of a request is suspended by an `await`. -/
def awaits : Effect → Bool
  | .toBytes | .sleep _ | .clientRequest _ _ => true
  | _ => false

def panic {Value : Type} : Proxy Value := .act .panicked nofun

/-- `Option::unwrap` and the indexing and remainder operations that can panic. -/
def unwrap {Value : Type} : Option Value → Proxy Value
  | some value => pure value
  | none => panic

@[simp] theorem unwrap_some {Value : Type} (value : Value) : unwrap (some value) = pure value := rfl

@[simp] theorem panic_bind {Value Result : Type} (rest : Value → Proxy Result) :
    (panic >>= rest) = panic := by
  simp only [panic, Program.bind_act]
  congr 1
  funext answer
  exact answer.elim

end Proxy

end L7Proxy
