import L7Proxy.Proxy.Request

/-!
# Accounts of a request

What a request has entered in the retry budget, the health tracker and the metrics at
any point of its way, so also where it is abandoned. Some entries come in pairs: the
second is the very next effect after the first.
-/

set_option autoImplicit false

namespace L7Proxy

open Interaction Program Proxy

/-- The second entry of a pair, owed after the first. -/
inductive Debt where
  | retry
  | error
  deriving DecidableEq

structure Account where
  recorded : Bool
  calls : Nat
  grants : Nat
  debt : Option Debt
  deriving DecidableEq

namespace Account

def opened : Account := ⟨false, 0, 0, none⟩

/-- The debt that an event incurs: a granted retry is counted, and so is a failure. -/
def incurs : ProxyEvent → Option Debt
  | ⟨.allowRetry, granted⟩ => if granted = true then some .retry else none
  | ⟨.recordFailure _, _⟩ => some .error
  | _ => none

/-- The debt that an effect pays. -/
def pays : Effect → Option Debt
  | .incRetriesTotal _ => some .retry
  | .incErrorsTotal _ _ => some .error
  | _ => none

def records : ProxyEvent → Bool
  | ⟨.recordRequest, _⟩ => true
  | _ => false

def calling : ProxyEvent → Bool
  | ⟨.clientRequest _ _, _⟩ => true
  | _ => false

def incurring (debt : Debt) (event : ProxyEvent) : Bool := decide (incurs event = some debt)

def paying (debt : Debt) (event : ProxyEvent) : Bool := decide (pays event.effect = some debt)

def next (account : Account) (event : ProxyEvent) : Account where
  recorded := account.recorded || records event
  calls := account.calls + if calling event then 1 else 0
  grants := account.grants + if incurring .retry event then 1 else 0
  debt := incurs event

/-- A retry is asked for only after the request is recorded, and an upstream is called
at most once more than retries were granted. -/
def admits (account : Account) : Effect → Prop
  | .recordRequest => account.recorded = false
  | .allowRetry => account.recorded = true
  | .clientRequest _ _ => account.recorded = true ∧ account.calls ≤ account.grants
  | _ => True

def monitor : Monitor Effect Answer Account where
  next := next
  allowed account effect := account.debt = pays effect ∧ account.admits effect

/-- The effects that enter nothing and pay nothing. -/
def Plain : Effect → Prop
  | .recordRequest | .allowRetry | .clientRequest _ _ | .recordFailure _ | .incRetriesTotal _
  | .incErrorsTotal _ _ => False
  | _ => True

theorem overlooks_plain {account : Account} (settled : account.debt = none) (effect : Effect)
    (plain : Plain effect) : monitor.Overlooks account effect := by
  obtain ⟨recorded, calls, grants, debt⟩ := account
  subst settled
  cases effect with
  | recordRequest | allowRetry | clientRequest | recordFailure | incRetriesTotal | incErrorsTotal =>
      exact plain.elim
  | _ => exact ⟨⟨rfl, trivial⟩, fun _ => by simp [monitor, next, records, calling, incurring, incurs]⟩

/-- In the loop the attempts made bound the calls, and are one more than the grants at most. -/
structure InLoop (account : Account) (attemptsMade : Nat) : Prop where
  recorded : account.recorded = true
  settled : account.debt = none
  calls : account.calls ≤ attemptsMade
  grants : attemptsMade ≤ account.grants + 1

section

variable {ctx : RequestContext} {account : Account} {attemptsMade : Nat}

theorem follows_plain {Value : Type} {effects : Effect → Prop} {values : Value → Prop} {program : Proxy Value}
    {post : Account → Value → Prop} (confined : program.Confined effects values)
    (plain : ∀ effect, effects effect → Plain effect) (settled : account.debt = none)
    (returns : ∀ value, values value → post account value) : program.Follows monitor post account :=
  .of_confined confined (fun effect ofKind => overlooks_plain settled effect (plain effect ofKind)) returns

theorem asksHealth_plain (effect : Effect) (asks : effect.AsksHealth) : Plain effect := by
  cases effect <;> first
    | exact asks.elim
    | exact trivial

theorem follows_admitAttempt (loop : account.InLoop attemptsMade) :
    (admitAttempt ctx attemptsMade).Follows monitor
      (fun reached admitted => reached.InLoop attemptsMade ∧
        (admitted = true → attemptsMade ≤ reached.grants)) account := by
  unfold admitAttempt
  by_cases retry : 0 < attemptsMade
  · rw [if_pos retry]
    refine ⟨⟨loop.settled, loop.recorded⟩, fun allowed => ?_⟩
    have kept : (next account ⟨.allowRetry, allowed⟩).recorded = true := by simp [next, loop.recorded]
    cases allowed with
    | false => exact ⟨⟨kept, rfl, loop.calls, loop.grants⟩, fun admitted => absurd admitted (by decide)⟩
    | true =>
        refine ⟨⟨rfl, trivial⟩, fun _ => ⟨⟨rfl, trivial⟩, fun jitter => ⟨⟨rfl, trivial⟩, fun _ => ?_⟩⟩⟩
        have grants := loop.grants
        exact ⟨⟨by simp [monitor, next, loop.recorded], rfl, loop.calls, Nat.le_succ_of_le grants⟩, fun _ => grants⟩
  · rw [if_neg retry]
    exact ⟨loop, fun _ => by omega⟩

theorem follows_attempt_account {index : Nat} {upstream : String} (loop : account.InLoop attemptsMade)
    (granted : attemptsMade ≤ account.grants) :
    (attempt ctx index upstream).Follows monitor
      (fun reached _ => reached.InLoop (attemptsMade + 1)) account := by
  have calls := loop.calls
  have starts : monitor.allowed account (.recordStart ctx.route.balancer index) := ⟨loop.settled, trivial⟩
  apply follows_attempt starts
  · refine ⟨⟨rfl, trivial⟩, ?_, rfl, Nat.le_succ_of_le calls, Nat.succ_le_succ granted⟩
    simp [monitor, next, loop.recorded]
  · intro headers _
    refine ⟨⟨rfl, ?_, calls.trans granted⟩, fun outcome => ⟨⟨rfl, trivial⟩, ?_⟩⟩
    · simp [monitor, next, loop.recorded]
    · exact ⟨by simp [monitor, next, loop.recorded], rfl, Nat.succ_le_succ calls, Nat.succ_le_succ granted⟩

/-- What a turn leaves behind. -/
def Leaves (reached : Account) : LoopStep → Prop
  | .again loop => reached.InLoop loop.attemptsMade
  | .leave => reached.debt = none
  | .answer _ => reached.debt = none

theorem follows_noteFailure (loop : account.InLoop attemptsMade) (upstream errorType : String)
    (lastError : Option ProxyError) :
    (noteFailure ctx upstream errorType >>= fun _ => (pure (.again ⟨attemptsMade, lastError⟩) :
      Proxy LoopStep)).Follows monitor Leaves account := by
  refine ⟨⟨loop.settled, trivial⟩, fun _ => ⟨⟨rfl, trivial⟩, fun _ => ?_⟩⟩
  exact ⟨by simp [monitor, next, loop.recorded], rfl, loop.calls, loop.grants⟩

theorem finish_confined (upstream : String) (resp : Response) :
    (finish ctx upstream resp >>= fun result => (pure (.answer result) : Proxy LoopStep)).Confined Plain
      fun step => ∃ result, step = .answer result :=
  ⟨trivial, fun _ => ⟨trivial, fun _ => ⟨trivial, fun _ => ⟨trivial, fun _ => ⟨_, rfl⟩⟩⟩⟩⟩

theorem follows_settle {upstream : String} (loop : account.InLoop attemptsMade) (result : ProxyResult) :
    (settle ctx upstream attemptsMade result).Follows monitor Leaves account := by
  cases result with
  | ok resp =>
      by_cases failed : resp.status.isServerError = true
      · simp only [settle, failed, if_true]
        exact follows_noteFailure loop upstream _ _
      · simp only [settle, failed]
        apply follows_plain (finish_confined upstream resp) (fun _ => id) loop.settled
        intro step answered
        obtain ⟨result, rfl⟩ := answered
        exact loop.settled
  | error error =>
      cases error with
      | upstreamFailure => exact follows_noteFailure loop upstream _ _
      | upstreamTimeout => exact follows_noteFailure loop upstream _ _
      | noRoute | upstreamFailed | invalidUri | noUpstream => exact loop.settled

theorem follows_visit_account {healthyExists : Bool} {offset : Nat} {loop : LoopState}
    (inLoop : account.InLoop loop.attemptsMade) :
    (visit ctx healthyExists offset loop).Follows monitor Leaves account := by
  unfold visit
  rw [follows_ite]
  split
  · exact inLoop.settled
  · dsimp only
    cases ctx.route.upstreams[ctx.index offset]? with
    | none =>
        rw [Proxy.unwrap, Proxy.panic_bind]
        exact ⟨⟨inLoop.settled, trivial⟩, fun answer => Empty.elim answer⟩
    | some upstream =>
        simp only [Proxy.unwrap_some, pure_eq_done, bind_done, follows_bind]
        apply follows_plain (skips_asksHealth healthyExists upstream) asksHealth_plain inLoop.settled
        intro skip _
        rw [follows_ite]
        split
        · exact inLoop
        · rw [follows_bind]
          apply (follows_admitAttempt inLoop).mono
          intro admittedBy admitted reached
          rw [follows_ite]
          split
          · next started =>
              rw [follows_bind]
              apply (follows_attempt_account reached.1 (reached.2 started)).mono
              intro attempted result after
              exact follows_settle after result
          · exact reached.1.settled

theorem follows_failureExit_account (settled : account.debt = none) (lastError : Option ProxyError) :
    (failureExit ctx lastError).Follows monitor (fun reached _ => reached.debt = none) account := by
  have confined : (failureExit ctx lastError).Confined Plain fun _ => True :=
    ⟨trivial, fun _ => ⟨trivial, fun _ => ⟨trivial, fun _ => trivial⟩⟩⟩
  exact follows_plain confined (fun _ => id) settled fun _ _ => settled

theorem follows_tryUpstreams_account (unrecorded : account.recorded = false) (settled : account.debt = none)
    (uncalled : account.calls = 0) :
    (tryUpstreams ctx).Follows monitor (fun reached _ => reached.debt = none) account := by
  unfold tryUpstreams
  rw [follows_bind]
  apply follows_plain (anyHealthy_asksHealth ctx.route.upstreams) asksHealth_plain settled
  intro healthyExists _
  refine ⟨⟨settled, unrecorded⟩, fun _ => ?_⟩
  have entered : InLoop (next account ⟨.recordRequest, ()⟩) 0 :=
    ⟨by simp [next, records], rfl, uncalled.le, Nat.zero_le _⟩
  refine follows_retryLoop_counted (fun _ reached loop => reached.InLoop loop.attemptsMade) ?_ ?_ _ entered
  · intro _ offset reached loop inLoop
    apply (follows_visit_account inLoop).mono
    intro left step leaves
    cases step with
    | again next => exact leaves
    | leave => exact follows_failureExit_account leaves _
    | answer result => exact leaves
  · intro reached loop inLoop
    exact follows_failureExit_account inLoop.settled _

end

theorem proxyRequest_follows (parses : UriParser) (req : Request) :
    (proxyRequest parses req).Follows monitor (fun reached _ => reached.debt = none) opened := by
  refine ⟨⟨rfl, trivial⟩, fun start => ⟨⟨rfl, trivial⟩, fun requestId => ⟨⟨rfl, trivial⟩, fun config =>
    ⟨⟨rfl, trivial⟩, fun router => ?_⟩⟩⟩⟩
  apply follows_routeRequest
  · intro _
    exact ⟨⟨rfl, trivial⟩, fun _ => rfl⟩
  · exact ⟨rfl, trivial⟩
  · rfl
  · intro wholeBody effect selects
    refine overlooks_plain rfl effect ?_
    cases effect <;> first
      | exact selects.elim
      | exact trivial
  · intro route wholeBody startIndex _
    exact follows_tryUpstreams_account rfl rfl rfl

/-!
## Histories
-/

/-- The account is that of the history, and balanced but for what is owed. -/
structure Balances (history : List ProxyEvent) (account : Account) : Prop where
  records : history.countP records = if account.recorded then 1 else 0
  calls : history.countP calling = account.calls
  grants : history.countP (incurring .retry) = account.grants
  within : history.countP calling ≤ history.countP (incurring .retry) + history.countP Account.records
  debts : ∀ debt, history.countP (incurring debt) =
    history.countP (paying debt) + if account.debt = some debt then 1 else 0

theorem balances_opened : Balances [] opened :=
  ⟨rfl, rfl, rfl, le_rfl, fun _ => rfl⟩

theorem unrecorded_of_records {account : Account} {event : ProxyEvent} (entered : records event = true)
    (admitted : account.admits event.effect) : account.recorded = false := by
  unfold records at entered
  split at entered
  · exact admitted
  · cases entered

theorem admitted_of_calling {account : Account} {event : ProxyEvent} (called : calling event = true)
    (admitted : account.admits event.effect) : account.recorded = true ∧ account.calls ≤ account.grants := by
  unfold calling at called
  split at called
  · exact admitted
  · cases called

theorem Balances.next {history : List ProxyEvent} {account : Account} {event : ProxyEvent}
    (balances : Balances history account) (allowed : monitor.allowed account event.effect) :
    Balances (history ++ [event]) (monitor.next account event) := by
  have counted : ∀ test : ProxyEvent → Bool,
      (history ++ [event]).countP test = history.countP test + if test event then 1 else 0 := by
    intro test
    rw [List.countP_append, List.countP_singleton]
  constructor
  · rw [counted, balances.records]
    by_cases entered : Account.records event = true
    · simp [monitor, Account.next, entered, unrecorded_of_records entered allowed.2]
    · simp [monitor, Account.next, entered]
  · rw [counted, balances.calls]
    rfl
  · rw [counted, balances.grants]
    rfl
  · rw [counted, counted, counted]
    have within := balances.within
    by_cases called : calling event = true
    · obtain ⟨recorded, room⟩ := admitted_of_calling called allowed.2
      have entered := balances.records
      have calls := balances.calls
      have grants := balances.grants
      rw [recorded, if_pos rfl] at entered
      rw [if_pos called]
      omega
    · rw [if_neg called]
      omega
  · intro debt
    rw [counted, counted, balances.debts debt, allowed.1, Nat.add_right_comm]
    simp only [monitor, Account.next, incurring, paying, decide_eq_true_eq]
    omega

theorem history_balances {parses : UriParser} {req : Request} {history : List ProxyEvent}
    {rest : Proxy ProxyResult} (steps : Steps (proxyRequest parses req) history rest) :
    Balances history (history.foldl monitor.next opened) :=
  (proxyRequest_follows parses req).recorded Balances (fun _ _ _ allowed holds => holds.next allowed) steps
    balances_opened

/-- A request owes what its next effect pays. -/
theorem history_owes {parses : UriParser} {req : Request} {history : List ProxyEvent} {effect : Effect}
    {next : Answer effect → Proxy ProxyResult}
    (steps : Steps (proxyRequest parses req) history (.act effect next)) :
    (history.foldl monitor.next opened).debt = pays effect :=
  ((proxyRequest_follows parses req).steps steps).1.1

theorem result_settled {parses : UriParser} {req : Request} {history : List ProxyEvent} {result : ProxyResult}
    (run : Runs (proxyRequest parses req) history result) :
    (history.foldl monitor.next opened).debt = none :=
  (proxyRequest_follows parses req).runs run

end Account

end L7Proxy
