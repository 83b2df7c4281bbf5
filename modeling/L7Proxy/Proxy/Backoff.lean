import L7Proxy.Proxy.RetryLoop

/-!
# The backoff before a retry

The delay doubles with every attempt and a random jitter of up to its half is added.
Only the product saturates: the shift and the sum are bounded by the configuration and
the number of upstreams alone.
-/

set_option autoImplicit false

namespace L7Proxy

open Interaction Program

/-- The delay meant for the retry after some attempts, before its jitter. -/
def meantDelay (backoffBaseMs attemptsMade : Nat) : Nat :=
  min (backoffBaseMs * 2 ^ (attemptsMade - 1)) wordMax

/-- The backoff of one retry stays within 64 bits and between the meant delay and its
one and a half. -/
structure SafeBackoff (backoffBaseMs attemptsMade greatest jitter millis : Nat) : Prop where
  retry : 0 < attemptsMade
  shift : attemptsMade - 1 < 64
  range : greatest = backoffDelay backoffBaseMs attemptsMade / 2
  sum : backoffDelay backoffBaseMs attemptsMade + jitter < wordSize
  least : meantDelay backoffBaseMs attemptsMade ≤ millis
  most : millis ≤ meantDelay backoffBaseMs attemptsMade + meantDelay backoffBaseMs attemptsMade / 2

/-- A sleep is that of a safe backoff, with the jitter drawn right before it. -/
def SleepsSafely (backoffBaseMs : Nat) (history : List ProxyEvent) : Effect → Prop
  | .sleep millis => ∃ (earlier : List ProxyEvent) (greatest : Nat) (jitter : Fin (greatest + 1)),
      history = earlier ++ [⟨.randomRange greatest, jitter⟩] ∧
        SafeBackoff backoffBaseMs (attemptsIn earlier) greatest jitter millis
  | _ => True

/-- Whatever the answers, every sleep of the loop is safe; and the delays grow. -/
structure BacksOffSafely (ctx : RequestContext) : Prop where
  safe : ∀ (history : List ProxyEvent) (effect : Effect) (next : Answer effect → Proxy ProxyResult),
    Steps (tryUpstreams ctx) history (.act effect next) →
      SleepsSafely ctx.server.retryBackoffMs history effect
  growing : ∀ earlier later, 0 < earlier → earlier ≤ later →
    meantDelay ctx.server.retryBackoffMs earlier ≤ meantDelay ctx.server.retryBackoffMs later

/-- The number of the last retry the loop can reach. -/
def RequestContext.lastRetry (ctx : RequestContext) : Nat := min ctx.upstreamCount ctx.maxAttempts - 1

/-- Every retry up to the last one is safe with every jitter that can be drawn for it. -/
def RequestContext.SafeRetries (ctx : RequestContext) : Prop :=
  ∀ attemptsMade, 0 < attemptsMade → attemptsMade ≤ ctx.lastRetry →
    let expDelay := backoffDelay ctx.server.retryBackoffMs attemptsMade
    ∀ jitter ≤ expDelay / 2,
      SafeBackoff ctx.server.retryBackoffMs attemptsMade (expDelay / 2) jitter (wrappingAdd expDelay jitter)

/-!
## The arithmetic of one backoff
-/

section

variable {backoffBaseMs attemptsMade jitter : Nat}

theorem meantDelay_mono (backoffBaseMs : Nat) {earlier later : Nat} (ordered : earlier ≤ later) :
    meantDelay backoffBaseMs earlier ≤ meantDelay backoffBaseMs later := by
  have powers : 2 ^ (earlier - 1) ≤ 2 ^ (later - 1) :=
    Nat.pow_le_pow_right (by decide) (Nat.sub_le_sub_right ordered 1)
  exact min_le_min_right wordMax (Nat.mul_le_mul_left backoffBaseMs powers)

/-- The shift is exact while its amount is below 64. -/
theorem backoffDelay_eq_meantDelay (few : attemptsMade - 1 < 64) :
    backoffDelay backoffBaseMs attemptsMade = meantDelay backoffBaseMs attemptsMade := by
  rw [backoffDelay, saturatingMul, meantDelay, Nat.mod_eq_of_lt few]

theorem SafeBackoff.of_bounds {last : Nat} (retry : 0 < attemptsMade) (reached : attemptsMade ≤ last)
    (few : last ≤ 64) (fits : meantDelay backoffBaseMs last + meantDelay backoffBaseMs last / 2 < wordSize)
    (drawn : jitter ≤ backoffDelay backoffBaseMs attemptsMade / 2) :
    SafeBackoff backoffBaseMs attemptsMade (backoffDelay backoffBaseMs attemptsMade / 2) jitter
      (wrappingAdd (backoffDelay backoffBaseMs attemptsMade) jitter) := by
  have shift : attemptsMade - 1 < 64 := by omega
  have delay := @backoffDelay_eq_meantDelay backoffBaseMs _ shift
  have grown := meantDelay_mono backoffBaseMs reached
  have half := Nat.div_le_div_right (c := 2) grown
  rw [delay] at drawn
  have sum : meantDelay backoffBaseMs attemptsMade + jitter < wordSize := by omega
  rw [delay, wrappingAdd_of_lt sum]
  exact ⟨retry, shift, by rw [delay], by rwa [delay], Nat.le_add_right _ _, Nat.add_le_add_left drawn _⟩

end

/-!
## Every sleep of the loop
-/

@[simp] theorem attemptsIn_next (allowed : List ProxyEvent → Effect → Prop) (history : List ProxyEvent)
    (event : ProxyEvent) :
    attemptsIn ((watching allowed).next history event) =
      attemptsIn history + event.effect.startsAttempt.toNat := by
  simp [watching]

section

variable {ctx : RequestContext} {backoffBaseMs : Nat}

/-- Effects that neither start an attempt nor sleep keep the count of the attempts. -/
theorem sleepsSafely_keeps_count {effects : Effect → Prop}
    (calm : ∀ effect, effects effect → effect.startsAttempt = false)
    (awake : ∀ millis, ¬ effects (.sleep millis)) {attemptsMade : Nat} (history : List ProxyEvent)
    (effect : Effect) (counted : attemptsIn history = attemptsMade) (ofKind : effects effect) :
    (watching (SleepsSafely backoffBaseMs)).allowed history effect ∧ ∀ answer : Answer effect,
      attemptsIn ((watching (SleepsSafely backoffBaseMs)).next history ⟨effect, answer⟩) = attemptsMade := by
  constructor
  · cases effect with
    | sleep millis => exact absurd ofKind (awake millis)
    | _ => exact trivial
  · intro answer
    simp [calm effect ofKind, counted]

theorem follows_counted {Value : Type} {effects : Effect → Prop} {values : Value → Prop}
    {program : Proxy Value} (confined : program.Confined effects values)
    (calm : ∀ effect, effects effect → effect.startsAttempt = false)
    (awake : ∀ millis, ¬ effects (.sleep millis)) (history : List ProxyEvent) :
    program.Follows (watching (SleepsSafely backoffBaseMs))
      (fun reached value => attemptsIn reached = attemptsIn history ∧ values value) history :=
  .of_confined_keeping (attemptsIn · = attemptsIn history) confined (sleepsSafely_keeps_count calm awake)
    (fun _ _ counted returned => ⟨counted, returned⟩) rfl

theorem Effect.Reports.not_startsAttempt (effect : Effect) (reports : effect.Reports) :
    effect.startsAttempt = false := by
  cases effect <;> first
    | exact reports.elim
    | rfl

theorem Effect.AsksHealth.not_startsAttempt (effect : Effect) (asks : effect.AsksHealth) :
    effect.startsAttempt = false := by
  cases effect <;> first
    | exact asks.elim
    | rfl

theorem follows_admitAttempt {attemptsMade : Nat} {history : List ProxyEvent}
    (counted : attemptsIn history = attemptsMade)
    (safe : 0 < attemptsMade → ∀ jitter ≤ backoffDelay ctx.server.retryBackoffMs attemptsMade / 2,
      SafeBackoff ctx.server.retryBackoffMs attemptsMade
        (backoffDelay ctx.server.retryBackoffMs attemptsMade / 2) jitter
        (wrappingAdd (backoffDelay ctx.server.retryBackoffMs attemptsMade) jitter)) :
    (admitAttempt ctx attemptsMade).Follows (watching (SleepsSafely ctx.server.retryBackoffMs))
      (fun reached _ => attemptsIn reached = attemptsMade) history := by
  unfold admitAttempt
  by_cases retry : 0 < attemptsMade
  · rw [if_pos retry]
    refine ⟨trivial, fun allowed => ?_⟩
    cases allowed with
    | false =>
        change attemptsIn ((watching _).next _ _) = attemptsMade
        simpa [Effect.startsAttempt] using counted
    | true =>
        refine ⟨trivial, fun _ => ⟨trivial, fun jitter => ⟨⟨_, _, jitter, rfl, ?_⟩, fun _ => ?_⟩⟩⟩
        · simp only [attemptsIn_next, Effect.startsAttempt, counted]
          exact safe retry jitter.val (Nat.le_of_lt_succ jitter.isLt)
        · change attemptsIn ((watching _).next _ _) = attemptsMade
          simpa [Effect.startsAttempt] using counted
  · rw [if_neg retry]
    exact counted

theorem follows_attempt_counted {index : Nat} {upstream : String} {history : List ProxyEvent} :
    (attempt ctx index upstream).Follows (watching (SleepsSafely backoffBaseMs))
      (fun reached _ => attemptsIn reached = attemptsIn history + 1) history := by
  apply follows_attempt trivial
  · exact ⟨trivial, by simp [Effect.startsAttempt]⟩
  · intro headers _
    exact ⟨trivial, fun outcome => ⟨trivial, by simp [Effect.startsAttempt]⟩⟩

theorem follows_failureExit (history : List ProxyEvent) (lastError : Option ProxyError) :
    (failureExit ctx lastError).Follows (watching (SleepsSafely backoffBaseMs)) (fun _ _ => True) history :=
  (follows_counted (failureExit_confined ctx lastError) Effect.Reports.not_startsAttempt
    (fun _ => id) history).mono fun _ _ _ => trivial

/-- The attempts are counted, and leave room for the offsets left. -/
structure Counted (ctx : RequestContext) (left : Nat) (history : List ProxyEvent) (loop : LoopState) :
    Prop where
  made : attemptsIn history = loop.attemptsMade
  room : loop.attemptsMade + left ≤ ctx.upstreamCount

/-- A turn that goes on keeps the count. -/
def LoopStep.Counts (ctx : RequestContext) (left : Nat) (reached : List ProxyEvent) : LoopStep → Prop
  | .again next => Counted ctx left reached next
  | .leave | .answer _ => True

theorem follows_attempt_settled {left index : Nat} {upstream : String} {history : List ProxyEvent}
    {loop : LoopState} (counted : Counted ctx (left + 1) history loop) :
    (attempt ctx index upstream >>= settle ctx upstream (loop.attemptsMade + 1)).Follows
      (watching (SleepsSafely backoffBaseMs)) (LoopStep.Counts ctx left) history := by
  rw [follows_bind]
  apply follows_attempt_counted.mono
  intro attempted result started
  apply (follows_counted (settle_confined ctx upstream _ result)
    Effect.Reports.not_startsAttempt (fun _ => id) attempted).mono
  intro settled step ends
  have made := counted.made
  have room := counted.room
  cases step with
  | again next =>
      have count : next.attemptsMade = loop.attemptsMade + 1 := ends.2
      exact ⟨by omega, by omega⟩
  | leave => exact ends.2.elim
  | answer answered => trivial

theorem follows_visit_counted {healthyExists : Bool} {offset left : Nat} {history : List ProxyEvent}
    {loop : LoopState} (counted : Counted ctx (left + 1) history loop) (safe : ctx.SafeRetries) :
    (visit ctx healthyExists offset loop).Follows (watching (SleepsSafely ctx.server.retryBackoffMs))
      (LoopStep.Counts ctx left) history := by
  unfold visit
  rw [follows_ite]
  split
  · exact trivial
  · next below =>
    dsimp only
    cases ctx.route.upstreams[ctx.index offset]? with
    | none =>
        rw [Proxy.unwrap, Proxy.panic_bind]
        exact ⟨trivial, fun answer => Empty.elim answer⟩
    | some upstream =>
        simp only [Proxy.unwrap_some, pure_eq_done, bind_done, follows_bind]
        apply (follows_counted (skips_asksHealth healthyExists upstream)
          Effect.AsksHealth.not_startsAttempt (fun _ => id) history).mono
        intro asked skip unchanged
        have made : attemptsIn asked = loop.attemptsMade := unchanged.1.trans counted.made
        rw [follows_ite]
        split
        · exact ⟨made, Nat.le_of_succ_le counted.room⟩
        · have reached : loop.attemptsMade ≤ ctx.lastRetry := by
            have room := counted.room
            unfold RequestContext.lastRetry
            omega
          rw [follows_bind]
          apply (follows_admitAttempt made fun retry => safe loop.attemptsMade retry reached).mono
          intro admitted _ kept
          rw [follows_ite]
          split
          · exact follows_attempt_settled ⟨kept, counted.room⟩
          · exact trivial

theorem follows_tryUpstreams_counted (safe : ctx.SafeRetries) :
    (tryUpstreams ctx).Follows (watching (SleepsSafely ctx.server.retryBackoffMs)) (fun _ _ => True) [] := by
  unfold tryUpstreams
  rw [follows_bind]
  apply (follows_counted (anyHealthy_asksHealth ctx.route.upstreams)
    Effect.AsksHealth.not_startsAttempt (fun _ => id) []).mono
  intro asked healthyExists unchanged
  refine ⟨trivial, fun _ => ?_⟩
  apply follows_retryLoop_counted (Counted ctx)
  · intro left offset state loop counted
    apply (follows_visit_counted counted safe).mono
    intro reached step counts
    cases step with
    | again next => exact counts
    | leave => exact follows_failureExit reached loop.lastError
    | answer result => trivial
  · intro state loop _
    exact follows_failureExit state loop.lastError
  · exact ⟨by simp [unchanged.1, Effect.startsAttempt], by simp⟩

theorem RequestContext.SafeRetries.backsOffSafely (safe : ctx.SafeRetries) : BacksOffSafely ctx where
  safe _ _ _ steps := (follows_tryUpstreams_counted safe).allowed_next steps
  growing _ _ _ ordered := meantDelay_mono ctx.server.retryBackoffMs ordered

end

/-!
## Reaching a retry
-/

section

variable (ctx : RequestContext)

theorem runs_admitAttempt_granted (attemptsMade jitter : Nat) :
    Runs (admitAttempt ctx attemptsMade) (admissionEvents ctx attemptsMade jitter) true := by
  unfold admitAttempt admissionEvents
  split
  · exact .act (.act (.act (.act (.refl _))))
  · exact .refl _

/-- An attempt can always fail: its URI is refused or the client cannot connect. -/
theorem runs_attempt_failed (index : Nat) (upstream : String) :
    ∃ trace, Runs (attempt ctx index upstream) trace (.error .upstreamFailure) ∧ attemptsIn trace = 1 := by
  obtain ⟨headers, _, forwarded⟩ := forwardOnce_eq ctx.parses
    ⟨ctx.methodStr, ctx.headers, ctx.wholeBody⟩ upstream ctx.finalPath ctx.requestId ctx.clientIp
    ctx.requestTimeout
  unfold attempt
  dsimp only
  rw [forwarded, perform_bind]
  split
  · exact ⟨[⟨.recordStart ctx.route.balancer index, ()⟩,
      ⟨.clientRequest ⟨ctx.methodStr, upstream ++ ctx.finalPath, headers, ctx.wholeBody⟩ ctx.requestTimeout,
        UpstreamOutcome.failed⟩,
      ⟨.recordDone ctx.route.balancer index, ()⟩], .act (.act (.act (.refl _))), rfl⟩
  · exact ⟨[⟨.recordStart ctx.route.balancer index, ()⟩, ⟨.recordDone ctx.route.balancer index, ()⟩],
      .act (.act (.refl _)), rfl⟩

variable {ctx}

theorem runs_visit_failed (nonempty : ctx.route.upstreams ≠ []) (offset : Nat) {loop : LoopState}
    (below : loop.attemptsMade < ctx.maxAttempts) :
    ∃ trace, Runs (visit ctx false offset loop) trace
      (.again ⟨loop.attemptsMade + 1, some .upstreamFailure⟩) ∧ attemptsIn trace = 1 := by
  have admitted := runs_admitAttempt_granted ctx loop.attemptsMade 0
  obtain ⟨attempting, failed, once⟩ := runs_attempt_failed ctx (ctx.index offset) (ctx.upstreamAt offset)
  have settled : Runs (settle ctx (ctx.upstreamAt offset) (loop.attemptsMade + 1) (.error .upstreamFailure))
      [⟨.recordFailure _, ()⟩, ⟨.incErrorsTotal _ _, ()⟩]
      (.again ⟨loop.attemptsMade + 1, some .upstreamFailure⟩) := .act (.act (.refl _))
  have turn := runs_bind.mpr ⟨_, _, _, rfl, failed, settled⟩
  unfold visit
  rw [if_neg below.not_ge]
  dsimp only
  rw [ctx.upstreams_index nonempty offset, Proxy.unwrap_some, pure_eq_done, bind_done, skips,
    if_neg Bool.false_ne_true, pure_eq_done, bind_done, if_neg Bool.false_ne_true]
  refine ⟨_, runs_bind.mpr ⟨true, _, _, rfl, admitted, turn⟩, ?_⟩
  simp [attemptsIn_admissionEvents, once, Effect.startsAttempt]

/-- A retry can draw every jitter in its range. -/
theorem steps_visit_draws (nonempty : ctx.route.upstreams ≠ []) (offset : Nat) {loop : LoopState}
    (below : loop.attemptsMade < ctx.maxAttempts) (retry : 0 < loop.attemptsMade)
    (jitter : Fin (backoffDelay ctx.server.retryBackoffMs loop.attemptsMade / 2 + 1)) :
    ∃ earlier next, attemptsIn earlier = 0 ∧
      Steps (visit ctx false offset loop) (earlier ++ [⟨.randomRange _, jitter⟩])
        (.act (.sleep (wrappingAdd (backoffDelay ctx.server.retryBackoffMs loop.attemptsMade) jitter)) next) := by
  have drawn : Steps (admitAttempt ctx loop.attemptsMade) ([⟨.allowRetry, true⟩,
      ⟨.incRetriesTotal ctx.route.routePrefix, ()⟩] ++ [⟨.randomRange _, jitter⟩])
      (.act (.sleep (wrappingAdd (backoffDelay ctx.server.retryBackoffMs loop.attemptsMade) jitter))
        fun _ => .done true) := by
    rw [admitAttempt, if_pos retry]
    exact .act (.act (.act (.refl _)))
  unfold visit
  rw [if_neg below.not_ge]
  dsimp only
  rw [ctx.upstreams_index nonempty offset, Proxy.unwrap_some, pure_eq_done, bind_done, skips,
    if_neg Bool.false_ne_true, pure_eq_done, bind_done, if_neg Bool.false_ne_true]
  exact ⟨_, _, by simp [Effect.startsAttempt], drawn.bind _⟩

/-- While its attempts fail, the loop comes to its next retry. -/
theorem steps_retryLoop_draws (nonempty : ctx.route.upstreams ≠ []) {attemptsMade : Nat}
    (retry : 0 < attemptsMade) (below : attemptsMade < ctx.maxAttempts)
    (jitter : Fin (backoffDelay ctx.server.retryBackoffMs attemptsMade / 2 + 1)) (failures : Nat)
    {offsets : List Nat} {loop : LoopState} (room : failures < offsets.length)
    (made : loop.attemptsMade + failures = attemptsMade) :
    ∃ earlier next, attemptsIn earlier = failures ∧
      Steps (retryLoop ctx false offsets loop) (earlier ++ [⟨.randomRange _, jitter⟩])
        (.act (.sleep (wrappingAdd (backoffDelay ctx.server.retryBackoffMs attemptsMade) jitter)) next) := by
  induction failures generalizing offsets loop with
  | zero =>
      obtain ⟨offset, later, rfl⟩ := List.exists_cons_of_length_pos room
      rw [Nat.add_zero] at made
      subst made
      obtain ⟨earlier, next, idle, drawn⟩ := steps_visit_draws nonempty offset below retry jitter
      exact ⟨earlier, _, idle, drawn.bind _⟩
  | succ failures ih =>
      obtain ⟨offset, later, rfl⟩ := List.exists_cons_of_length_pos (Nat.zero_lt_of_lt room)
      obtain ⟨turn, failed, once⟩ := runs_visit_failed nonempty offset
        (show loop.attemptsMade < ctx.maxAttempts by omega)
      obtain ⟨earlier, next, counted, drawn⟩ := ih
        (show failures < later.length from Nat.lt_of_succ_lt_succ room)
        (show (⟨loop.attemptsMade + 1, some .upstreamFailure⟩ : LoopState).attemptsMade + failures =
          attemptsMade by dsimp only; omega)
      refine ⟨turn ++ earlier, next, by rw [attemptsIn_append, once, counted, Nat.add_comm], ?_⟩
      rw [List.append_assoc]
      exact (failed.bind _).append drawn

theorem runs_anyHealthy_none (upstreams : List String) :
    ∃ scan, Runs (anyHealthy upstreams) scan false ∧ attemptsIn scan = 0 := by
  induction upstreams with
  | nil => exact ⟨[], .refl _, rfl⟩
  | cons upstream upstreams ih =>
      obtain ⟨scan, scanned, idle⟩ := ih
      exact ⟨⟨.isHealthy upstream, false⟩ :: scan, .act scanned, by simp [idle, Effect.startsAttempt]⟩

/-- Every retry up to the last one is reached, with every jitter. -/
theorem steps_tryUpstreams_draws {attemptsMade : Nat} (retry : 0 < attemptsMade)
    (reached : attemptsMade ≤ ctx.lastRetry)
    (jitter : Fin (backoffDelay ctx.server.retryBackoffMs attemptsMade / 2 + 1)) :
    ∃ earlier next, attemptsIn earlier = attemptsMade ∧
      Steps (tryUpstreams ctx) (earlier ++ [⟨.randomRange _, jitter⟩])
        (.act (.sleep (wrappingAdd (backoffDelay ctx.server.retryBackoffMs attemptsMade) jitter)) next) := by
  unfold RequestContext.lastRetry at reached
  have room : attemptsMade < (List.range ctx.upstreamCount).length := by
    rw [List.length_range]
    omega
  have below : attemptsMade < ctx.maxAttempts := by omega
  have nonempty : ctx.route.upstreams ≠ [] := by
    intro empty
    rw [List.length_range, RequestContext.upstreamCount, empty] at room
    exact absurd room (Nat.not_lt_zero attemptsMade)
  obtain ⟨scan, scanned, idle⟩ := runs_anyHealthy_none ctx.route.upstreams
  obtain ⟨earlier, next, counted, drawn⟩ := steps_retryLoop_draws nonempty retry below jitter attemptsMade
    room (show (⟨0, none⟩ : LoopState).attemptsMade + attemptsMade = attemptsMade from Nat.zero_add _)
  refine ⟨scan ++ ⟨.recordRequest, ()⟩ :: earlier, next, ?_, ?_⟩
  · simp [idle, counted, Effect.startsAttempt]
  · rw [List.append_assoc]
    exact (scanned.bind _).append (.act drawn)

theorem BacksOffSafely.safeRetries (safely : BacksOffSafely ctx) : ctx.SafeRetries := by
  intro attemptsMade retry reached expDelay jitter within
  obtain ⟨earlier, next, counted, drawn⟩ := steps_tryUpstreams_draws retry reached
    ⟨jitter, Nat.lt_succ_of_le within⟩
  obtain ⟨before, greatest, found, same, safe⟩ := safely.safe _ _ next drawn
  obtain ⟨rfl, last⟩ := List.append_inj' same rfl
  cases last
  rwa [counted] at safe

/-- All retries are safe when none is made, or when the shift of the last one stays below
64 and its longest delay below 2⁶⁴. -/
theorem RequestContext.safeRetries_iff :
    ctx.SafeRetries ↔ ctx.lastRetry = 0 ∨ ctx.lastRetry ≤ 64 ∧
      meantDelay ctx.server.retryBackoffMs ctx.lastRetry +
        meantDelay ctx.server.retryBackoffMs ctx.lastRetry / 2 < wordSize := by
  constructor
  · intro safe
    rcases Nat.eq_zero_or_pos ctx.lastRetry with none | some
    · exact .inl none
    · have few : ctx.lastRetry ≤ 64 := by
        by_contra many
        have shift := (safe 65 (by decide) (by omega) 0 (Nat.zero_le _)).shift
        exact absurd shift (by decide)
      have longest := (safe ctx.lastRetry some le_rfl _ le_rfl).sum
      rw [backoffDelay_eq_meantDelay (by omega)] at longest
      exact .inr ⟨few, longest⟩
  · intro bounds attemptsMade retry reached expDelay jitter drawn
    cases bounds with
    | inl none => omega
    | inr fits => exact .of_bounds retry reached fits.1 fits.2 drawn

/-- The backoff is safe exactly when every retry that can be reached is. -/
theorem backsOffSafely_iff_last_fits (ctx : RequestContext) :
    BacksOffSafely ctx ↔ ctx.lastRetry = 0 ∨ ctx.lastRetry ≤ 64 ∧
      meantDelay ctx.server.retryBackoffMs ctx.lastRetry +
        meantDelay ctx.server.retryBackoffMs ctx.lastRetry / 2 < wordSize := by
  rw [← RequestContext.safeRetries_iff]
  exact ⟨BacksOffSafely.safeRetries, RequestContext.SafeRetries.backsOffSafely⟩

end

/-- The longest base a configuration can state, with one retry. -/
def longestBackoff : RequestContext :=
  matchedContext (fun _ => true) plainRequest 0 plainId
    { twoUpstreamsConfig with server := { twoUpstreamsConfig.server with maxRetries := 1, retryBackoffMs := wordMax } }
    twoUpstreams [] 0

/-- Its delay is meant to be all of `u64::MAX`, and a jitter of one makes it zero. -/
theorem longestBackoff_overflows :
    ¬ BacksOffSafely longestBackoff ∧ meantDelay wordMax 1 = wordMax ∧
      ∃ history next, Steps (tryUpstreams longestBackoff) history (.act (.sleep 0) next) := by
  refine ⟨fun safely => ?_, by decide, ?_⟩
  · exact absurd (RequestContext.safeRetries_iff.mp safely.safeRetries) (by decide)
  · obtain ⟨earlier, next, _, drawn⟩ := @steps_tryUpstreams_draws longestBackoff 1
      (by decide) (by decide) ⟨1, by decide⟩
    exact ⟨_, next, drawn⟩

end L7Proxy
