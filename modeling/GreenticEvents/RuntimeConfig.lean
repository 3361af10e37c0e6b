import Mathlib.Algebra.Order.Ring.Rat
import GreenticEvents.Delays
import GreenticEvents.Retries

/-!
# Retry settings of the runtime (`lib.rs` of `greentic-events-runtime`)
-/

namespace GreenticEvents
open Effects Prog

/-- The values of an `f64`; a finite one is a rational number. -/
inductive F64 where
  | nan
  | negInf
  | posInf
  | finite (value : ℚ)
  deriving DecidableEq

/-- `x <= 1.0`, which is false for a NaN. -/
def F64.leOne : F64 → Bool
  | nan | posInf => false
  | negInf => true
  | finite value => value ≤ 1

structure ReconnectConfig where
  enabled : Option Bool
  maxRetries : Option UInt32
  deriving DecidableEq

structure BackoffConfig where
  initialMs : Option UInt64
  maxMs : Option UInt64
  multiplier : Option F64
  jitter : Option Bool
  deriving DecidableEq

structure EventsRuntimeConfig where
  reconnect : Option ReconnectConfig
  backoff : Option BackoffConfig
  deriving DecidableEq

/-- The strategy that a backoff asks for, if it asks for one. -/
def BackoffConfig.strategy (backoff : BackoffConfig) : Option BackoffStrategy :=
  let jitter := backoff.jitter.getD true
  let growing := if jitter then BackoffStrategy.exponentialWithJitter else .exponential
  match backoff.multiplier with
  | some multiplier => some (if multiplier.leOne then .fixed else growing)
  | none => if backoff.jitter.isSome then some growing else none

def RetryPolicy.withReconnect (policy : RetryPolicy) (reconnect : ReconnectConfig) : RetryPolicy :=
  -- `enabled` is not read
  { policy with maxRetries := reconnect.maxRetries.getD policy.maxRetries }

def RetryPolicy.withBackoff (policy : RetryPolicy) (backoff : BackoffConfig) : RetryPolicy :=
  { policy with
    baseDelay := (backoff.initialMs.map .fromMillis).getD policy.baseDelay
    maxDelay := (backoff.maxMs.map .fromMillis).getD policy.maxDelay
    strategy := backoff.strategy.getD policy.strategy }

def retryPolicyFrom (runtime : EventsRuntimeConfig) : RetryPolicy :=
  let policy := match runtime.reconnect with
    | some reconnect => RetryPolicy.default.withReconnect reconnect
    | none => RetryPolicy.default
  match runtime.backoff with
  | some backoff => policy.withBackoff backoff
  | none => policy

def EventsRuntimeConfig.toRetryPolicy (runtime : EventsRuntimeConfig) : RetryPolicy :=
  retryPolicyFrom runtime

theorem retryPolicyFrom_maxRetries (runtime : EventsRuntimeConfig) :
    (retryPolicyFrom runtime).maxRetries =
      (runtime.reconnect.bind ReconnectConfig.maxRetries).getD 3 := by
  obtain ⟨reconnect, backoff⟩ := runtime
  cases reconnect <;> cases backoff <;> rfl

/-- A backoff without jitter and with a multiplier above one. -/
def growingBackoff (i M : UInt64) (m : ℕ) : BackoffConfig :=
  ⟨some i, some M, some (.finite m), some false⟩

theorem retryPolicyFrom_growing {runtime : EventsRuntimeConfig} {i M : UInt64} {m : ℕ} (hm : 2 ≤ m)
    (h : runtime.backoff = some (growingBackoff i M m)) :
    (retryPolicyFrom runtime).strategy = .exponential ∧
      (retryPolicyFrom runtime).baseDelay = .fromMillis i ∧
      (retryPolicyFrom runtime).maxDelay = .fromMillis M := by
  have hone : F64.leOne (.finite m) = false := by
    have hlt : (1 : ℚ) < m := by exact_mod_cast hm
    simpa [F64.leOne] using hlt
  refine ⟨?_, ?_, ?_⟩ <;> simp [retryPolicyFrom, h, RetryPolicy.withBackoff, growingBackoff,
    BackoffConfig.strategy, hone]

variable {provider : ProviderRegistration} {event : EventEnvelope}

/-- The multiplier only picks the strategy: every delay is twice the one before, the first
twice `initial_ms`. -/
theorem retryPolicyFrom_schedule {runtime : EventsRuntimeConfig} {i M : UInt64} {m : ℕ}
    (hm : 2 ≤ m) (hbackoff : runtime.backoff = some (growingBackoff i M m))
    (hpolicy : provider.retry = retryPolicyFrom runtime) {h : BusHistory} {v : Except String Unit}
    (hr : Runs (publishWithRetry provider event) h (.ret v)) :
    (∀ k d, (publishAttempts h).delays[k]? = some d →
      d.nanos = min M.toNat (i.toNat * min (2 ^ (k + 1)) (2 ^ 32 - 1)) * 10 ^ 6) ∧
    (publishAttempts h).outcomes.length ≤
      1 + ((runtime.reconnect.bind ReconnectConfig.maxRetries).getD 3).toNat := by
  have hloop := publishWithRetry_attempts hr
  rw [hpolicy] at hloop
  obtain ⟨hstrategy, hbase, hmax⟩ := retryPolicyFrom_growing hm hbackoff
  constructor
  · intro k d hd
    obtain ⟨rng, rfl⟩ := hloop.delay_eq hd
    rw [RetryPolicy.nanos_exponential rng _ hstrategy, hbase, hmax, Nat.zero_add]
    show min (M.toNat * 10 ^ 6) (i.toNat * 10 ^ 6 * min (2 ^ (k + 1)) (2 ^ 32 - 1)) = _
    rw [Nat.mul_right_comm, Nat.mul_min_mul_right]
  · have hle := hloop.outcomes_length_le
    rw [retryPolicyFrom_maxRetries] at hle
    omega

/-- A backoff from 250 ms to 5 s that doubles. -/
def doublingConfig (enabled : Bool) : EventsRuntimeConfig :=
  ⟨some ⟨some enabled, some 7⟩, some (growingBackoff 250 5000 2)⟩

def doublingProvider (enabled : Bool) : ProviderRegistration where
  descriptor := ⟨"broker", .broker, .nats, .atLeastOnce, .none, none, []⟩
  topics := ["*"]
  dlqTopic := none
  retry := retryPolicyFrom (doublingConfig enabled)
  handle := 0

def halfSecond : Duration := .fromMillis 500

def doublingPublish : BusHistory :=
  [⟨.publish 0 keyedEvent, .error "down"⟩, ⟨.threadRng, zeroRng⟩, ⟨.sleep halfSecond, ()⟩,
    ⟨.publish 0 keyedEvent, .ok ()⟩]

theorem doublingPublish_runs (enabled : Bool) :
    Runs (publishWithRetry (doublingProvider enabled) keyedEvent) doublingPublish
      (.ret (.ok ())) := by
  have hdelay : (doublingProvider enabled).retry.delayForAttempt zeroRng 1 = halfSecond := by
    obtain ⟨hstrategy, hbase, hmax⟩ := retryPolicyFrom_growing le_rfl
      (show (doublingConfig enabled).backoff = some (growingBackoff 250 5000 2) from rfl)
    apply eq_of_nanos
    show ((retryPolicyFrom (doublingConfig enabled)).delayForAttempt zeroRng 1).nanos = _
    rw [RetryPolicy.nanos_exponential zeroRng 1 hstrategy, hbase, hmax]
    rfl
  refine .step rfl (.step rfl (?_ : After _ _ _ _))
  rw [← hdelay]
  exact .step rfl (.step rfl (.refl _))

theorem retryPolicyFrom_schedule_doubling :
    halfSecond.nanos =
      min (5000 : UInt64).toNat ((250 : UInt64).toNat * min (2 ^ 1) (2 ^ 32 - 1)) * 10 ^ 6 := by
  have hbackoff : (doublingConfig true).backoff = some (growingBackoff 250 5000 2) := rfl
  have hdelay : (publishAttempts doublingPublish).delays[0]? = some halfSecond := rfl
  have hpolicy : (doublingProvider true).retry = retryPolicyFrom (doublingConfig true) := rfl
  exact (retryPolicyFrom_schedule le_rfl hbackoff hpolicy (doublingPublish_runs true)).1 0 _ hdelay

/-- The first sleep is 500 ms, and there is a second attempt without reconnects. -/
theorem doubling_not_described :
    (¬ ∀ (runtime : EventsRuntimeConfig) (i M : UInt64) (m : ℕ) (provider : ProviderRegistration)
        (event : EventEnvelope) (h : BusHistory) (v : Except String Unit), 2 ≤ m →
      runtime.backoff = some (growingBackoff i M m) → provider.retry = retryPolicyFrom runtime →
      Runs (publishWithRetry provider event) h (.ret v) →
      ∀ k d, (publishAttempts h).delays[k]? = some d →
        d.nanos = min M.toNat (i.toNat * m ^ k) * 10 ^ 6) ∧
    ¬ ∀ (runtime : EventsRuntimeConfig) (i M : UInt64) (m : ℕ) (provider : ProviderRegistration)
        (event : EventEnvelope) (h : BusHistory) (v : Except String Unit), 2 ≤ m →
      runtime.backoff = some (growingBackoff i M m) → provider.retry = retryPolicyFrom runtime →
      Runs (publishWithRetry provider event) h (.ret v) →
      runtime.reconnect.bind ReconnectConfig.enabled = some false →
      (publishAttempts h).outcomes.length = 1 := by
  constructor
  · intro hall
    have hfirst := hall (doublingConfig true) 250 5000 2 (doublingProvider true) keyedEvent _ _
      le_rfl rfl rfl (doublingPublish_runs true) 0 halfSecond rfl
    exact absurd hfirst (by decide)
  · intro hall
    have hone := hall (doublingConfig false) 250 5000 2 (doublingProvider false) keyedEvent _ _
      le_rfl rfl rfl (doublingPublish_runs false) rfl
    exact absurd hone (by decide)

end GreenticEvents
