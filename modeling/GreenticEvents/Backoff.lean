import Mathlib.Data.List.Infix
import Mathlib.Data.String.Basic
import Mathlib.Tactic.NormNum

/-!
# Retry policies (`backoff.rs`)
-/

namespace GreenticEvents

/-- `Duration::MAX` in nanoseconds: `u64::MAX` seconds and 999999999 nanoseconds. -/
def maxNanos : ℕ := 2 ^ 64 * 10 ^ 9 - 1

structure Duration where
  nanos : ℕ
  nanos_le : nanos ≤ maxNanos
  deriving DecidableEq

namespace Duration

def fromMillis (ms : UInt64) : Duration :=
  ⟨ms.toNat * 10 ^ 6, by have := ms.toNat_lt; unfold maxNanos; omega⟩

def fromSecs (secs : UInt64) : Duration :=
  ⟨secs.toNat * 10 ^ 9, by have := secs.toNat_lt; unfold maxNanos; omega⟩

def min (a b : Duration) : Duration := if a.nanos ≤ b.nanos then a else b

def checkedMul (d : Duration) (n : ℕ) : Option Duration :=
  if h : d.nanos * n ≤ maxNanos then some ⟨d.nanos * n, h⟩ else none

def saturatingMul (d : Duration) (n : ℕ) : Duration :=
  (d.checkedMul n).getD ⟨maxNanos, le_rfl⟩

end Duration

/-- A source of random numbers: `range hi` is a draw from `0..=hi`. -/
structure Rng where
  range : ℕ → ℕ
  range_le : ∀ hi, range hi ≤ hi

def zeroRng : Rng := ⟨fun _ => 0, Nat.zero_le⟩

inductive BackoffStrategy where
  | fixed
  | exponential
  | exponentialWithJitter
  deriving DecidableEq

structure RetryPolicy where
  maxRetries : UInt32
  strategy : BackoffStrategy
  baseDelay : Duration
  maxDelay : Duration
  retryableErrors : List String

namespace RetryPolicy

def default : RetryPolicy where
  maxRetries := 3
  strategy := .exponentialWithJitter
  baseDelay := .fromMillis 500
  maxDelay := .fromSecs 30
  retryableErrors := []

/-- `str::contains`. -/
def contains (text part : String) : Bool := decide (part.toList <:+: text.toList)

def isRetryable (policy : RetryPolicy) (errorMessage : String) : Bool :=
  if policy.retryableErrors.isEmpty then true
  else policy.retryableErrors.any fun pat => contains errorMessage pat

end RetryPolicy

def jitter (rng : Rng) (d : Duration) : Duration :=
  let nanos := Nat.min d.nanos (2 ^ 64 - 1)
  ⟨rng.range nanos, (rng.range_le nanos).trans ((Nat.min_le_left ..).trans d.nanos_le)⟩

/-- `2_u32.saturating_pow`. -/
def saturatingPow2 (attempt : ℕ) : ℕ := Nat.min (2 ^ attempt) (2 ^ 32 - 1)

def RetryPolicy.delayForAttempt (policy : RetryPolicy) (rng : Rng) (attempt : ℕ) : Duration :=
  match policy.strategy with
  | .fixed => policy.maxDelay.min (policy.baseDelay.saturatingMul (Nat.max attempt 1))
  | .exponential | .exponentialWithJitter =>
    let candidate := (policy.baseDelay.checkedMul (saturatingPow2 attempt)).getD policy.maxDelay
    let capped := policy.maxDelay.min candidate
    if policy.strategy = .exponentialWithJitter then jitter rng capped else capped

end GreenticEvents
