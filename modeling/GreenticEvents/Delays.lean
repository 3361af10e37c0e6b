import GreenticEvents.Backoff

/-!
# The delays of a retry policy

In nanoseconds every delay is the smaller of the policy's cap and a multiple of its
base, although the code takes several ways to avoid an overflow.
-/

namespace GreenticEvents

theorem eq_of_nanos {a b : Duration} (h : a.nanos = b.nanos) : a = b := by
  cases a
  cases b
  congr

theorem nanos_min (a b : Duration) : (a.min b).nanos = min a.nanos b.nanos := by
  unfold Duration.min
  split_ifs <;> omega

/-- A product that is too long for a `Duration` is longer than any cap. -/
theorem nanos_min_checkedMul (cap d : Duration) (n : ℕ) {fallback : Duration}
    (h : cap.nanos ≤ fallback.nanos) :
    (cap.min ((d.checkedMul n).getD fallback)).nanos = min cap.nanos (d.nanos * n) := by
  rw [nanos_min]
  unfold Duration.checkedMul
  split_ifs with hfits
  · rfl
  · have hcap := cap.nanos_le
    rw [Option.getD_none, min_eq_left h, min_eq_left (by omega)]

theorem nanos_min_saturatingMul (cap d : Duration) (n : ℕ) :
    (cap.min (d.saturatingMul n)).nanos = min cap.nanos (d.nanos * n) :=
  nanos_min_checkedMul cap d n cap.nanos_le

theorem saturatingPow2_lt (attempt : ℕ) : saturatingPow2 attempt < 2 ^ 32 := by
  have h : saturatingPow2 attempt ≤ 2 ^ 32 - 1 := Nat.min_le_right ..
  omega

theorem saturatingPow2_mono {a b : ℕ} (h : a ≤ b) : saturatingPow2 a ≤ saturatingPow2 b := by
  have hpow : 2 ^ a ≤ 2 ^ b := Nat.pow_le_pow_right Nat.two_pos h
  exact min_le_min_right _ hpow

theorem jitter_le (rng : Rng) (d : Duration) :
    (jitter rng d).nanos ≤ d.nanos ∧ (jitter rng d).nanos < 2 ^ 64 := by
  have h : (jitter rng d).nanos ≤ min d.nanos (2 ^ 64 - 1) := rng.range_le _
  omega

namespace RetryPolicy

variable {policy : RetryPolicy} (rng : Rng) (attempt : ℕ)

theorem nanos_fixed (h : policy.strategy = .fixed) :
    (policy.delayForAttempt rng attempt).nanos =
      min policy.maxDelay.nanos (policy.baseDelay.nanos * max attempt 1) := by
  rw [delayForAttempt, h]
  exact nanos_min_saturatingMul ..

theorem nanos_exponential (h : policy.strategy = .exponential) :
    (policy.delayForAttempt rng attempt).nanos =
      min policy.maxDelay.nanos (policy.baseDelay.nanos * saturatingPow2 attempt) := by
  rw [delayForAttempt, h]
  exact nanos_min_checkedMul _ _ _ le_rfl

/-- A draw never exceeds the delay that it randomises. -/
theorem nanos_jitter (h : policy.strategy = .exponentialWithJitter) :
    (policy.delayForAttempt rng attempt).nanos ≤
      ({ policy with strategy := .exponential }.delayForAttempt rng attempt).nanos := by
  rw [delayForAttempt, h]
  exact (jitter_le rng _).1

theorem nanos_le_maxDelay : (policy.delayForAttempt rng attempt).nanos ≤ policy.maxDelay.nanos := by
  cases h : policy.strategy with
  | fixed =>
    rw [nanos_fixed rng attempt h]
    exact min_le_left _ _
  | exponential =>
    rw [nanos_exponential rng attempt h]
    exact min_le_left _ _
  | exponentialWithJitter =>
    apply (nanos_jitter rng attempt h).trans
    rw [nanos_exponential rng attempt rfl]
    exact min_le_left _ _

theorem nanos_mono (rng' : Rng) {a b : ℕ} (hab : a ≤ b)
    (h : policy.strategy ≠ .exponentialWithJitter) :
    (policy.delayForAttempt rng a).nanos ≤ (policy.delayForAttempt rng' b).nanos := by
  have hcapped {m n : ℕ} (hmn : m ≤ n) :
      min policy.maxDelay.nanos (policy.baseDelay.nanos * m) ≤
        min policy.maxDelay.nanos (policy.baseDelay.nanos * n) := by
    have := Nat.mul_le_mul_left policy.baseDelay.nanos hmn
    omega
  cases hs : policy.strategy with
  | fixed =>
    rw [nanos_fixed rng a hs, nanos_fixed rng' b hs]
    apply hcapped
    omega
  | exponential =>
    rw [nanos_exponential rng a hs, nanos_exponential rng' b hs]
    exact hcapped (saturatingPow2_mono hab)
  | exponentialWithJitter => exact absurd hs h

/-- Whatever the base and the cap: every number on the way fits its type, no delay
exceeds the cap, the delays do not fall from one attempt to a later one, and a draw
lies between zero and the delay that it randomises. -/
theorem delayForAttempt_bounded (policy : RetryPolicy) {a b : ℕ} (hab : a ≤ b) (rng rng' : Rng) :
    saturatingPow2 a < 2 ^ 32 ∧
    (∀ d : Duration, (jitter rng d).nanos < 2 ^ 64) ∧
    (policy.delayForAttempt rng a).nanos ≤ policy.maxDelay.nanos ∧
    (policy.strategy = .fixed ∨ policy.strategy = .exponential →
      (policy.delayForAttempt rng a).nanos ≤ (policy.delayForAttempt rng' b).nanos) ∧
    (policy.strategy = .exponentialWithJitter →
      0 ≤ (policy.delayForAttempt rng a).nanos ∧ (policy.delayForAttempt rng a).nanos ≤
        ({ policy with strategy := .exponential }.delayForAttempt rng a).nanos) := by
  refine ⟨saturatingPow2_lt a, fun d => (jitter_le rng d).2, nanos_le_maxDelay rng a, fun h => ?_,
    fun h => ⟨Nat.zero_le _, nanos_jitter rng a h⟩⟩
  apply nanos_mono rng rng' hab
  rcases h with h | h <;> simp [h]

theorem delayForAttempt_bounded_default :
    ({ default with strategy := .exponential }.delayForAttempt zeroRng 1).nanos ≤
      ({ default with strategy := .exponential }.delayForAttempt zeroRng 2).nanos :=
  (delayForAttempt_bounded _ (show 1 ≤ 2 by decide) zeroRng zeroRng).2.2.2.1 (.inr rfl)

end RetryPolicy

end GreenticEvents
