import GreenticEvents.Delays
import GreenticEvents.Retries

/-!
# What a retry loop does, call by call

The outcomes of the calls decide how many there are; between two calls stands one
sleep, for the delay of that attempt.
-/

namespace GreenticEvents
open Data Effects Prog

variable {provider : ProviderRegistration} {event : EventEnvelope}

/-- The loop ends at attempt `k`, counted from zero, if it gets that far. -/
def FinalAttempt (policy : RetryPolicy) (outcomes : ℕ → Except String Unit) (k : ℕ) : Prop :=
  outcomes k = .ok () ∨ (∃ err, outcomes k = .error err ∧ policy.isRetryable err = false) ∨
    k = policy.maxRetries.toNat

section History

variable (provider : ProviderRegistration) (event : EventEnvelope)
  (outcomes : ℕ → Except String Unit) (draws : ℕ → Rng)

def attemptEvent (k : ℕ) : Event busInterface := ⟨.publish provider.handle event, outcomes k⟩

/-- What comes after a failed attempt `k`: a draw, a sleep and the next attempt. -/
def retryEvents (k : ℕ) : BusHistory :=
  [⟨.threadRng, draws k⟩,
    ⟨.sleep (provider.retry.delayForAttempt (draws k) (k + 1)), ()⟩,
    attemptEvent provider event outcomes (k + 1)]

/-- Attempt `first` and `count` more. -/
def attemptsFrom (first count : ℕ) : BusHistory :=
  attemptEvent provider event outcomes first ::
    (List.range' first count).flatMap (retryEvents provider event outcomes draws)

theorem attemptsFrom_succ (first count : ℕ) :
    attemptsFrom provider event outcomes draws first (count + 1) =
      attemptEvent provider event outcomes first ::
        ⟨.threadRng, draws first⟩ ::
        ⟨.sleep (provider.retry.delayForAttempt (draws first) (first + 1)), ()⟩ ::
        attemptsFrom provider event outcomes draws (first + 1) count := rfl

end History

def callResult? : Event busInterface → Option (Except String Unit)
  | ⟨.publish _ _, result⟩ => some result
  | _ => none

def callResults (h : BusHistory) : List (Except String Unit) := h.filterMap callResult?

def busDraws (h : BusHistory) : List Rng := h.filterMap busDraw?

/-- The calls and draws of `h` were answered from the two sequences, from `first` on. -/
def AnsweredFrom (outcomes : ℕ → Except String Unit) (draws : ℕ → Rng) (first : ℕ)
    (h : BusHistory) : Prop :=
  Begins (callResults h) (fun i => outcomes (first + i)) ∧
    Begins (busDraws h) fun i => draws (first + i)

variable {outcomes : ℕ → Except String Unit} {draws : ℕ → Rng}

theorem shift_succ {α : Type} (f : ℕ → α) (first : ℕ) :
    (fun i => f (first + (i + 1))) = fun i => f (first + 1 + i) := by
  funext i
  congr 1
  omega

theorem answeredFrom_attempt {first : ℕ} {result : Except String Unit} {h : BusHistory} :
    AnsweredFrom outcomes draws first (⟨.publish provider.handle event, result⟩ :: h) ↔
      result = outcomes first ∧ Begins (callResults h) (fun i => outcomes (first + 1 + i)) ∧
        Begins (busDraws h) fun i => draws (first + i) := by
  rw [← shift_succ outcomes, ← and_assoc]
  exact and_congr_left' begins_cons

/-- The loop after an attempt was answered. -/
def afterAttempt (provider : ProviderRegistration) (event : EventEnvelope) (attempt left : ℕ) :
    Except String Unit → BusProg (Except String Unit)
  | .ok () => .ret (.ok ())
  | .error err =>
    if attempt = provider.retry.maxRetries.toNat ∨ ¬ provider.retry.isRetryable err then
      .ret (.error err)
    else
      .ask (I := busInterface) .threadRng fun rng =>
        .ask (I := busInterface) (.sleep (provider.retry.delayForAttempt rng (attempt + 1)))
          fun _ => retryLoop provider event (attempt + 1) left (some err)

theorem retryLoop_succ (attempt left : ℕ) (lastErr : Option String) :
    retryLoop provider event attempt (left + 1) lastErr =
      .ask (I := busInterface) (.publish provider.handle event)
        (afterAttempt provider event attempt left) := by
  rw [retryLoop, BusProg.publish, perform_bind]
  congr 1

variable {attempt left : ℕ}

theorem afterAttempt_final (h : FinalAttempt provider.retry outcomes attempt) :
    afterAttempt provider event attempt left (outcomes attempt) = .ret (outcomes attempt) := by
  rcases h with h | ⟨err, h, hrej⟩ | hlast
  · rw [h]
    rfl
  · rw [h, afterAttempt, if_pos (.inr (by simp [hrej]))]
  · cases ho : outcomes attempt with
    | ok u => rfl
    | error err => rw [afterAttempt, if_pos (.inl hlast)]

theorem afterAttempt_retried (event : EventEnvelope) (left : ℕ)
    (h : ¬ FinalAttempt provider.retry outcomes attempt) :
    ∃ err, outcomes attempt = .error err ∧
      afterAttempt provider event attempt left (outcomes attempt) =
        .ask (I := busInterface) .threadRng fun rng =>
          .ask (I := busInterface) (.sleep (provider.retry.delayForAttempt rng (attempt + 1)))
            fun _ => retryLoop provider event (attempt + 1) left (some err) := by
  obtain ⟨hok, hrej, hlast⟩ : outcomes attempt ≠ .ok () ∧
      (∀ err, outcomes attempt = .error err → provider.retry.isRetryable err = true) ∧
      attempt ≠ provider.retry.maxRetries.toNat := by
    simpa [FinalAttempt] using h
  cases ho : outcomes attempt with
  | ok u => exact absurd ho hok
  | error err =>
    refine ⟨err, rfl, ?_⟩
    rw [afterAttempt, if_neg]
    rintro (h | h)
    · exact hlast h
    · exact h (hrej err ho)

/-- A full run of the loop answered from two sequences: the attempt, and what is left of
the loop on its outcome. -/
theorem retryLoop_answered {lastErr : Option String} {h : BusHistory} {v : Except String Unit} :
    Runs (retryLoop provider event attempt (left + 1) lastErr) h (.ret v) ∧
        AnsweredFrom outcomes draws attempt h ↔
      ∃ h', h = attemptEvent provider event outcomes attempt :: h' ∧
        Runs (afterAttempt provider event attempt left (outcomes attempt)) h' (.ret v) ∧
        Begins (callResults h') (fun i => outcomes (attempt + 1 + i)) ∧
        Begins (busDraws h') fun i => draws (attempt + i) := by
  rw [retryLoop_succ, runs_ask_ret]
  constructor
  · rintro ⟨⟨result, h', rfl, hr⟩, hanswered⟩
    obtain ⟨rfl, hrest⟩ := answeredFrom_attempt.mp hanswered
    exact ⟨h', rfl, hr, hrest⟩
  · rintro ⟨h', rfl, hr, hrest⟩
    exact ⟨⟨_, h', rfl, hr⟩, answeredFrom_attempt.mpr ⟨rfl, hrest⟩⟩

/-- The draw and the sleep before the next attempt. -/
theorem retry_answered {lastErr : Option String} {h : BusHistory} {v : Except String Unit} :
    Runs (.ask (I := busInterface) .threadRng fun rng =>
          .ask (I := busInterface) (.sleep (provider.retry.delayForAttempt rng (attempt + 1)))
            fun _ => retryLoop provider event (attempt + 1) left lastErr) h (.ret v) ∧
        Begins (callResults h) (fun i => outcomes (attempt + 1 + i)) ∧
        Begins (busDraws h) (fun i => draws (attempt + i)) ↔
      ∃ h', h = ⟨.threadRng, draws attempt⟩ ::
          ⟨.sleep (provider.retry.delayForAttempt (draws attempt) (attempt + 1)), ()⟩ :: h' ∧
        Runs (retryLoop provider event (attempt + 1) left lastErr) h' (.ret v) ∧
        AnsweredFrom outcomes draws (attempt + 1) h' := by
  rw [runs_ask_ret]
  constructor
  · rintro ⟨⟨rng, h₁, rfl, hr⟩, hresults, hdraws⟩
    obtain ⟨_, h₂, rfl, hloop⟩ := runs_ask_ret.mp hr
    obtain ⟨rfl, hrest⟩ := begins_cons.mp hdraws
    rw [shift_succ draws] at hrest
    exact ⟨h₂, rfl, hloop, hresults, hrest⟩
  · rintro ⟨h', rfl, hr, hresults, hdraws⟩
    rw [← shift_succ draws attempt] at hdraws
    exact ⟨⟨_, _, rfl, runs_ask_ret.mpr ⟨_, h', rfl, hr⟩⟩, hresults,
      begins_cons.mpr ⟨rfl, hdraws⟩⟩

variable (event outcomes draws) in
/-- From attempt `attempt` on the loop goes to the first final attempt, and every run
with the given answers is the same. -/
theorem retryLoop_exact (lastErr : Option String)
    (hsum : attempt + left = provider.retry.maxRetries.toNat + 1) (hleft : 0 < left) :
    ∃ count, IsLeast {k | attempt ≤ k ∧ FinalAttempt provider.retry outcomes k} (attempt + count) ∧
      ∀ h v, Runs (retryLoop provider event attempt left lastErr) h (.ret v) ∧
          AnsweredFrom outcomes draws attempt h ↔
        h = attemptsFrom provider event outcomes draws attempt count ∧
          v = outcomes (attempt + count) := by
  -- on the attempts left: the loop ends at this attempt or goes on as from the next one
  induction left generalizing attempt lastErr with
  | zero => omega
  | succ left ih =>
    by_cases hfinal : FinalAttempt provider.retry outcomes attempt
    · refine ⟨0, ⟨⟨le_rfl, hfinal⟩, fun k hk => hk.1⟩, fun h v => ?_⟩
      rw [retryLoop_answered, afterAttempt_final hfinal]
      constructor
      · rintro ⟨h', rfl, hr, -⟩
        obtain ⟨rfl, hv⟩ := runs_ret.mp hr
        cases hv
        exact ⟨rfl, rfl⟩
      · rintro ⟨rfl, rfl⟩
        exact ⟨[], rfl, .refl _, begins_nil _, begins_nil _⟩
    · have hmore : 0 < left := by
        by_contra hnone
        have hlast : attempt = provider.retry.maxRetries.toNat := by omega
        exact hfinal (.inr (.inr hlast))
      have hsum' : attempt + 1 + left = provider.retry.maxRetries.toNat + 1 := by omega
      obtain ⟨err, -, hafter⟩ := afterAttempt_retried event left hfinal
      obtain ⟨count, hleast, hruns⟩ := ih (some err) hsum' hmore
      refine ⟨count + 1, ⟨⟨by omega, ?_⟩, fun k hk => ?_⟩, fun h v => ?_⟩
      · have := hleast.1.2
        rwa [Nat.add_right_comm] at this
      · have hne : attempt ≠ k := fun he => hfinal (he ▸ hk.2)
        have := hleast.2 ⟨show attempt + 1 ≤ k by have := hk.1; omega, hk.2⟩
        omega
      · rw [retryLoop_answered, hafter, attemptsFrom_succ]
        constructor
        · rintro ⟨h₁, rfl, hretry⟩
          obtain ⟨h₂, rfl, hloop⟩ := retry_answered.mp hretry
          obtain ⟨rfl, rfl⟩ := (hruns h₂ v).mp hloop
          exact ⟨rfl, congrArg outcomes (by omega)⟩
        · rintro ⟨rfl, rfl⟩
          have hv : outcomes (attempt + (count + 1)) = outcomes (attempt + 1 + count) :=
            congrArg outcomes (by omega)
          exact ⟨_, rfl, retry_answered.mpr ⟨_, rfl, (hruns _ _).mpr ⟨rfl, hv⟩⟩⟩

/-- What the loop could run into if its arithmetic or its fallback were reached. -/
inductive RetryFault where
  | overflow
  | unknownError
  deriving DecidableEq

def checkedAdd (a b : UInt32) : Option UInt32 :=
  if a.toNat + b.toNat < 2 ^ 32 then some (a + b) else none

/-- The loop on `u32` attempts, where an overflow of `attempt + 1` and the error after the
loop are faults. -/
def retryLoopChecked (provider : ProviderRegistration) (event : EventEnvelope) :
    (left : ℕ) → (attempt : UInt32) → Option String →
      BusProg (Except RetryFault (Except String Unit))
  | 0, _, lastErr => return match lastErr with
    | some err => .ok (.error err)
    | none => .error .unknownError
  | left + 1, attempt, _ => do
    match ← BusProg.publish provider.handle event with
    | .ok () => return .ok (.ok ())
    | .error err =>
      if attempt = provider.retry.maxRetries ∨ ¬ provider.retry.isRetryable err then
        return .ok (.error err)
      else match checkedAdd attempt 1 with
        | none => return .error .overflow
        | some next => do
          let rng ← BusProg.threadRng
          BusProg.sleep (provider.retry.delayForAttempt rng next.toNat)
          retryLoopChecked provider event left next (some err)

def publishWithRetryChecked (provider : ProviderRegistration) (event : EventEnvelope) :
    BusProg (Except RetryFault (Except String Unit)) :=
  retryLoopChecked provider event (provider.retry.maxRetries.toNat + 1) 0 none

theorem checkedAdd_one {attempt : UInt32} {m : UInt32} (h : attempt.toNat < m.toNat) :
    ∃ next, checkedAdd attempt 1 = some next ∧ next.toNat = attempt.toNat + 1 := by
  have hfits : attempt.toNat + (1 : UInt32).toNat < 2 ^ 32 := by
    have := m.toNat_lt
    have hone : (1 : UInt32).toNat = 1 := rfl
    omega
  refine ⟨attempt + 1, by rw [checkedAdd, if_pos hfits], ?_⟩
  rw [UInt32.toNat_add, Nat.mod_eq_of_lt hfits]
  rfl

/-- Before its last attempt the loop has room for one more, and its last attempt returns. -/
theorem retryLoopChecked_eq {attempt : UInt32} (lastErr : Option String)
    (hsum : attempt.toNat + left = provider.retry.maxRetries.toNat + 1) (hleft : 0 < left) :
    retryLoopChecked provider event left attempt lastErr =
      retryLoop provider event attempt.toNat left lastErr >>= fun v => .ret (.ok v) := by
  induction left generalizing attempt lastErr with
  | zero => omega
  | succ left ih =>
    rw [retryLoop_succ, ask_bind, retryLoopChecked, BusProg.publish, perform_bind]
    congr 1
    funext result
    cases result with
    | ok u => rfl
    | error err =>
      dsimp only [afterAttempt]
      -- the addition is reached only below the budget, which is a `u32`
      by_cases hlast : attempt = provider.retry.maxRetries
      · rw [if_pos (.inl hlast), if_pos (.inl (congrArg UInt32.toNat hlast))]
        rfl
      · have hne : attempt.toNat ≠ provider.retry.maxRetries.toNat :=
          fun h => hlast (UInt32.toNat_inj.mp h)
        by_cases hrej : ¬ provider.retry.isRetryable err
        · rw [if_pos (.inr hrej), if_pos (.inr hrej)]
          rfl
        · have hlt : attempt.toNat < provider.retry.maxRetries.toNat := by omega
          obtain ⟨next, hnext, hval⟩ := checkedAdd_one hlt
          rw [if_neg (not_or.mpr ⟨hlast, hrej⟩), if_neg (not_or.mpr ⟨hne, hrej⟩), hnext]
          have hrest := ih (some err) (show next.toNat + left = _ by omega) (by omega)
          dsimp only [BusProg.threadRng, BusProg.sleep, perform_bind, ask_bind]
          rw [hrest, hval]
          rfl

/-- For every sequence of outcomes there is a first attempt that succeeds, fails with an
error that is not retried, or is the last one allowed.  The loop makes the calls up to it
with the sleeps between them, and nothing else, returns its outcome, and meets neither an
overflow of `attempt + 1` nor the error for a loop without attempts. -/
theorem publishWithRetry_exact (provider : ProviderRegistration) (event : EventEnvelope)
    (outcomes : ℕ → Except String Unit) (draws : ℕ → Rng) :
    (∃ last, IsLeast {k | FinalAttempt provider.retry outcomes k} last ∧
      ∀ h v, Runs (publishWithRetry provider event) h (.ret v) ∧
          AnsweredFrom outcomes draws 0 h ↔
        h = attemptsFrom provider event outcomes draws 0 last ∧ v = outcomes last) ∧
    publishWithRetryChecked provider event =
      publishWithRetry provider event >>= fun v => .ret (.ok v) := by
  constructor
  · obtain ⟨last, hleast, hruns⟩ :=
      retryLoop_exact event outcomes draws none (Nat.zero_add _) (Nat.succ_pos _)
    rw [Nat.zero_add] at hleast hruns
    exact ⟨last, by simpa using hleast, hruns⟩
  · exact retryLoopChecked_eq none (Nat.zero_add _) (Nat.succ_pos _)

/-- The second attempt is followed by a third. -/
def RetriedTwice (policy : RetryPolicy) (rejects : String → Bool) (outcomes : ℕ → Option String) :
    Prop :=
  2 ≤ policy.maxRetries.toNat ∧ ∀ k < 2, ∃ err, outcomes k = some err ∧ rejects err = false

theorem fixed_delay_iff {policy : RetryPolicy} (hfixed : policy.strategy = .fixed) (rng : Rng)
    {attempt : ℕ} (hattempt : 1 ≤ attempt) :
    policy.delayForAttempt rng attempt = policy.baseDelay.min policy.maxDelay ↔
      attempt = 1 ∨ policy.baseDelay.nanos = 0 ∨
        policy.maxDelay.nanos ≤ policy.baseDelay.nanos := by
  have hnanos : policy.delayForAttempt rng attempt = policy.baseDelay.min policy.maxDelay ↔
      min policy.maxDelay.nanos (policy.baseDelay.nanos * attempt) =
        min policy.baseDelay.nanos policy.maxDelay.nanos := by
    have hdelay := RetryPolicy.nanos_fixed rng attempt hfixed
    rw [max_eq_left hattempt] at hdelay
    rw [← nanos_min, ← hdelay]
    exact ⟨congrArg Duration.nanos, eq_of_nanos⟩
  rw [hnanos]
  -- a second multiple of the base is either cut by the cap or too long
  rcases Nat.lt_or_ge 1 attempt with hlt | hle
  · have htwo := Nat.mul_le_mul_left policy.baseDelay.nanos hlt
    constructor
    · intro h
      omega
    · rintro (h | h | h)
      · omega
      · simp [h]
      · omega
  · obtain rfl : attempt = 1 := by omega
    simp [min_comm]

/-- Only the first delay of a fixed strategy is sure to be its base. -/
theorem fixed_delays_iff {policy : RetryPolicy} (hfixed : policy.strategy = .fixed)
    {rejects : String → Bool} {run : RetryAttempts}
    (h : RetryLoop rejects policy.delayForAttempt 0 (policy.maxRetries.toNat + 1) run)
    {outcomes : ℕ → Option String} (ho : Begins run.outcomes outcomes) :
    (∀ d ∈ run.delays, d = policy.baseDelay.min policy.maxDelay) ↔
      policy.baseDelay.nanos = 0 ∨ policy.maxDelay.nanos ≤ policy.baseDelay.nanos ∨
        ¬ RetriedTwice policy rejects outcomes := by
  have hlen := h.delays_length
  constructor
  · intro hall
    rw [← or_assoc, or_iff_not_imp_right, not_not]
    rintro ⟨hmax, herrs⟩
    have hmore : 1 + 1 < run.outcomes.length :=
      h.continues ho (by omega) fun m hm => herrs m (by omega)
    have hsecond : 1 < run.delays.length := by omega
    obtain ⟨rng, hd⟩ := h.delay_eq (List.getElem?_eq_getElem hsecond)
    have heq := hall _ (List.getElem_mem hsecond)
    rw [hd, fixed_delay_iff hfixed rng (by omega)] at heq
    exact heq.resolve_left (by omega)
  · intro hcond d hd
    obtain ⟨n, hn, rfl⟩ := List.mem_iff_getElem.mp hd
    obtain ⟨rng, hd⟩ := h.delay_eq (List.getElem?_eq_getElem hn)
    rw [hd, fixed_delay_iff hfixed rng (by omega)]
    rw [← or_assoc] at hcond
    refine hcond.elim .inr fun hfew => .inl ?_
    -- a run with a second delay has been retried twice
    by_contra hne
    apply hfew
    have hle := h.outcomes_length_le
    refine ⟨by omega, fun k hk => ?_⟩
    obtain ⟨err, hget, hacc⟩ := h.error_accepted (show k + 1 < run.outcomes.length by omega)
    exact ⟨err, (ho k _ hget).symm, hacc⟩

/-- Under the fixed strategy all sleeps of a run are the capped base exactly when the base is
zero or reaches the cap, or the run does not come to a second retry. -/
theorem fixed_sleeps_iff {policy : RetryPolicy} (hfixed : policy.strategy = .fixed)
    (outcomes : ℕ → Option String) :
    (∀ (provider : ProviderRegistration) (event : EventEnvelope) (h : BusHistory)
        (v : Except String Unit), provider.retry = policy →
      Runs (publishWithRetry provider event) h (.ret v) →
      Begins (publishAttempts h).outcomes outcomes →
      ((∀ d ∈ (publishAttempts h).delays, d = policy.baseDelay.min policy.maxDelay) ↔
        policy.baseDelay.nanos = 0 ∨ policy.maxDelay.nanos ≤ policy.baseDelay.nanos ∨
          ¬ RetriedTwice policy (fun err => !policy.isRetryable err) outcomes)) ∧
    ∀ (worker : SubscriptionsWorker) (spec : EventProviderSpec) (record : ProviderInstallRecord)
        (h : InstallHistory) (v : Except String Unit), worker.retry = policy →
      Runs (syncInstall worker spec record) h (.ret v) →
      Begins (syncAttempts h).outcomes outcomes →
      ((∀ d ∈ (syncAttempts h).delays, d = policy.baseDelay.min policy.maxDelay) ↔
        Unreadable record h ∨ policy.baseDelay.nanos = 0 ∨
          policy.maxDelay.nanos ≤ policy.baseDelay.nanos ∨
          ¬ RetriedTwice policy (fun _ => false) outcomes) := by
  constructor
  · rintro provider event h v rfl hr ho
    exact fixed_delays_iff hfixed (publishWithRetry_attempts hr) ho
  · rintro worker spec record h v rfl hr ho
    rcases syncInstall_attempts hr with ⟨hunread, hnone⟩ | ⟨hread, hloop⟩
    · -- without an attempt there is nothing to wait for
      refine iff_of_true ?_ (.inl hunread)
      rw [hnone]
      exact fun d hd => absurd hd List.not_mem_nil
    · rw [or_iff_right hread]
      exact fixed_delays_iff hfixed hloop ho

def tenMillisPolicy : RetryPolicy :=
  { RetryPolicy.default with maxRetries := 2, strategy := .fixed, baseDelay := .fromMillis 10 }

def tenMillisProvider : ProviderRegistration := { timeoutProvider with retry := tenMillisPolicy }

def tenMillisWorker : SubscriptionsWorker := ⟨tenMillisPolicy, 3⟩

def failsTwice : ℕ → Option String
  | 0 | 1 => some "down"
  | _ => none

def tenMillisSleep (attempt : ℕ) : Duration := tenMillisPolicy.delayForAttempt zeroRng attempt

def retriedPublish : BusHistory :=
  [⟨.publish 0 keyedEvent, .error "down"⟩, ⟨.threadRng, zeroRng⟩, ⟨.sleep (tenMillisSleep 1), ()⟩,
    ⟨.publish 0 keyedEvent, .error "down"⟩, ⟨.threadRng, zeroRng⟩, ⟨.sleep (tenMillisSleep 2), ()⟩,
    ⟨.publish 0 keyedEvent, .ok ()⟩]

def retriedSync : InstallHistory :=
  let install : ResolvedInstall := ⟨githubInstall, .empty, .empty⟩
  [⟨.syncSubscriptions githubSpec install, .error "down"⟩, ⟨.threadRng, zeroRng⟩,
    ⟨.sleep (tenMillisSleep 1), ()⟩, ⟨.syncSubscriptions githubSpec install, .error "down"⟩,
    ⟨.threadRng, zeroRng⟩, ⟨.sleep (tenMillisSleep 2), ()⟩,
    ⟨.syncSubscriptions githubSpec install, .ok (.bool true)⟩,
    ⟨.now, "t1"⟩, ⟨.updateInstall (githubInstall.synced (.bool true) "t1"), .ok ()⟩]

theorem retriedPublish_runs :
    Runs (publishWithRetry tenMillisProvider keyedEvent) retriedPublish (.ret (.ok ())) :=
  .step rfl (.step rfl (.step rfl (.step rfl (.step rfl (.step rfl (.step rfl (.refl _)))))))

theorem retriedSync_runs :
    Runs (syncInstall tenMillisWorker githubSpec githubInstall) retriedSync (.ret (.ok ())) :=
  .step rfl (.step rfl (.step rfl (.step rfl (.step rfl (.step rfl (.step rfl (.step rfl
    (.step rfl (.refl _)))))))))

theorem failsTwice_begins : Begins [some "down", some "down", none] failsTwice :=
  begins_cons.mpr ⟨rfl, begins_cons.mpr ⟨rfl, begins_cons.mpr ⟨rfl, begins_nil _⟩⟩⟩

theorem fixed_sleeps_iff_tenMillis :
    ¬ ∀ d ∈ (publishAttempts retriedPublish).delays, d = .fromMillis 10 := by
  have hiff := (@fixed_sleeps_iff tenMillisPolicy rfl failsTwice).1 tenMillisProvider
    keyedEvent retriedPublish (.ok ()) rfl retriedPublish_runs failsTwice_begins
  have hretried : RetriedTwice tenMillisPolicy (fun err => !tenMillisPolicy.isRetryable err)
      failsTwice := by
    refine ⟨le_rfl, fun k hk => ⟨"down", ?_, rfl⟩⟩
    obtain rfl | rfl : k = 0 ∨ k = 1 := by omega
    · rfl
    · rfl
  intro hall
  rcases hiff.mp hall with hzero | hcap | hfew
  · exact absurd hzero (by decide)
  · exact absurd hcap (by decide)
  · exact hfew hretried

/-- Both loops sleep 10 ms and then 20 ms. -/
theorem fixed_sleeps_grow :
    (¬ ∀ (provider : ProviderRegistration) (event : EventEnvelope) (h : BusHistory)
        (v : Except String Unit), provider.retry.strategy = .fixed →
      Runs (publishWithRetry provider event) h (.ret v) →
      ∀ d ∈ (publishAttempts h).delays,
        d = provider.retry.baseDelay.min provider.retry.maxDelay) ∧
    ¬ ∀ (worker : SubscriptionsWorker) (spec : EventProviderSpec) (record : ProviderInstallRecord)
        (h : InstallHistory) (v : Except String Unit), worker.retry.strategy = .fixed →
      Runs (syncInstall worker spec record) h (.ret v) →
      ∀ d ∈ (syncAttempts h).delays,
        d = worker.retry.baseDelay.min worker.retry.maxDelay := by
  have hgrows : tenMillisSleep 2 ≠ tenMillisPolicy.baseDelay.min tenMillisPolicy.maxDelay := by
    decide
  constructor
  · intro hall
    exact hgrows (hall tenMillisProvider keyedEvent _ _ rfl retriedPublish_runs _
      (List.mem_cons_of_mem _ List.mem_cons_self))
  · intro hall
    exact hgrows (hall tenMillisWorker githubSpec githubInstall _ _ rfl retriedSync_runs _
      (List.mem_cons_of_mem _ List.mem_cons_self))

end GreenticEvents
