import GreenticEvents.Concurrency
import GreenticEvents.Sync
import GreenticEvents.Effects.Retry

/-!
# The two retry loops

`publish_with_retry` and `sync_install` retry under the same policy type.  Both are
retry loops over its delays; they differ in the errors that they reject.
-/

namespace GreenticEvents
open Data Effects Prog

def error? {α : Type} : Except String α → Option String
  | .ok _ => none
  | .error err => some err

abbrev RetryAttempts := Attempts String Rng Duration

def publishOutcome? : Event busInterface → Option (Option String)
  | ⟨.publish _ _, result⟩ => some (error? result)
  | _ => none

def busDraw? : Event busInterface → Option Rng
  | ⟨.threadRng, rng⟩ => some rng
  | _ => none

def busSleep? : Event busInterface → Option Duration
  | ⟨.sleep d, _⟩ => some d
  | _ => none

/-- The provider calls, draws and sleeps of a publish loop. -/
def publishAttempts (h : BusHistory) : RetryAttempts :=
  ⟨h.filterMap publishOutcome?, h.filterMap busDraw?, h.filterMap busSleep?⟩

variable {provider : ProviderRegistration} {event : EventEnvelope}

theorem retryLoop_attempts {attempt left : ℕ} {lastErr : Option String} {h : BusHistory}
    {v : Except String Unit} (hsum : attempt + left = provider.retry.maxRetries.toNat + 1)
    (hleft : 0 < left) (hr : Runs (retryLoop provider event attempt left lastErr) h (.ret v)) :
    RetryLoop (fun err => !provider.retry.isRetryable err) provider.retry.delayForAttempt attempt
      left (publishAttempts h) := by
  induction left generalizing attempt lastErr h with
  | zero => omega
  | succ left ih =>
    rw [retryLoop, BusProg.publish, perform_bind, runs_ask_ret] at hr
    obtain ⟨result, h, rfl, hr⟩ := hr
    cases result with
    | ok u =>
      obtain ⟨rfl, _⟩ := runs_ret.mp hr
      exact .succeeded
    | error err =>
      dsimp only at hr
      split_ifs at hr with hstop
      · obtain ⟨rfl, _⟩ := runs_ret.mp hr
        apply RetryLoop.stopped
        rcases hstop with hlast | hrej
        · exact .inl (by omega)
        · exact .inr (by simpa using hrej)
      · rw [not_or, not_not] at hstop
        rw [BusProg.threadRng, perform_bind, runs_ask_ret] at hr
        obtain ⟨rng, h, rfl, hr⟩ := hr
        rw [BusProg.sleep, perform_bind, runs_ask_ret] at hr
        obtain ⟨_, h, rfl, hr⟩ := hr
        -- a draw and a sleep stand between this attempt and the rest of the loop
        have hmore : left ≠ 0 := by omega
        exact .retried hmore (by simpa using hstop.2)
          (ih (by omega) (Nat.pos_of_ne_zero hmore) hr)

theorem publishWithRetry_attempts {h : BusHistory} {v : Except String Unit}
    (hr : Runs (publishWithRetry provider event) h (.ret v)) :
    RetryLoop (fun err => !provider.retry.isRetryable err) provider.retry.delayForAttempt 0
      (provider.retry.maxRetries.toNat + 1) (publishAttempts h) :=
  retryLoop_attempts (Nat.zero_add _) (Nat.succ_pos _) hr

def syncOutcome? : Event installInterface → Option (Option String)
  | ⟨.syncSubscriptions _ _, result⟩ => some (error? result)
  | _ => none

def installDraw? : Event installInterface → Option Rng
  | ⟨.threadRng, rng⟩ => some rng
  | _ => none

def installSleep? : Event installInterface → Option Duration
  | ⟨.sleep d, _⟩ => some d
  | _ => none

/-- The driver calls, draws and sleeps of a `sync_install`. -/
def syncAttempts (h : InstallHistory) : RetryAttempts :=
  ⟨h.filterMap syncOutcome?, h.filterMap installDraw?, h.filterMap installSleep?⟩

variable {worker : SubscriptionsWorker} {spec : EventProviderSpec} {record : ProviderInstallRecord}

/-- What an attempt of a loop that has returned was: a success, the last failure, or a failure
with another attempt after it. -/
theorem syncLoop_step {install : ResolvedInstall} {attempt left : ℕ} {lastErr : Option String}
    {h : InstallHistory} {v : Except String Unit}
    (hr : Runs (syncLoop worker spec record install attempt (left + 1) lastErr) h (.ret v)) :
    (∃ state now, h = [⟨.syncSubscriptions spec install, .ok state⟩, ⟨.now, now⟩,
      ⟨.updateInstall (install.record.synced state now), v⟩]) ∨
    (∃ err answer, attempt = worker.retry.maxRetries.toNat ∧ v = .error err ∧
      h = [⟨.syncSubscriptions spec install, .error err⟩,
        ⟨.updateInstall (record.failed worker.maxFailures), answer⟩]) ∨
    ∃ err rng h', attempt ≠ worker.retry.maxRetries.toNat ∧
      h = ⟨.syncSubscriptions spec install, .error err⟩ :: ⟨.threadRng, rng⟩ ::
        ⟨.sleep (worker.retry.delayForAttempt rng (attempt + 1)), ()⟩ :: h' ∧
      Runs (syncLoop worker spec record install (attempt + 1) left (some err)) h' (.ret v) := by
  rw [syncLoop, InstallProg.syncSubscriptions, perform_bind, runs_ask_ret] at hr
  obtain ⟨result, h, rfl, hr⟩ := hr
  cases result with
  | ok state =>
    dsimp only at hr
    rw [InstallProg.now, perform_bind, runs_ask_ret] at hr
    obtain ⟨now, h, rfl, hr⟩ := hr
    rw [InstallProg.updateInstall, perform, runs_ask_ret] at hr
    obtain ⟨answer, h, rfl, hr⟩ := hr
    obtain ⟨rfl, hret⟩ := runs_ret.mp hr
    cases hret
    exact .inl ⟨state, now, rfl⟩
  | error err =>
    dsimp only at hr
    split_ifs at hr with hlast
    · rw [reportFailure, InstallProg.updateInstall, perform_bind, runs_ask_ret] at hr
      obtain ⟨answer, h, rfl, hr⟩ := hr
      obtain ⟨rfl, hret⟩ := runs_ret.mp hr
      cases hret
      exact .inr (.inl ⟨err, answer, hlast, rfl, rfl⟩)
    · rw [InstallProg.threadRng, perform_bind, runs_ask_ret] at hr
      obtain ⟨rng, h, rfl, hr⟩ := hr
      rw [InstallProg.sleep, perform_bind, runs_ask_ret] at hr
      obtain ⟨_, h, rfl, hr⟩ := hr
      exact .inr (.inr ⟨err, rng, h, hlast, rfl, hr⟩)

theorem syncLoop_attempts {install : ResolvedInstall} {attempt left : ℕ} {lastErr : Option String}
    {h : InstallHistory} {v : Except String Unit}
    (hsum : attempt + left = worker.retry.maxRetries.toNat + 1) (hleft : 0 < left)
    (hr : Runs (syncLoop worker spec record install attempt left lastErr) h (.ret v)) :
    RetryLoop (fun _ => false) worker.retry.delayForAttempt attempt left (syncAttempts h) := by
  induction left generalizing attempt lastErr h with
  | zero => omega
  | succ left ih =>
    -- only the number of attempts is asked here, never the error
    rcases syncLoop_step hr with ⟨state, now, rfl⟩ | ⟨err, answer, hlast, rfl, rfl⟩ |
      ⟨err, rng, h, hlast, rfl, hagain⟩
    · exact .succeeded
    · exact .stopped (.inl (by omega))
    · have hmore : left ≠ 0 := by omega
      exact .retried hmore rfl (ih (by omega) (Nat.pos_of_ne_zero hmore) hagain)

theorem syncLoop_onlyAsks (install : ResolvedInstall) (attempt left : ℕ) (lastErr : Option String) :
    (syncLoop worker spec record install attempt left lastErr).OnlyAsks
      fun o : InstallOp => ¬ o.isRead := by
  have hreport (err : String) :
      (reportFailure worker record err).OnlyAsks fun o : InstallOp => ¬ o.isRead :=
    ⟨id, fun _ => trivial⟩
  induction left generalizing attempt lastErr with
  | zero => exact hreport _
  | succ left ih =>
    refine ⟨id, fun answer => ?_⟩
    cases answer with
    | ok state => exact ⟨id, fun now => ⟨id, fun _ => trivial⟩⟩
    | error err =>
      show Prog.OnlyAsks _ (if _ then _ else _)
      split_ifs
      · exact hreport err
      · exact ⟨id, fun rng => ⟨id, fun _ => ih _ _⟩⟩

theorem no_error_read {order : List (RefKind × String)} {h : InstallHistory}
    (hreads : List.Forall₂ ReadsValue order h) (kind : RefKind) (reference err : String) :
    ⟨.read kind reference, .error err⟩ ∉ h := by
  induction hreads with
  | nil => exact List.not_mem_nil
  | cons hread _ ih =>
    obtain ⟨value, rfl⟩ := hread
    intro hmem
    rcases List.mem_cons.mp hmem with he | hmem
    · simp at he
    · exact ih hmem

theorem resolve_ok {h : InstallHistory} {install : ResolvedInstall}
    (hr : Runs (resolve record) h (.ret (.ok install))) (kind : RefKind) (reference err : String) :
    ⟨.read kind reference, .error err⟩ ∉ h :=
  no_error_read (resolve_reads hr).1 kind reference err

/-- Reads are no attempts. -/
theorem syncAttempts_reads {h : InstallHistory} (hreads : ∀ e ∈ h, e.op.isRead)
    (h' : InstallHistory) : syncAttempts (h ++ h') = syncAttempts h' := by
  induction h with
  | nil => rfl
  | cons e h ih =>
    rw [← ih fun e he => hreads e (List.mem_cons_of_mem _ he)]
    have he : e.op.isRead := hreads e List.mem_cons_self
    obtain ⟨o, a⟩ := e
    cases o with
    | read kind reference => rfl
    | _ => exact absurd he id

/-- An install whose references can be read runs the loop, and another one makes no attempt. -/
theorem syncInstall_attempts {h : InstallHistory} {v : Except String Unit}
    (hr : Runs (syncInstall worker spec record) h (.ret v)) :
    (Unreadable record h ∧ syncAttempts h = ⟨[], [], []⟩) ∨
    ¬ Unreadable record h ∧ RetryLoop (fun _ => false) worker.retry.delayForAttempt 0
      (worker.retry.maxRetries.toNat + 1) (syncAttempts h) := by
  obtain ⟨resolved, h₁, h₂, rfl, hp, hr⟩ := runs_bind_ret hr
  rw [syncAttempts_reads fun e he => (resolve_onlyAsks record).of_mem hp he]
  cases resolved with
  | error err =>
    obtain ⟨rfl, _⟩ := runs_ret.mp hr
    rw [List.append_nil]
    exact .inl ⟨resolve_error hp, rfl⟩
  | ok install =>
    refine .inr ⟨?_, syncLoop_attempts (Nat.zero_add _) (Nat.succ_pos _) hr⟩
    rintro ⟨kind, ref, _, err, hmem⟩
    rcases List.mem_append.mp hmem with hmem | hmem
    · exact resolve_ok hp kind ref.2 err hmem
    · exact (syncLoop_onlyAsks install 0 _ none).of_mem hr hmem trivial

/-- As many calls, the same sleeps, and no retry of an error that the policy rejects. -/
structure SameRetries (policy : RetryPolicy) (publish sync : RetryAttempts) : Prop where
  calls : sync.outcomes.length = publish.outcomes.length
  sleeps : sync.delays = publish.delays
  retryable : ∀ run, run = publish ∨ run = sync → ∀ n err, n + 1 < run.outcomes.length →
    run.outcomes[n]? = some (some err) → policy.isRetryable err = true

/-- Of the outcomes before the last attempt allowed, none is a rejected error unless a
success comes before it. -/
def NeverRejected (policy : RetryPolicy) (outcomes : ℕ → Option String) : Prop :=
  ∀ n err, n < policy.maxRetries.toNat → (∀ m ≤ n, outcomes m ≠ none) → outcomes n = some err →
    policy.isRetryable err = true

/-- On one sequence of outcomes and draws the two loops do the same exactly when the
install's references can be read and the policy rejects no error that has an attempt
after it. -/
theorem sameRetries_iff {h : BusHistory} {v : Except String Unit} {h' : InstallHistory}
    {v' : Except String Unit} (hpolicy : worker.retry = provider.retry)
    (hp : Runs (publishWithRetry provider event) h (.ret v))
    (hs : Runs (syncInstall worker spec record) h' (.ret v'))
    {outcomes : ℕ → Option String} {draws : ℕ → Rng}
    (ho : Begins (publishAttempts h).outcomes outcomes)
    (ho' : Begins (syncAttempts h').outcomes outcomes)
    (hd : Begins (publishAttempts h).draws draws) (hd' : Begins (syncAttempts h').draws draws) :
    SameRetries provider.retry (publishAttempts h) (syncAttempts h') ↔
      ¬ Unreadable record h' ∧ NeverRejected provider.retry outcomes := by
  have hpublish := publishWithRetry_attempts hp
  rcases syncInstall_attempts hs with ⟨hunread, hnone⟩ | ⟨hread, hsync⟩
  · refine iff_of_false (fun hsame => ?_) fun hcond => hcond.1 hunread
    have hlen := hsame.calls
    -- a publish always makes a call, an unresolved sync none
    rw [hnone] at hlen
    exact hpublish.outcomes_ne_nil (List.length_eq_zero_iff.mp hlen.symm)
  · rw [hpolicy] at hsync
    constructor
    · intro hsame
      refine ⟨hread, fun n err hn hfailed he => ?_⟩
      have hcontinues := hsync.continues ho' (Nat.succ_lt_succ hn) fun m hm => by
        obtain ⟨e, he⟩ := Option.ne_none_iff_exists'.mp (hfailed m hm)
        exact ⟨e, he, rfl⟩
      obtain ⟨err', hget, _⟩ := hsync.error_accepted hcontinues
      cases (ho' n _ hget).trans he
      exact hsame.retryable _ (.inr rfl) n err hcontinues hget
    · rintro ⟨-, hnever⟩
      -- the sync rejects nothing, the publish nothing that is met before its last attempt
      have hrejections : RetryLoop.SameRejections (fun err => !provider.retry.isRetryable err)
          (fun _ => false) outcomes (provider.retry.maxRetries.toNat + 1) := by
        intro n err hn hfailed he
        show (!provider.retry.isRetryable err) = false
        rw [hnever n err (Nat.lt_of_succ_lt_succ hn) hfailed he]
        rfl
      rw [← hpublish.agree hsync ho ho' hd hd' hrejections]
      refine ⟨rfl, rfl, fun run hrun n err hn hget => ?_⟩
      obtain rfl := hrun.elim id id
      obtain ⟨err', hget', hacc⟩ := hpublish.error_accepted hn
      cases hget.symm.trans hget'
      simpa using hacc

def timeoutPolicy : RetryPolicy :=
  { RetryPolicy.default with maxRetries := 1, strategy := .fixed, retryableErrors := ["timeout"] }

def timeoutProvider : ProviderRegistration where
  descriptor := ⟨"broker", .broker, .nats, .atLeastOnce, .none, none, []⟩
  topics := ["*"]
  dlqTopic := none
  retry := timeoutPolicy
  handle := 0

def timeoutWorker : SubscriptionsWorker := ⟨timeoutPolicy, 3⟩

def failsOnce (err : String) : ℕ → Option String
  | 0 => some err
  | _ => none

def firstSleep : Duration := timeoutPolicy.delayForAttempt zeroRng 1

/-- The publish loop tries again after a timeout. -/
def timedOutPublish : BusHistory :=
  [⟨.publish 0 keyedEvent, .error "timeout"⟩, ⟨.threadRng, zeroRng⟩, ⟨.sleep firstSleep, ()⟩,
    ⟨.publish 0 keyedEvent, .ok ()⟩]

/-- The publish loop gives up after any other error. -/
def deniedPublish : BusHistory := [⟨.publish 0 keyedEvent, .error "denied"⟩]

/-- The sync loop tries again after any error. -/
def failedOnceSync (err : String) : InstallHistory :=
  let install : ResolvedInstall := ⟨githubInstall, .empty, .empty⟩
  [⟨.syncSubscriptions githubSpec install, .error err⟩, ⟨.threadRng, zeroRng⟩,
    ⟨.sleep firstSleep, ()⟩, ⟨.syncSubscriptions githubSpec install, .ok (.bool true)⟩,
    ⟨.now, "t1"⟩, ⟨.updateInstall (githubInstall.synced (.bool true) "t1"), .ok ()⟩]

theorem timedOutPublish_runs :
    Runs (publishWithRetry timeoutProvider keyedEvent) timedOutPublish (.ret (.ok ())) :=
  .step rfl (.step rfl (.step rfl (.step rfl (.refl _))))

theorem deniedPublish_runs :
    Runs (publishWithRetry timeoutProvider keyedEvent) deniedPublish (.ret (.error "denied")) :=
  .step rfl (.refl _)

theorem failedOnceSync_runs (err : String) :
    Runs (syncInstall timeoutWorker githubSpec githubInstall) (failedOnceSync err)
      (.ret (.ok ())) :=
  .step rfl (.step rfl (.step rfl (.step rfl (.step rfl (.step rfl (.refl _))))))

theorem sameRetries_iff_timeout :
    SameRetries timeoutPolicy (publishAttempts timedOutPublish)
      (syncAttempts (failedOnceSync "timeout")) := by
  have ho : Begins [some "timeout", none] (failsOnce "timeout") :=
    begins_cons.mpr ⟨rfl, begins_cons.mpr ⟨rfl, begins_nil _⟩⟩
  have hd : Begins [zeroRng] fun _ => zeroRng := begins_cons.mpr ⟨rfl, begins_nil _⟩
  have hpolicy : timeoutWorker.retry = timeoutProvider.retry := rfl
  have hiff := sameRetries_iff hpolicy timedOutPublish_runs (failedOnceSync_runs "timeout")
    ho ho hd hd
  apply hiff.mpr
  constructor
  · rintro ⟨kind, ref, href, -⟩
    cases kind <;> cases href
  · intro n err hn _ he
    obtain rfl : n = 0 := Nat.lt_one_iff.mp hn
    cases he
    decide

/-- An error that the policy rejects: one provider call, two driver calls. -/
theorem sync_retries_rejected :
    ¬ ∀ (provider : ProviderRegistration) (event : EventEnvelope) (worker : SubscriptionsWorker)
        (spec : EventProviderSpec) (record : ProviderInstallRecord) (h : BusHistory)
        (v : Except String Unit) (h' : InstallHistory) (v' : Except String Unit)
        (outcomes : ℕ → Option String) (draws : ℕ → Rng),
      worker.retry = provider.retry → Runs (publishWithRetry provider event) h (.ret v) →
      Runs (syncInstall worker spec record) h' (.ret v') → ¬ Unreadable record h' →
      Begins (publishAttempts h).outcomes outcomes → Begins (syncAttempts h').outcomes outcomes →
      Begins (publishAttempts h).draws draws → Begins (syncAttempts h').draws draws →
      SameRetries provider.retry (publishAttempts h) (syncAttempts h') := by
  intro hall
  have hread : ¬ Unreadable githubInstall (failedOnceSync "denied") := by
    rintro ⟨kind, ref, href, -⟩
    cases kind <;> cases href
  have ho : Begins [some "denied"] (failsOnce "denied") :=
    begins_cons.mpr ⟨rfl, begins_nil _⟩
  have ho' : Begins [some "denied", none] (failsOnce "denied") :=
    begins_cons.mpr ⟨rfl, begins_cons.mpr ⟨rfl, begins_nil _⟩⟩
  have hd' : Begins [zeroRng] fun _ => zeroRng := begins_cons.mpr ⟨rfl, begins_nil _⟩
  have hsame := hall timeoutProvider keyedEvent timeoutWorker githubSpec githubInstall _ _ _ _
    (failsOnce "denied") _ rfl deniedPublish_runs (failedOnceSync_runs "denied") hread ho ho'
    (begins_nil _) hd'
  exact absurd hsame.calls (by decide)

end GreenticEvents
