import GreenticEvents.Annotations
import GreenticEvents.Retries

/-!
# Retry filters in a pack

The strings of `retry.retryable_errors` are the errors that `publish_with_retry`
tries again after; an empty list of them stands for every error.
-/

namespace GreenticEvents
open Data Effects Prog

/-- A filter with a text in it asks for one of its texts. -/
theorem isRetryable_filter {policy : RetryPolicy} {err : String}
    (hne : policy.retryableErrors ≠ []) :
    policy.isRetryable err = true ↔
      ∃ text ∈ policy.retryableErrors, RetryPolicy.contains err text = true := by
  have hempty : policy.retryableErrors.isEmpty = false := List.isEmpty_eq_false_iff.mpr hne
  simp [RetryPolicy.isRetryable, hempty]

theorem isRetryable_unfiltered {policy : RetryPolicy} (h : policy.retryableErrors = [])
    (err : String) : policy.isRetryable err = true := by
  simp [RetryPolicy.isRetryable, h]

/-- The strings of an annotated array, and nothing else of it, become the filter. -/
theorem annotatedRetry_filter {name : String} {annotations : BTreeMap String Json}
    {values : List Json}
    (h : annotatedValue annotations name "retry.retryable_errors" = some (.array values)) :
    (annotatedRetry name annotations).retryableErrors = values.filterMap Json.asStr := by
  rw [annotatedRetry_eq]
  simp [Annotated.policy, Annotated.ofValues, h, Json.asArray]

theorem mem_filterMap_asStr {values : List Json} {text : String} :
    text ∈ values.filterMap Json.asStr ↔ Json.string text ∈ values := by
  rw [List.mem_filterMap]
  constructor
  · rintro ⟨value, hmem, hvalue⟩
    cases value with
    | string s =>
      cases hvalue
      exact hmem
    | _ => cases hvalue
  · intro hmem
    exact ⟨_, hmem, rfl⟩

/-- Another attempt comes only after an error with one of the array's strings in it. -/
def RetriesOnlyMatching (values : List Json) (run : RetryAttempts) : Prop :=
  ∀ n, n + 1 < run.outcomes.length → ∃ err, run.outcomes[n]? = some (some err) ∧
    ∃ text, Json.string text ∈ values ∧ RetryPolicy.contains err text = true

variable {provider : ProviderRegistration} {event : EventEnvelope} {name : String}
  {annotations : BTreeMap String Json} {values : List Json} {h : BusHistory}
  {v : Except String Unit}

/-- A run under a policy with an annotated array retries only what the array names exactly
when some element of the array is a string, or there is no second attempt. -/
theorem retriesOnlyMatching_iff
    (hvalues : annotatedValue annotations name "retry.retryable_errors" = some (.array values))
    (hpolicy : provider.retry = annotatedRetry name annotations)
    (hr : Runs (publishWithRetry provider event) h (.ret v)) {outcomes : ℕ → Option String}
    (ho : Begins (publishAttempts h).outcomes outcomes) :
    RetriesOnlyMatching values (publishAttempts h) ↔
      (∃ text, Json.string text ∈ values) ∨ provider.retry.maxRetries = 0 ∨ outcomes 0 = none := by
  have hloop := publishWithRetry_attempts hr
  have hfilter : provider.retry.retryableErrors = values.filterMap Json.asStr := by
    rw [hpolicy, annotatedRetry_filter hvalues]
  constructor
  · intro hmatching
    by_contra hcond
    rw [not_or, not_or] at hcond
    obtain ⟨hnone, hbudget, hfailed⟩ := hcond
    obtain ⟨err, herr⟩ := Option.ne_none_iff_exists'.mp hfailed
    -- no string is left of the array, and the first error is tried again
    have hempty : provider.retry.retryableErrors = [] := by
      rw [hfilter, List.eq_nil_iff_forall_not_mem]
      exact fun text hmem => hnone ⟨text, mem_filterMap_asStr.mp hmem⟩
    have hbudget' : provider.retry.maxRetries.toNat ≠ 0 := fun h => hbudget (UInt32.toNat_inj.mp h)
    have hsecond : 0 + 1 < (publishAttempts h).outcomes.length := by
      apply hloop.continues ho (by omega)
      intro m hm
      rw [Nat.le_zero.mp hm]
      exact ⟨err, herr, by simp [isRetryable_unfiltered hempty]⟩
    obtain ⟨_, -, text, hmem, -⟩ := hmatching 0 hsecond
    exact hnone ⟨text, hmem⟩
  · intro hcond n hn
    obtain ⟨err, hget, hacc⟩ := hloop.error_accepted hn
    refine ⟨err, hget, ?_⟩
    rcases hcond with ⟨text, hmem⟩ | hbudget | hfirst
    · have hne : provider.retry.retryableErrors ≠ [] := by
        rw [hfilter]
        exact List.ne_nil_of_mem (mem_filterMap_asStr.mpr hmem)
      have hretryable : provider.retry.isRetryable err = true := by simpa using hacc
      obtain ⟨text', hmem', hcontains⟩ := (isRetryable_filter hne).mp hretryable
      rw [hfilter] at hmem'
      exact ⟨text', mem_filterMap_asStr.mp hmem', hcontains⟩
    · have hle := hloop.outcomes_length_le
      rw [hbudget] at hle
      have hone : (0 : UInt32).toNat + 1 = 1 := rfl
      omega
    · obtain ⟨first, hget', -⟩ := hloop.error_accepted (show 0 + 1 < _ by omega)
      cases (ho 0 _ hget').trans hfirst

def filterAnnotations (values : List Json) : BTreeMap String Json :=
  BTreeMap.empty.insert (settingKey "mail" "retry.retryable_errors") (.array values)

def filteredProvider (values : List Json) : ProviderRegistration :=
  { timeoutProvider with retry := annotatedRetry "mail" (filterAnnotations values) }

theorem filterAnnotations_value (values : List Json) :
    annotatedValue (filterAnnotations values) "mail" "retry.retryable_errors" =
      some (.array values) :=
  BTreeMap.get_insert_self ..

def timeoutFilter : List Json := [.number (.posInt 503), .string "timeout"]

def statusFilter : List Json := [.number (.posInt 503), .number (.posInt 429)]

/-- An error that no filter here names is tried again. -/
def retriedDenied : BusHistory :=
  [⟨.publish 0 keyedEvent, .error "denied"⟩, ⟨.threadRng, zeroRng⟩,
    ⟨.sleep ((filteredProvider statusFilter).retry.delayForAttempt zeroRng 1), ()⟩,
    ⟨.publish 0 keyedEvent, .ok ()⟩]

theorem deniedPublish_filtered : Runs (publishWithRetry (filteredProvider timeoutFilter) keyedEvent)
    deniedPublish (.ret (.error "denied")) :=
  .step rfl (.refl _)

theorem retriedDenied_runs : Runs (publishWithRetry (filteredProvider statusFilter) keyedEvent)
    retriedDenied (.ret (.ok ())) :=
  .step rfl (.step rfl (.step rfl (.step rfl (.refl _))))

theorem retriesOnlyMatching_iff_timeout :
    RetriesOnlyMatching timeoutFilter (publishAttempts deniedPublish) := by
  have ho : Begins [some "denied"] (failsOnce "denied") := begins_cons.mpr ⟨rfl, begins_nil _⟩
  have hiff := retriesOnlyMatching_iff (filterAnnotations_value timeoutFilter) rfl
    deniedPublish_filtered ho
  exact hiff.mpr (.inl ⟨"timeout", by simp [timeoutFilter]⟩)

/-- A filter of numbers is read as no filter. -/
theorem numbers_retry_everything :
    ¬ ∀ (provider : ProviderRegistration) (event : EventEnvelope) (name : String)
        (annotations : BTreeMap String Json) (values : List Json) (h : BusHistory)
        (v : Except String Unit), values ≠ [] →
      annotatedValue annotations name "retry.retryable_errors" = some (.array values) →
      provider.retry = annotatedRetry name annotations →
      Runs (publishWithRetry provider event) h (.ret v) →
      RetriesOnlyMatching values (publishAttempts h) := by
  intro hall
  have hmatching := hall (filteredProvider statusFilter) keyedEvent "mail" _ statusFilter
    retriedDenied _ (by simp [statusFilter]) (filterAnnotations_value statusFilter) rfl
    retriedDenied_runs
  obtain ⟨_, -, text, hmem, -⟩ := hmatching 0 (by decide)
  simp [statusFilter] at hmem

end GreenticEvents
