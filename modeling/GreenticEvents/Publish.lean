import GreenticEvents.Bus

/-!
# What one publish does

The operations of a publish are read off its history: the provider calls, the
counters recorded and the keys checked.  `PublishTrace` lists every shape they
can have, finished or not.
-/

namespace GreenticEvents
open Data Effects Prog

structure ProviderCall where
  provider : ProviderInstance
  event : EventEnvelope
  result : Except String Unit

def providerCall? : Event busInterface → Option ProviderCall
  | ⟨.publish provider event, result⟩ => some ⟨provider, event, result⟩
  | _ => none

def recorded? : Event busInterface → Option Metric
  | ⟨.record m, _⟩ => some m
  | _ => none

def keyCheck? : Event busInterface → Option (String × Bool)
  | ⟨.recordKey key, fresh⟩ => some (key, fresh)
  | _ => none

abbrev BusHistory := List (Event busInterface)

def calls (h : BusHistory) : List ProviderCall := h.filterMap providerCall?

def recorded (h : BusHistory) : List Metric := h.filterMap recorded?

def keyChecks (h : BusHistory) : List (String × Bool) := h.filterMap keyCheck?

/-- What a history did to the outside. -/
structure Footprint where
  metrics : List Metric
  keys : List (String × Bool)
  calls : List ProviderCall

def footprint (h : BusHistory) : Footprint := ⟨recorded h, keyChecks h, calls h⟩

theorem footprint_calls (h : BusHistory) : (footprint h).calls = calls h := rfl

namespace Footprint

def none : Footprint := ⟨[], [], []⟩

def append (f g : Footprint) : Footprint :=
  ⟨f.metrics ++ g.metrics, f.keys ++ g.keys, f.calls ++ g.calls⟩

@[simp] theorem append_mk (f : Footprint) (metrics : List Metric) (keys : List (String × Bool))
    (calls : List ProviderCall) :
    f.append ⟨metrics, keys, calls⟩ = ⟨f.metrics ++ metrics, f.keys ++ keys, f.calls ++ calls⟩ :=
  rfl

@[simp] theorem append_none (f : Footprint) : f.append .none = f := by
  simp [append, none]

@[simp] theorem none_append (f : Footprint) : none.append f = f := rfl

end Footprint

@[simp] theorem footprint_nil : footprint [] = .none := rfl

theorem footprint_append (h h' : BusHistory) :
    footprint (h ++ h') = (footprint h).append (footprint h') := by
  simp [footprint, recorded, keyChecks, calls, Footprint.append]

@[simp] theorem footprint_aclCheck (a : Unit) (h : BusHistory) :
    footprint (⟨.aclCheck, a⟩ :: h) = footprint h := rfl

@[simp] theorem footprint_routing (a : Unit) (h : BusHistory) :
    footprint (⟨.routing, a⟩ :: h) = footprint h := rfl

@[simp] theorem footprint_threadRng (rng : Rng) (h : BusHistory) :
    footprint (⟨.threadRng, rng⟩ :: h) = footprint h := rfl

@[simp] theorem footprint_sleep (d : Duration) (a : Unit) (h : BusHistory) :
    footprint (⟨.sleep d, a⟩ :: h) = footprint h := rfl

@[simp] theorem footprint_record (m : Metric) (a : Unit) (h : BusHistory) :
    footprint (⟨.record m, a⟩ :: h) =
      { footprint h with metrics := m :: (footprint h).metrics } := rfl

@[simp] theorem footprint_recordKey (key : String) (fresh : Bool) (h : BusHistory) :
    footprint (⟨.recordKey key, fresh⟩ :: h) =
      { footprint h with keys := (key, fresh) :: (footprint h).keys } := rfl

@[simp] theorem footprint_publish (provider : ProviderInstance) (event : EventEnvelope)
    (result : Except String Unit) (h : BusHistory) :
    footprint (⟨.publish provider event, result⟩ :: h) =
      { footprint h with calls := ⟨provider, event, result⟩ :: (footprint h).calls } := rfl

/-- The calls of `provider` that failed with the given errors. -/
def failedCalls (provider : ProviderRegistration) (event : EventEnvelope) (errs : List String) :
    List ProviderCall :=
  errs.map fun err => ⟨provider.handle, event, .error err⟩

/-- A retry loop only calls its provider, and every call but the last failed. -/
inductive RetryTrace (provider : ProviderRegistration) (event : EventEnvelope) :
    Footprint → Option (Except String Unit) → Prop
  | running (errs : List String) :
      RetryTrace provider event ⟨[], [], failedCalls provider event errs⟩ none
  | delivered (errs : List String) :
      RetryTrace provider event
        ⟨[], [], failedCalls provider event errs ++ [⟨provider.handle, event, .ok ()⟩]⟩
        (some (.ok ()))
  | exhausted (errs : List String) (err : String) :
      RetryTrace provider event ⟨[], [], failedCalls provider event (errs ++ [err])⟩
        (some (.error err))

variable {provider : ProviderRegistration} {event : EventEnvelope}

/-- One more failed attempt before the rest of the loop. -/
theorem RetryTrace.retried {f : Footprint} {v : Option (Except String Unit)} (err : String)
    (ht : RetryTrace provider event f v) :
    RetryTrace provider event
      { f with calls := ⟨provider.handle, event, .error err⟩ :: f.calls } v := by
  cases ht with
  | running errs => exact .running (err :: errs)
  | delivered errs => exact .delivered (err :: errs)
  | exhausted errs last => exact .exhausted (err :: errs) last

theorem retryLoop_runs {attempt left : ℕ} {lastErr : Option String} {h : BusHistory}
    {q : BusProg (Except String Unit)} (hsum : attempt + left = provider.retry.maxRetries.toNat + 1)
    (hleft : 0 < left) (hr : Runs (retryLoop provider event attempt left lastErr) h q) :
    RetryTrace provider event (footprint h) q.value? := by
  induction left generalizing attempt lastErr h with
  | zero => omega
  | succ left ih =>
    rw [retryLoop, BusProg.publish, perform_bind, runs_ask] at hr
    rcases hr with ⟨rfl, rfl⟩ | ⟨result, h', rfl, hr⟩
    · exact .running []
    · rw [footprint_publish]
      cases result with
      | ok u =>
        obtain ⟨rfl, rfl⟩ := runs_ret.mp hr
        exact .delivered []
      | error err =>
        dsimp only at hr
        split_ifs at hr with hstop
        · obtain ⟨rfl, rfl⟩ := runs_ret.mp hr
          exact .exhausted [] err
        · apply RetryTrace.retried
          rw [BusProg.threadRng, perform_bind, runs_ask] at hr
          rcases hr with ⟨rfl, rfl⟩ | ⟨rng, h', rfl, hr⟩
          · exact .running []
          · rw [BusProg.sleep, perform_bind, runs_ask] at hr
            rcases hr with ⟨rfl, rfl⟩ | ⟨_, h', rfl, hr⟩
            · exact .running []
            · -- the attempt was not the last one allowed, so some are left
              have hne : attempt ≠ provider.retry.maxRetries.toNat := fun he => hstop (.inl he)
              rw [footprint_threadRng, footprint_sleep]
              exact ih (by omega) (by omega) hr

theorem publishWithRetry_runs {h : BusHistory} {q : BusProg (Except String Unit)}
    (hr : Runs (publishWithRetry provider event) h q) :
    RetryTrace provider event (footprint h) q.value? :=
  retryLoop_runs (Nat.zero_add _) (Nat.succ_pos _) hr

/-- The dead letter after the last error `err`, answered with `result`. -/
def deadLetterCall (provider : ProviderRegistration) (event : EventEnvelope) (err : String)
    (result : Except String Unit) : ProviderCall :=
  ⟨provider.handle, deadLetter provider event err, result⟩

inductive DeliverTrace (provider : ProviderRegistration) (event : EventEnvelope) :
    Footprint → Option (Result Unit) → Prop
  | retrying {f : Footprint} {v : Option (Except String Unit)}
      (ht : RetryTrace provider event f v) : DeliverTrace provider event f none
  | delivered (errs : List String) :
      DeliverTrace provider event
        ⟨[.eventsOut], [], failedCalls provider event errs ++ [⟨provider.handle, event, .ok ()⟩]⟩
        (some (.ok ()))
  | failed (errs : List String) (err : String) :
      DeliverTrace provider event
        ⟨[.eventsFailed], [], failedCalls provider event (errs ++ [err])⟩ none
  | deadLettered (errs : List String) (err : String) (result : Except String Unit) :
      DeliverTrace provider event
        ⟨[.eventsFailed], [],
          failedCalls provider event (errs ++ [err]) ++ [deadLetterCall provider event err result]⟩
        none
  | reported (errs : List String) (err : String) (result : Except String Unit) :
      DeliverTrace provider event
        ⟨[.eventsFailed, .eventsDlq], [],
          failedCalls provider event (errs ++ [err]) ++ [deadLetterCall provider event err result]⟩
        (some (.error (.deliveryFailed provider.descriptor.name err)))

theorem publishToDlq_runs {err : String} {h : BusHistory} {q : BusProg Unit}
    (hr : Runs (publishToDlq provider (deadLetter provider event err)) h q) :
    (footprint h = .none ∧ q.value? = none) ∨
    (∃ result, footprint h = ⟨[], [], [deadLetterCall provider event err result]⟩ ∧
      q.value? = none) ∨
    (∃ result, footprint h = ⟨[.eventsDlq], [], [deadLetterCall provider event err result]⟩ ∧
      q = .ret ()) := by
  rw [publishToDlq, BusProg.publish, perform_bind, runs_ask] at hr
  rcases hr with ⟨rfl, rfl⟩ | ⟨result, h', rfl, hr⟩
  · exact .inl ⟨rfl, rfl⟩
  · rw [BusProg.record, perform, runs_ask] at hr
    rcases hr with ⟨rfl, rfl⟩ | ⟨_, h', rfl, hr⟩
    · exact .inr (.inl ⟨result, rfl, rfl⟩)
    · obtain ⟨rfl, rfl⟩ := runs_ret.mp hr
      exact .inr (.inr ⟨result, rfl, rfl⟩)

theorem deliver_runs {h : BusHistory} {q : BusProg (Result Unit)}
    (hr : Runs (deliver provider event) h q) :
    DeliverTrace provider event (footprint h) q.value? := by
  rcases runs_bind hr with ⟨o, k, hp, rfl⟩ | ⟨result, h₁, h₂, rfl, hp, hm⟩
  · exact .retrying (publishWithRetry_runs hp)
  · have ht := publishWithRetry_runs hp
    rw [footprint_append]
    generalize footprint h₁ = f at ht
    cases result with
    | ok u =>
      rw [BusProg.record, perform_bind, runs_ask] at hm
      rcases hm with ⟨rfl, rfl⟩ | ⟨_, h', rfl, hm⟩
      · rw [footprint_nil, Footprint.append_none]
        exact .retrying ht
      · obtain ⟨rfl, rfl⟩ := runs_ret.mp hm
        cases ht with
        | delivered errs => simpa [Footprint.none] using DeliverTrace.delivered errs
    | error err =>
      dsimp only at hm
      rw [BusProg.record, perform_bind, runs_ask] at hm
      rcases hm with ⟨rfl, rfl⟩ | ⟨_, h', rfl, hm⟩
      · rw [footprint_nil, Footprint.append_none]
        exact .retrying ht
      · rw [footprint_record]
        cases ht with
        | exhausted errs =>
          -- the failure is counted; the dead letter may still be under way
          rcases runs_bind hm with ⟨o, k, hd, rfl⟩ | ⟨_, h₃, h₄, rfl, hd, hm⟩
          · rcases publishToDlq_runs hd with ⟨hf, _⟩ | ⟨result, hf, _⟩ | ⟨_, _, hq⟩
            · simpa [hf, Footprint.none] using DeliverTrace.failed errs err
            · simpa [hf] using DeliverTrace.deadLettered errs err result
            · cases hq
          · obtain ⟨rfl, rfl⟩ := runs_ret.mp hm
            rcases publishToDlq_runs hd with ⟨_, hq⟩ | ⟨_, _, hq⟩ | ⟨result, hf, _⟩
            · cases hq
            · cases hq
            · simpa [hf] using DeliverTrace.reported errs err result

/-- The event passes the ACL and is routed to `provider`. -/
structure Admitted (bus : EventBus) (event : EventEnvelope) (provider : ProviderRegistration) :
    Prop where
  allowed : bus.acl.allowPublish event.tenant event.topic = .ok ()
  routed : bus.providerForTopic event.topic = .ok provider

/-- The key checks of a call that goes on to its provider. -/
def passedKeys (event : EventEnvelope) : List (String × Bool) :=
  match event.metadata.get "idempotency_key" with
  | some key => [(composedKey event key, true)]
  | none => []

inductive PublishTrace (bus : EventBus) (event : EventEnvelope) :
    Footprint → Option (Result Unit) → Prop
  | start : PublishTrace bus event .none none
  | denied {err : EventBusError}
      (refused : bus.acl.allowPublish event.tenant event.topic = .error err) :
      PublishTrace bus event .none (some (.error err))
  | unrouted {err : EventBusError}
      (allowed : bus.acl.allowPublish event.tenant event.topic = .ok ())
      (unrouted : bus.providerForTopic event.topic = .error err) :
      PublishTrace bus event .none (some (.error err))
  | counted (provider : ProviderRegistration) (ha : Admitted bus event provider) :
      PublishTrace bus event ⟨[.eventsIn], [], []⟩ none
  | duplicate (provider : ProviderRegistration) (ha : Admitted bus event provider) (key : String)
      (hkey : event.metadata.get "idempotency_key" = some key) :
      PublishTrace bus event ⟨[.eventsIn], [(composedKey event key, false)], []⟩
        (some (.error (.duplicate (composedKey event key))))
  | passed (provider : ProviderRegistration) (ha : Admitted bus event provider) {f : Footprint}
      {v : Option (Result Unit)} (ht : DeliverTrace provider event f v) :
      PublishTrace bus event ⟨.eventsIn :: f.metrics, passedKeys event ++ f.keys, f.calls⟩ v

theorem publishRouted_runs {bus : EventBus} (ha : Admitted bus event provider) {h : BusHistory}
    {q : BusProg (Result Unit)} (hr : Runs (publishRouted provider event) h q) :
    PublishTrace bus event (footprint h) q.value? := by
  rw [publishRouted, BusProg.record, perform_bind, runs_ask] at hr
  rcases hr with ⟨rfl, rfl⟩ | ⟨_, h, rfl, hr⟩
  · exact .start
  · have hpassed (h : BusHistory) (hr : Runs (deliver provider event) h q) :=
      PublishTrace.passed provider ha (deliver_runs hr)
    cases hkey : event.metadata.get "idempotency_key" with
    | none => simpa [hkey, passedKeys] using hpassed h (by simpa [hkey] using hr)
    | some key =>
      rw [hkey] at hr
      dsimp only at hr
      rw [BusProg.recordKey, perform_bind, runs_ask] at hr
      rcases hr with ⟨rfl, rfl⟩ | ⟨fresh, h, rfl, hr⟩
      · exact .counted provider ha
      · cases fresh with
        | true => simpa [hkey, passedKeys] using hpassed h (by simpa using hr)
        | false =>
          obtain ⟨rfl, rfl⟩ := runs_ret.mp hr
          exact .duplicate provider ha key hkey

/-- Every history of a publish, finished or not, has one of the listed shapes. -/
theorem publish_runs {bus : EventBus} {h : BusHistory} {q : BusProg (Result Unit)}
    (hr : Runs (bus.publish event) h q) : PublishTrace bus event (footprint h) q.value? := by
  rw [EventBus.publish, BusProg.aclCheck, perform_bind, runs_ask] at hr
  rcases hr with ⟨rfl, rfl⟩ | ⟨_, h, rfl, hr⟩
  · exact .start
  · rw [footprint_aclCheck]
    cases hacl : bus.acl.allowPublish event.tenant event.topic with
    | error err =>
      rw [hacl] at hr
      obtain ⟨rfl, rfl⟩ := runs_ret.mp hr
      exact .denied hacl
    | ok u =>
      rw [hacl] at hr
      dsimp only at hr
      rw [BusProg.routing, perform_bind, runs_ask] at hr
      rcases hr with ⟨rfl, rfl⟩ | ⟨_, h, rfl, hr⟩
      · exact .start
      · rw [footprint_routing]
        cases hroute : bus.providerForTopic event.topic with
        | error err =>
          rw [hroute] at hr
          obtain ⟨rfl, rfl⟩ := runs_ret.mp hr
          exact .unrouted hacl hroute
        | ok provider =>
          rw [hroute] at hr
          exact publishRouted_runs ⟨hacl, hroute⟩ hr

theorem publish_returned {bus : EventBus} {h : BusHistory} {result : Result Unit}
    (hr : Runs (bus.publish event) h (.ret result)) :
    PublishTrace bus event (footprint h) (some result) :=
  publish_runs hr

/-- The provider calls of a publish, finished or not: attempts at the event, all before the last
failed, and after a last one that failed its dead letter for that error. -/
inductive CallsOf (bus : EventBus) (event : EventEnvelope) : List ProviderCall → Prop
  | none : CallsOf bus event []
  | attempted {provider : ProviderRegistration} (ha : Admitted bus event provider)
      (errs : List String) : CallsOf bus event (failedCalls provider event errs)
  | delivered {provider : ProviderRegistration} (ha : Admitted bus event provider)
      (errs : List String) :
      CallsOf bus event (failedCalls provider event errs ++ [⟨provider.handle, event, .ok ()⟩])
  | deadLettered {provider : ProviderRegistration} (ha : Admitted bus event provider)
      (errs : List String) (err : String) (result : Except String Unit) :
      CallsOf bus event
        (failedCalls provider event (errs ++ [err]) ++ [deadLetterCall provider event err result])

theorem PublishTrace.callsOf {bus : EventBus} {f : Footprint} {v : Option (Result Unit)}
    (ht : PublishTrace bus event f v) : CallsOf bus event f.calls := by
  cases ht with
  | passed provider ha hd =>
    cases hd with
    | retrying ht =>
      cases ht with
      | running errs => exact .attempted ha errs
      | delivered errs => exact .delivered ha errs
      | exhausted errs err => exact .attempted ha (errs ++ [err])
    | delivered errs => exact .delivered ha errs
    | failed errs err => exact .attempted ha (errs ++ [err])
    | deadLettered errs err result => exact .deadLettered ha errs err result
    | reported errs err result => exact .deadLettered ha errs err result
  | _ => exact .none

theorem publish_callsOf {bus : EventBus} {h : BusHistory} {q : BusProg (Result Unit)}
    (hr : Runs (bus.publish event) h q) : CallsOf bus event (calls h) :=
  (publish_runs hr).callsOf

/-- The first provider in registration order with a pattern for the topic. -/
def FirstMatch (providers : List ProviderRegistration) (topic : String)
    (provider : ProviderRegistration) : Prop :=
  ∃ earlier later, providers = earlier ++ provider :: later ∧
    (∃ pattern ∈ provider.topics, matchesPattern pattern topic = true) ∧
    ∀ p ∈ earlier, ∀ pattern ∈ p.topics, ¬ matchesPattern pattern topic = true

theorem providerForTopic_ok {bus : EventBus} {topic : String}
    (h : bus.providerForTopic topic = .ok provider) :
    FirstMatch bus.providers topic provider := by
  unfold EventBus.providerForTopic at h
  split at h
  · next p hfind =>
    cases h
    obtain ⟨hp, earlier, later, hlist, hnone⟩ := List.find?_eq_some_iff_append.mp hfind
    refine ⟨earlier, later, hlist, by simpa using hp, fun p hmem pattern hpat hm => ?_⟩
    have := hnone p hmem
    simp only [Bool.not_eq_true', List.any_eq_false] at this
    exact this pattern hpat hm
  · cases h

theorem providerForTopic_error {bus : EventBus} {topic : String} {err : EventBusError}
    (h : bus.providerForTopic topic = .error err) : err = .noProvider topic := by
  unfold EventBus.providerForTopic at h
  split at h
  · cases h
  · exact (Except.error.inj h).symm

/-- `letter` is `event` but for its topic and its `dlq_reason`. -/
structure IsDeadLetter (provider : ProviderRegistration) (event letter : EventEnvelope)
    (reason : String) : Prop where
  same : letter = { event with topic := letter.topic, metadata := letter.metadata }
  topic : letter.topic = provider.dlqTopic.getD (event.topic ++ ".dlq")
  reason : letter.metadata.get "dlq_reason" = some reason
  others : ∀ key, key ≠ "dlq_reason" → letter.metadata.get key = event.metadata.get key

theorem deadLetter_isDeadLetter (provider : ProviderRegistration) (event : EventEnvelope)
    (reason : String) : IsDeadLetter provider event (deadLetter provider event reason) reason where
  same := rfl
  topic := rfl
  reason := BTreeMap.get_insert_self ..
  others _ hne := BTreeMap.get_insert_of_ne _ hne _

variable {σ : Type}

/-- The counters after an execution are those recorded in it. -/
theorem exec_metrics {α : Type} (store : IdempotencyStore σ) (p : BusProg α) (w : World σ) :
    (p.exec (World.answer store) w).state.metrics =
      (recorded (p.exec (World.answer store) w).history).foldl EventMetrics.record w.metrics := by
  induction p generalizing w with
  | ret a => rfl
  | ask o k ih =>
    rw [Prog.exec]
    cases o <;> exact ih ..

theorem exec_idempotency {α : Type} (store : IdempotencyStore σ) (p : BusProg α) (w : World σ)
    (h : keyChecks (p.exec (World.answer store) w).history = []) :
    (p.exec (World.answer store) w).state.idempotency = w.idempotency := by
  induction p generalizing w with
  | ret a => rfl
  | ask o k ih =>
    rw [Prog.exec] at h ⊢
    cases o
    case recordKey key => cases h
    all_goals exact ih _ _ h

/-- What a finished call may have returned and done. -/
def PublishOutcome (bus : EventBus) (event : EventEnvelope) (w : World σ)
    (out : Outcome busInterface (World σ) (Result Unit)) : Prop :=
  match out.value with
  | .error (.aclDenied _ _ _) | .error (.noProvider _) =>
    footprint out.history = .none ∧ out.state.metrics = w.metrics ∧
      out.state.idempotency = w.idempotency
  | .error (.duplicate key) => footprint out.history = ⟨[.eventsIn], [(key, false)], []⟩
  | .ok () => ∃ provider errs, FirstMatch bus.providers event.topic provider ∧
      footprint out.history = ⟨[.eventsIn, .eventsOut], passedKeys event,
        failedCalls provider event errs ++ [⟨provider.handle, event, .ok ()⟩]⟩
  | .error (.deliveryFailed name reason) => ∃ provider errs letter result,
      FirstMatch bus.providers event.topic provider ∧ name = provider.descriptor.name ∧
      IsDeadLetter provider event letter reason ∧
      footprint out.history = ⟨[.eventsIn, .eventsFailed, .eventsDlq], passedKeys event,
        failedCalls provider event (errs ++ [reason]) ++ [⟨provider.handle, letter, result⟩]⟩
  | _ => False

theorem execPublish_outcome (bus : EventBus) (store : IdempotencyStore σ) (event : EventEnvelope)
    (w : World σ) : PublishOutcome bus event w (bus.execPublish store event w) := by
  have hr := exec_runs (World.answer store) (bus.publish event) w
  have ht := publish_returned hr
  have hmetrics := exec_metrics store (bus.publish event) w
  have hkeys := exec_idempotency store (bus.publish event) w
  unfold PublishOutcome EventBus.execPublish
  generalize (bus.publish event).exec (World.answer store) w = out at *
  obtain ⟨value, state, h⟩ := out
  dsimp only at *
  -- what the history does to the outside says what the counters and the store end with
  have huntouched (hf : footprint h = .none) : footprint h = .none ∧
      state.metrics = w.metrics ∧ state.idempotency = w.idempotency := by
    refine ⟨hf, ?_, hkeys (congrArg Footprint.keys hf)⟩
    rw [hmetrics, show recorded h = [] from congrArg Footprint.metrics hf, List.foldl_nil]
  generalize hf : footprint h = f at *
  cases ht with
  | denied refused =>
    obtain rfl := TopicAcl.check_error refused
    exact huntouched rfl
  | unrouted allowed unrouted =>
    obtain rfl := providerForTopic_error unrouted
    exact huntouched rfl
  | duplicate provider ha key hkey => rfl
  | passed provider ha hd =>
    have hfirst := providerForTopic_ok ha.routed
    cases hd with
    | delivered errs => exact ⟨provider, errs, hfirst, by simp⟩
    | reported errs err result =>
      exact ⟨provider, errs, _, result, hfirst, rfl, deadLetter_isDeadLetter provider event err,
        by simp [deadLetterCall]⟩

end GreenticEvents
