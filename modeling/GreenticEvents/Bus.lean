import GreenticEvents.Effects.Interleaving
import GreenticEvents.Acl
import GreenticEvents.Provider

/-!
# Publishing (`bus.rs`, `metrics.rs`, `idempotency.rs`)

A publish is a program over the operations it shares with the outside: the
counters, the idempotency store, the providers, random draws and sleeps.
-/

namespace GreenticEvents
open Data Effects

inductive Metric where
  | eventsIn
  | eventsOut
  | eventsFailed
  | eventsDlq
  deriving DecidableEq

/-- The first two read only the bus itself; they are steps of their own so that
other calls can come in between. -/
inductive BusOp where
  | aclCheck
  | routing
  | record (m : Metric)
  | recordKey (key : String)
  | publish (provider : ProviderInstance) (event : EventEnvelope)
  | threadRng
  | sleep (d : Duration)

@[reducible] def BusOp.Ans : BusOp → Type
  | recordKey _ => Bool
  | publish _ _ => Except String Unit
  | threadRng => Rng
  | _ => Unit

abbrev busInterface : Interface := ⟨BusOp, BusOp.Ans⟩

abbrev BusProg := Prog busInterface

namespace BusProg

def aclCheck : BusProg Unit := Prog.perform (I := busInterface) .aclCheck

def routing : BusProg Unit := Prog.perform (I := busInterface) .routing

def record (m : Metric) : BusProg Unit := Prog.perform (I := busInterface) (.record m)

def recordKey (key : String) : BusProg Bool := Prog.perform (I := busInterface) (.recordKey key)

def publish (provider : ProviderInstance) (event : EventEnvelope) :
    BusProg (Except String Unit) :=
  Prog.perform (I := busInterface) (.publish provider event)

def threadRng : BusProg Rng := Prog.perform (I := busInterface) .threadRng

def sleep (d : Duration) : BusProg Unit := Prog.perform (I := busInterface) (.sleep d)

end BusProg

/-- The parts of a bus that no call changes. -/
structure EventBus where
  providers : List ProviderRegistration
  acl : TopicAcl

/-- The `for` loop over the attempts, `left` of them to go. -/
def retryLoop (provider : ProviderRegistration) (event : EventEnvelope) :
    (attempt left : ℕ) → Option String → BusProg (Except String Unit)
  -- not reached: the last attempt returns its own error
  | _, 0, lastErr => return .error (lastErr.getD "unknown error")
  | attempt, left + 1, _ => do
    match ← BusProg.publish provider.handle event with
    | .ok () => return .ok ()
    | .error err =>
      if attempt = provider.retry.maxRetries.toNat ∨ ¬ provider.retry.isRetryable err then
        return .error err
      else
        let rng ← BusProg.threadRng
        BusProg.sleep (provider.retry.delayForAttempt rng (attempt + 1))
        retryLoop provider event (attempt + 1) left (some err)

def publishWithRetry (provider : ProviderRegistration) (event : EventEnvelope) :
    BusProg (Except String Unit) :=
  retryLoop provider event 0 (provider.retry.maxRetries.toNat + 1) none

def deadLetter (provider : ProviderRegistration) (event : EventEnvelope) (reason : String) :
    EventEnvelope :=
  { event with
    topic := provider.dlqTopic.getD (event.topic ++ ".dlq")
    metadata := event.metadata.insert "dlq_reason" reason }

def publishToDlq (provider : ProviderRegistration) (event : EventEnvelope) : BusProg Unit := do
  let _ ← BusProg.publish provider.handle event -- its result is dropped
  BusProg.record .eventsDlq

/-- The `match` on the outcome of the retries. -/
def deliver (provider : ProviderRegistration) (event : EventEnvelope) : BusProg (Result Unit) := do
  match ← publishWithRetry provider event with
  | .ok () =>
    BusProg.record .eventsOut
    return .ok ()
  | .error err =>
    BusProg.record .eventsFailed
    publishToDlq provider (deadLetter provider event err)
    return .error (.deliveryFailed provider.descriptor.name err)

def composedKey (event : EventEnvelope) (key : String) : String :=
  event.tenant.tenant.raw ++ ":" ++ key

theorem append_separator_inj {α : Type} {a : α} {l l' r r' : List α} (hl : a ∉ l) (hl' : a ∉ l')
    (h : l ++ a :: r = l' ++ a :: r') : l = l' ∧ r = r' := by
  induction l generalizing l' with
  | nil =>
    cases l' with
    | nil => exact ⟨rfl, (List.cons.inj h).2⟩
    | cons b l' => exact absurd (List.mem_cons.mpr (.inl (List.cons.inj h).1)) hl'
  | cons b l ih =>
    cases l' with
    | nil => exact absurd (List.mem_cons.mpr (.inl (List.cons.inj h).1.symm)) hl
    | cons b' l' =>
      obtain ⟨rfl, htail⟩ := List.cons.inj h
      have hsplit := ih (mt (List.mem_cons_of_mem b) hl) (mt (List.mem_cons_of_mem b) hl') htail
      exact ⟨congrArg (b :: ·) hsplit.1, hsplit.2⟩

/-- Tenant ids hold no colon, so a composed key determines the tenant id and the key. -/
theorem composedKey_injective {e e' : EventEnvelope} {k k' : String}
    (h : composedKey e k = composedKey e' k') : e.tenant.tenant = e'.tenant.tenant ∧ k = k' := by
  have hlist : e.tenant.tenant.raw.toList ++ ':' :: k.toList =
      e'.tenant.tenant.raw.toList ++ ':' :: k'.toList := by
    simpa [composedKey] using congrArg String.toList h
  have hparts := append_separator_inj e.tenant.tenant.colon_not_mem
    e'.tenant.tenant.colon_not_mem hlist
  refine ⟨?_, String.toList_injective hparts.2⟩
  cases ht : e.tenant.tenant
  cases ht' : e'.tenant.tenant
  simpa [ht, ht'] using String.toList_injective hparts.1

/-- The instrumented block of `publish`. -/
def publishRouted (provider : ProviderRegistration) (event : EventEnvelope) :
    BusProg (Result Unit) := do
  BusProg.record .eventsIn
  match event.metadata.get "idempotency_key" with
  | some key =>
    -- the key is taken before the event is delivered
    if ← BusProg.recordKey (composedKey event key) then deliver provider event
    else return .error (.duplicate (composedKey event key))
  | none => deliver provider event

namespace EventBus

def providerForTopic (bus : EventBus) (topic : String) : Result ProviderRegistration :=
  match bus.providers.find? fun p => p.topics.any fun pattern => matchesPattern pattern topic with
  | some provider => .ok provider
  | none => .error (.noProvider topic)

def publish (bus : EventBus) (event : EventEnvelope) : BusProg (Result Unit) := do
  BusProg.aclCheck
  match bus.acl.allowPublish event.tenant event.topic with
  | .error err => return .error err
  | .ok () =>
    BusProg.routing
    match bus.providerForTopic event.topic with
    | .error err => return .error err
    | .ok provider => publishRouted provider event

end EventBus

/-- A bus without ACL rules and with one provider, for every topic. -/
def wildcardBus : EventBus where
  providers := [{
    descriptor := ⟨"broker", .broker, .nats, .atLeastOnce, .none, none, []⟩
    topics := ["*"]
    dlqTopic := none
    retry := { RetryPolicy.default with maxRetries := 0 }
    handle := 0 }]
  acl := ⟨[], true⟩

def tenantA : TenantCtx := ⟨"dev", ⟨"tenant-a", by decide⟩, .null⟩

def tenantB : TenantCtx := ⟨"dev", ⟨"tenant-b", by decide⟩, .null⟩

structure EventMetrics where
  eventsInTotal : UInt64
  eventsOutTotal : UInt64
  eventsFailedTotal : UInt64
  eventsDlqTotal : UInt64

namespace EventMetrics

def new : EventMetrics := ⟨0, 0, 0, 0⟩

def get (s : EventMetrics) : Metric → UInt64
  | .eventsIn => s.eventsInTotal
  | .eventsOut => s.eventsOutTotal
  | .eventsFailed => s.eventsFailedTotal
  | .eventsDlq => s.eventsDlqTotal

/-- `fetch_add(1)` on one counter. -/
def record (s : EventMetrics) : Metric → EventMetrics
  | .eventsIn => { s with eventsInTotal := s.eventsInTotal + 1 }
  | .eventsOut => { s with eventsOutTotal := s.eventsOutTotal + 1 }
  | .eventsFailed => { s with eventsFailedTotal := s.eventsFailedTotal + 1 }
  | .eventsDlq => { s with eventsDlqTotal := s.eventsDlqTotal + 1 }

theorem get_record (s : EventMetrics) (m m' : Metric) :
    (s.record m).get m' = s.get m' + if m = m' then 1 else 0 := by
  cases m <;> cases m' <;> simp [record, get]

end EventMetrics

/-- `dyn IdempotencyStore`, in states `σ`. -/
structure IdempotencyStore (σ : Type) where
  recordKey : σ → String → Bool × σ

structure InMemoryIdempotencyStore where
  seen : List String

namespace InMemoryIdempotencyStore

def new : InMemoryIdempotencyStore := ⟨[]⟩

/-- `HashSet::insert` under the mutex: true if the key was not there. -/
def recordKey (s : InMemoryIdempotencyStore) (key : String) : Bool × InMemoryIdempotencyStore :=
  if key ∈ s.seen then (false, s) else (true, ⟨key :: s.seen⟩)

def store : IdempotencyStore InMemoryIdempotencyStore := ⟨recordKey⟩

theorem mem_recordKey {s : InMemoryIdempotencyStore} {key k : String} :
    k ∈ (s.recordKey key).2.seen ↔ k = key ∨ k ∈ s.seen := by
  unfold recordKey
  split_ifs with h
  · exact ⟨.inr, fun h' => h'.elim (fun e => e ▸ h) id⟩
  · exact List.mem_cons

theorem recordKey_fst {s : InMemoryIdempotencyStore} {key : String} :
    (s.recordKey key).1 = true ↔ key ∉ s.seen := by
  unfold recordKey
  split_ifs with h <;> simp [h]

end InMemoryIdempotencyStore

/-- What every publish on a bus shares. -/
structure BusState (σ : Type) where
  metrics : EventMetrics
  idempotency : σ

variable {σ : Type}

/-- Which answers an operation may get, and its effect; a provider may answer
anything. -/
def BusState.handle (store : IdempotencyStore σ) (s : BusState σ) :
    Event busInterface → BusState σ → Prop
  | ⟨.record m, _⟩, s' => s' = { s with metrics := s.metrics.record m }
  | ⟨.recordKey key, fresh⟩, s' =>
    fresh = (store.recordKey s.idempotency key).1 ∧
      s' = { s with idempotency := (store.recordKey s.idempotency key).2 }
  | _, s' => s' = s

/-- A bus state with the provider results and random draws still to come. -/
structure World (σ : Type) extends BusState σ where
  results : ℕ → Except String Unit
  draws : ℕ → Rng

/-- The deterministic environment of one call at a time. -/
def World.answer (store : IdempotencyStore σ) :
    (o : BusOp) → World σ → o.Ans × World σ
  | .record m, w => ((), { w with metrics := w.metrics.record m })
  | .recordKey key, w =>
    let r := store.recordKey w.idempotency key
    (r.1, { w with idempotency := r.2 })
  | .publish _ _, w => (w.results 0, { w with results := fun n => w.results (n + 1) })
  | .threadRng, w => (w.draws 0, { w with draws := fun n => w.draws (n + 1) })
  | .aclCheck, w | .routing, w | .sleep _, w => ((), w)

theorem World.handle_answer (store : IdempotencyStore σ) (o : BusOp) (w : World σ) :
    BusState.handle store w.toBusState ⟨o, (World.answer store o w).1⟩
      (World.answer store o w).2.toBusState := by
  cases o
  case recordKey key => exact ⟨rfl, rfl⟩
  all_goals rfl

def EventBus.execPublish (bus : EventBus) (store : IdempotencyStore σ) (event : EventEnvelope)
    (w : World σ) : Prog.Outcome busInterface (World σ) (Result Unit) :=
  (bus.publish event).exec (World.answer store) w

end GreenticEvents
