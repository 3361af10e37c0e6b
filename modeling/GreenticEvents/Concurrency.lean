import Mathlib.Data.Set.Card
import GreenticEvents.Publish

/-!
# Concurrent publishes

Any number of calls run on buses that share their counters; every operation of
`BusOp` is one atomic step, and the steps of the calls come in any order.
-/

namespace GreenticEvents
open Data Effects Prog

variable {ι σ : Type} [DecidableEq ι]

/-- Call `i` checks its key in `store i`; nothing else changes the shared state. -/
def busSystem (store : ι → IdempotencyStore σ) :
    System ι busInterface Empty (BusState σ) (BusProg (Result Unit)) where
  next := Prog.next
  handle i := BusState.handle (store i)
  react _ e _ := nomatch e

def publishing (bus : ι → EventBus) (event : ι → EventEnvelope) (s : BusState σ) :
    Config ι (BusState σ) (BusProg (Result Unit)) :=
  ⟨s, fun i => (bus i).publish (event i)⟩

abbrev BusLog (ι : Type) := List (Label ι busInterface Empty)

variable {store : ι → IdempotencyStore σ} {bus : ι → EventBus} {event : ι → EventEnvelope}
  {s₀ : BusState σ} {log : BusLog ι} {c : Config ι (BusState σ) (BusProg (Result Unit))}

/-- In any interleaving each call has a shape of its own program. -/
theorem call_trace (hr : (busSystem store).Run (publishing bus event s₀) log c) (i : ι) :
    PublishTrace (bus i) (event i) (footprint (localHistory i log)) (c.proc i).value? :=
  publish_runs (hr.local i)

/-- A call executed while no other takes a step. -/
theorem execPublish_run (store : ι → IdempotencyStore σ) (bus : EventBus) (event : EventEnvelope)
    (i : ι) (w : World σ) (proc : ι → BusProg (Result Unit)) (hp : proc i = bus.publish event) :
    (busSystem store).Run ⟨w.toBusState, proc⟩
      ((bus.execPublish (store i) event w).history.map (.act i))
      ⟨(bus.execPublish (store i) event w).state.toBusState,
        Function.update proc i (.ret (bus.execPublish (store i) event w).value)⟩ :=
  Prog.exec_run rfl _ World.toBusState i (World.handle_answer (store i)) _ w proc hp

/-- The event of a call carries tenant id `t` and idempotency key `k`. -/
def Keyed (event : EventEnvelope) (t : TenantId) (k : String) : Prop :=
  event.tenant.tenant = t ∧ event.metadata.get "idempotency_key" = some k

instance (event : EventEnvelope) (t : TenantId) (k : String) : Decidable (Keyed event t k) :=
  inferInstanceAs (Decidable (_ ∧ _))

theorem Keyed.composedKey_eq {e e' : EventEnvelope} {t : TenantId} {k : String} (h : Keyed e t k)
    (h' : Keyed e' t k) : composedKey e k = composedKey e' k := by
  rw [composedKey, composedKey, h.1, h'.1]

theorem mem_keyChecks {h : BusHistory} {key : String} {fresh : Bool} :
    (key, fresh) ∈ keyChecks h ↔ ⟨.recordKey key, fresh⟩ ∈ h := by
  rw [keyChecks, List.mem_filterMap]
  constructor
  · rintro ⟨⟨o, a⟩, hmem, he⟩
    cases o <;> simp only [keyCheck?, reduceCtorEq, Option.some.injEq, Prod.mk.injEq] at he
    obtain ⟨rfl, rfl⟩ := he
    exact hmem
  · intro hmem
    exact ⟨_, hmem, rfl⟩

/-- A call that reached its provider had its key recorded as new. -/
theorem PublishTrace.key_recorded {bus : EventBus} {event : EventEnvelope} {f : Footprint}
    {v : Option (Result Unit)} {k : String} (ht : PublishTrace bus event f v)
    (hkey : event.metadata.get "idempotency_key" = some k) (hcalls : f.calls ≠ []) :
    (composedKey event k, true) ∈ f.keys := by
  cases ht with
  | passed provider ha hd => simp [passedKeys, hkey]
  | _ => exact absurd rfl hcalls

/-- `key` was recorded as new in call `i`. -/
def Claimed (log : BusLog ι) (i : ι) (key : String) : Prop :=
  (i, ⟨.recordKey key, true⟩) ∈ globalHistory log

/-- The keys recorded as new are in the store and belong to one call each. -/
structure KeysClaimedOnce (log : BusLog ι) (s : BusState InMemoryIdempotencyStore) : Prop where
  seen : ∀ i key, Claimed log i key → key ∈ s.idempotency.seen
  once : ∀ i j key, Claimed log i key → Claimed log j key → i = j

/-- One step records at most one new key and forgets none. -/
theorem handle_seen {s s' : BusState InMemoryIdempotencyStore} {e : Event busInterface}
    (hs : BusState.handle InMemoryIdempotencyStore.store s e s') :
    (∀ key ∈ s.idempotency.seen, key ∈ s'.idempotency.seen) ∧
      ∀ key, e = ⟨.recordKey key, true⟩ →
        key ∉ s.idempotency.seen ∧ key ∈ s'.idempotency.seen := by
  obtain ⟨o, a⟩ := e
  cases o with
  | recordKey key =>
    obtain ⟨rfl, rfl⟩ := hs
    refine ⟨fun key' hmem => InMemoryIdempotencyStore.mem_recordKey.mpr (.inr hmem), ?_⟩
    intro key' he
    simp only [Event.mk.injEq, BusOp.recordKey.injEq] at he
    obtain ⟨rfl, hfresh⟩ := he
    exact ⟨InMemoryIdempotencyStore.recordKey_fst.mp (eq_of_heq hfresh),
      InMemoryIdempotencyStore.mem_recordKey.mpr (.inl rfl)⟩
  | _ =>
    cases hs
    exact ⟨fun _ hmem => hmem, fun key he => by simp at he⟩

omit [DecidableEq ι] in
theorem claimed_snoc {log : BusLog ι} {i j : ι} {e : Event busInterface} {key : String} :
    Claimed (log ++ [.act i e]) j key ↔ Claimed log j key ∨ j = i ∧ e = ⟨.recordKey key, true⟩ := by
  simp [Claimed, eq_comm]

omit [DecidableEq ι] in
theorem KeysClaimedOnce.step {log : BusLog ι} {s s' : BusState InMemoryIdempotencyStore} {i : ι}
    {e : Event busInterface} (hinv : KeysClaimedOnce log s)
    (hs : BusState.handle InMemoryIdempotencyStore.store s e s') :
    KeysClaimedOnce (log ++ [.act i e]) s' := by
  obtain ⟨hkept, hnew⟩ := handle_seen hs
  constructor
  · intro j key hc
    rcases claimed_snoc.mp hc with hc | ⟨_, he⟩
    · exact hkept key (hinv.seen j key hc)
    · exact (hnew key he).2
  · intro j j' key hc hc'
    rcases claimed_snoc.mp hc with hold | ⟨rfl, he⟩ <;>
      rcases claimed_snoc.mp hc' with hold' | ⟨rfl, he'⟩
    · exact hinv.once j j' key hold hold'
    -- a key that this step found new was not seen before
    · exact absurd (hinv.seen j key hold) (hnew key he').1
    · exact absurd (hinv.seen j' key hold') (hnew key he).1
    · rfl

theorem keysClaimedOnce {bus : ι → EventBus} {event : ι → EventEnvelope}
    {s₀ : BusState InMemoryIdempotencyStore} {log : BusLog ι}
    {c : Config ι (BusState InMemoryIdempotencyStore) (BusProg (Result Unit))}
    (hr : (busSystem fun _ => InMemoryIdempotencyStore.store).Run (publishing bus event s₀) log c) :
    KeysClaimedOnce log c.shared := by
  refine hr.invariant ⟨?_, ?_⟩ ?_ ?_
  · intro i key hc
    simp [Claimed] at hc
  · intro i j key hc
    simp [Claimed] at hc
  · intro log s i e s' hinv hs
    exact hinv.step hs
  · intro log s e
    cases e

def ProviderCall.accepted (call : ProviderCall) : Bool :=
  match call.result with
  | .ok () => true
  | .error _ => false

def accepted (e : Event busInterface) : Bool := (providerCall? e).any ProviderCall.accepted

theorem countP_accepted (h : BusHistory) :
    h.countP accepted = (calls h).countP ProviderCall.accepted := by
  rw [calls, List.countP_filterMap]
  congr 1
  funext e
  cases he : providerCall? e <;> simp [accepted, he]

theorem countP_failedCalls (provider : ProviderRegistration) (event : EventEnvelope)
    (errs : List String) : (failedCalls provider event errs).countP ProviderCall.accepted = 0 := by
  simp [failedCalls, List.countP_eq_zero, ProviderCall.accepted]

/-- One call has its event accepted at most once, on its topic or as a dead letter. -/
theorem PublishTrace.accepted_le_one {bus : EventBus} {event : EventEnvelope} {f : Footprint}
    {v : Option (Result Unit)} (ht : PublishTrace bus event f v) :
    f.calls.countP ProviderCall.accepted ≤ 1 := by
  have hlast (provider : ProviderRegistration) (errs : List String) (call : ProviderCall) :
      (failedCalls provider event errs ++ [call]).countP ProviderCall.accepted ≤ 1 := by
    rw [List.countP_append, countP_failedCalls, Nat.zero_add]
    exact List.countP_le_length
  have hnone (provider : ProviderRegistration) (errs : List String) :
      (failedCalls provider event errs).countP ProviderCall.accepted ≤ 1 :=
    (countP_failedCalls provider event errs).le.trans zero_le_one
  cases ht with
  | passed provider ha hd =>
    cases hd with
    | retrying hretry =>
      cases hretry with
      | running errs => exact hnone provider errs
      | delivered errs => exact hlast provider errs _
      | exhausted errs err => exact hnone provider _
    | delivered errs => exact hlast provider errs _
    | failed errs err => exact hnone provider _
    | deadLettered errs err result => exact hlast provider _ _
    | reported errs err result => exact hlast provider _ _
  | _ => exact Nat.zero_le 1

section OneBus

variable {bus : EventBus} {event : ι → EventEnvelope} {s₀ : BusState InMemoryIdempotencyStore}
  {log : BusLog ι} {c : Config ι (BusState InMemoryIdempotencyStore) (BusProg (Result Unit))}

theorem reached_unique
    (hr : (busSystem fun _ => InMemoryIdempotencyStore.store).Run
      (publishing (fun _ => bus) event s₀) log c)
    {t : TenantId} {k : String} {i j : ι} (hi : Keyed (event i) t k) (hj : Keyed (event j) t k)
    (hci : calls (localHistory i log) ≠ []) (hcj : calls (localHistory j log) ≠ []) : i = j := by
  have hclaim (i : ι) (hi : Keyed (event i) t k) (hci : calls (localHistory i log) ≠ []) :
      Claimed log i (composedKey (event i) k) :=
    mem_localHistory.mp (mem_keyChecks.mp ((call_trace hr i).key_recorded hi.2 hci))
  refine (keysClaimedOnce hr).once i j _ (hclaim i hi hci) ?_
  rw [hi.composedKey_eq hj]
  exact hclaim j hj hcj

def acceptedKeyed (event : ι → EventEnvelope) (log : BusLog ι) (t : TenantId) (k : String) : ℕ :=
  (globalHistory log).countP fun x => decide (Keyed (event x.1) t k) && accepted x.2

theorem acceptedKeyed_le_one
    (hr : (busSystem fun _ => InMemoryIdempotencyStore.store).Run
      (publishing (fun _ => bus) event s₀) log c) (t : TenantId) (k : String) :
    acceptedKeyed event log t k ≤ 1 := by
  have hreached {i : ι} {e : Event busInterface} (hmem : (i, e) ∈ globalHistory log)
      (ha : accepted e = true) : calls (localHistory i log) ≠ [] := by
    have hpos : 0 < (localHistory i log).countP accepted :=
      List.countP_pos_iff.mpr ⟨e, mem_localHistory.mpr hmem, ha⟩
    intro hnil
    simp [countP_accepted, hnil] at hpos
  unfold acceptedKeyed
  by_cases hex : ∃ x ∈ globalHistory log, Keyed (event x.1) t k ∧ accepted x.2 = true
  · -- every accepted call belongs to the one process that reached its provider
    obtain ⟨⟨i, e⟩, hmem, hkeyed, ha⟩ := hex
    calc
      _ ≤ (globalHistory log).countP fun x => decide (x.1 = i) && accepted x.2 := by
        apply List.countP_mono_left
        rintro ⟨j, e'⟩ hmem' hp
        simp only [Bool.and_eq_true, decide_eq_true_eq] at hp ⊢
        exact ⟨reached_unique hr hp.1 hkeyed (hreached hmem' hp.2) (hreached hmem ha), hp.2⟩
      _ = (localHistory i log).countP accepted := (countP_localHistory accepted i log).symm
      _ = (calls (localHistory i log)).countP ProviderCall.accepted := countP_accepted _
      _ ≤ 1 := (call_trace hr i).accepted_le_one
  · rw [List.countP_eq_zero.mpr]
    · exact Nat.zero_le 1
    · intro x hmem hp
      simp only [Bool.and_eq_true, decide_eq_true_eq] at hp
      exact hex ⟨x, hmem, hp⟩

/-- A finished call that was admitted and reached no provider was a duplicate. -/
theorem PublishTrace.duplicate_of_no_calls {bus : EventBus} {event : EventEnvelope} {f : Footprint}
    {result : Result Unit} {k : String} {provider : ProviderRegistration}
    (ht : PublishTrace bus event f (some result))
    (hkey : event.metadata.get "idempotency_key" = some k) (ha : Admitted bus event provider)
    (hcalls : f.calls = []) : result = .error (.duplicate (composedKey event k)) := by
  cases ht with
  | denied refused => cases refused.symm.trans ha.allowed
  | unrouted _ unrouted => cases unrouted.symm.trans ha.routed
  | duplicate _ _ key hkey' =>
    cases hkey.symm.trans hkey'
    rfl
  | passed _ _ hd => cases hd <;> simp [failedCalls] at hcalls

/-- Of the calls with one tenant id and key at most one reaches its provider,
the event is accepted at most once, and every other call that gets past ACL and
routing reports a duplicate. -/
theorem keyed_calls_deliver_once
    (hr : (busSystem fun _ => InMemoryIdempotencyStore.store).Run
      (publishing (fun _ => bus) event s₀) log c) (t : TenantId) (k : String) :
    (∀ i j, Keyed (event i) t k → Keyed (event j) t k →
      calls (localHistory i log) ≠ [] → calls (localHistory j log) ≠ [] → i = j) ∧
    acceptedKeyed event log t k ≤ 1 ∧
    ∀ i result, Keyed (event i) t k → (∃ provider, Admitted bus (event i) provider) →
      c.proc i = .ret result → calls (localHistory i log) = [] →
      result = .error (.duplicate (composedKey (event i) k)) := by
  refine ⟨fun i j hi hj => reached_unique hr hi hj, acceptedKeyed_le_one hr t k, ?_⟩
  rintro i result hkeyed ⟨provider, ha⟩ hret hcalls
  have ht := call_trace hr i
  rw [hret] at ht
  exact ht.duplicate_of_no_calls hkeyed.2 ha hcalls

end OneBus

def keyedEvent : EventEnvelope where
  id := ⟨"evt-1"⟩
  topic := "orders"
  type := "created"
  source := "shop"
  tenant := tenantA
  subject := none
  time := ⟨0⟩
  correlationId := none
  payload := .null
  metadata := BTreeMap.empty.insert "idempotency_key" "k1"

/-- A new bus state, with every provider call answered by `result`. -/
def World.constant (result : Except String Unit) : World InMemoryIdempotencyStore :=
  ⟨⟨.new, .new⟩, fun _ => result, fun _ => zeroRng⟩

def twoCalls (result : Except String Unit) : BusLog Bool :=
  let first := wildcardBus.execPublish InMemoryIdempotencyStore.store keyedEvent (.constant result)
  let second := wildcardBus.execPublish InMemoryIdempotencyStore.store keyedEvent first.state
  first.history.map (.act false) ++ second.history.map (.act true)

theorem twoCalls_run (result : Except String Unit) :
    ∃ c, (busSystem fun _ => InMemoryIdempotencyStore.store).Run
      (publishing (fun _ => wildcardBus) (fun _ => keyedEvent) (World.constant result).toBusState)
      (twoCalls result) c := by
  have first := execPublish_run (fun _ => InMemoryIdempotencyStore.store) wildcardBus keyedEvent
    false (World.constant result) (fun _ => wildcardBus.publish keyedEvent) rfl
  exact ⟨_, first.trans (execPublish_run _ wildcardBus keyedEvent true _ _ rfl)⟩

theorem keyed_calls_deliver_once_twoCalls :
    acceptedKeyed (fun _ => keyedEvent) (twoCalls (.ok ())) tenantA.tenant "k1" = 1 := by
  obtain ⟨c, hr⟩ := twoCalls_run (.ok ())
  exact le_antisymm (keyed_calls_deliver_once hr tenantA.tenant "k1").2.1 (by decide)

def isRecord (m : Metric) (e : Event busInterface) : Bool := recorded? e == some m

def recordCount (m : Metric) (log : BusLog ι) : ℕ :=
  (globalHistory log).countP fun x => isRecord m x.2

omit [DecidableEq ι] in
theorem recordCount_snoc (m : Metric) (log : BusLog ι) (i : ι) (e : Event busInterface) :
    recordCount m (log ++ [.act i e]) = recordCount m log + if isRecord m e then 1 else 0 := by
  rw [recordCount, globalHistory_snoc_act, List.countP_append, List.countP_singleton]
  rfl

theorem handle_metrics {s s' : BusState σ} {store : IdempotencyStore σ} {e : Event busInterface}
    (hs : BusState.handle store s e s') (m : Metric) :
    s'.metrics.get m = s.metrics.get m + .ofNat (if isRecord m e then 1 else 0) := by
  obtain ⟨o, a⟩ := e
  cases o with
  | record m' =>
    cases hs
    rw [EventMetrics.get_record]
    by_cases hm : m' = m <;> simp [isRecord, recorded?, hm]
  | recordKey key =>
    obtain ⟨_, rfl⟩ := hs
    simp [isRecord, recorded?]
  | _ =>
    cases hs
    simp [isRecord, recorded?]

/-- A counter has grown by the number of times it was recorded, modulo `2 ^ 64`. -/
theorem metrics_run (hr : (busSystem store).Run (publishing bus event s₀) log c) (m : Metric) :
    c.shared.metrics.get m = s₀.metrics.get m + .ofNat (recordCount m log) := by
  let Grown (log : BusLog ι) (s : BusState σ) : Prop :=
    s.metrics.get m = s₀.metrics.get m + .ofNat (recordCount m log)
  have hstart : Grown [] s₀ := by simp [Grown, recordCount]
  have hstep (log : BusLog ι) (s : BusState σ) (i : ι) (e : Event busInterface) (s' : BusState σ)
      (hinv : Grown log s) (hs : BusState.handle (store i) s e s') :
      Grown (log ++ [.act i e]) s' := by
    unfold Grown at *
    rw [handle_metrics hs m, hinv, recordCount_snoc, UInt64.ofNat_add, UInt64.add_assoc]
  exact hr.invariant hstart hstep fun _ _ e => nomatch e

def ReturnedDuplicate (v : Option (Result Unit)) : Prop :=
  ∃ key, v = some (.error (.duplicate key))

/-- Past `record_in`, and neither recorded as out or failed nor returned as a duplicate. -/
def InFlight (f : Footprint) (v : Option (Result Unit)) : Prop :=
  .eventsIn ∈ f.metrics ∧ .eventsOut ∉ f.metrics ∧ .eventsFailed ∉ f.metrics ∧
    ¬ ReturnedDuplicate v

section Balance

variable {bus : EventBus} {event : EventEnvelope} {f : Footprint} {v : Option (Result Unit)}

open scoped Classical in
/-- The law for one call: whatever came in is out, failed, a duplicate or in flight. -/
theorem PublishTrace.balance (ht : PublishTrace bus event f v) :
    f.metrics.count .eventsIn = f.metrics.count .eventsOut + f.metrics.count .eventsFailed +
      (if ReturnedDuplicate v then 1 else 0) + if InFlight f v then 1 else 0 := by
  cases ht with
  | denied refused =>
    obtain rfl := TopicAcl.check_error refused
    simp [InFlight, ReturnedDuplicate, Footprint.none]
  | unrouted _ unrouted =>
    obtain rfl := providerForTopic_error unrouted
    simp [InFlight, ReturnedDuplicate, Footprint.none]
  | passed provider ha hd =>
    cases hd with
    | retrying hretry => cases hretry <;> simp [InFlight, ReturnedDuplicate]
    | _ => simp [InFlight, ReturnedDuplicate]
  | _ => simp [InFlight, ReturnedDuplicate, Footprint.none]

theorem PublishTrace.duplicate_counted (ht : PublishTrace bus event f v)
    (hv : ReturnedDuplicate v) :
    .eventsIn ∈ f.metrics ∧ ∃ provider, Admitted bus event provider := by
  obtain ⟨key, rfl⟩ := hv
  cases ht with
  | denied refused => cases TopicAcl.check_error refused
  | unrouted _ unrouted => cases providerForTopic_error unrouted
  | duplicate provider ha => exact ⟨by simp, provider, ha⟩
  | passed provider ha => exact ⟨by simp, provider, ha⟩

theorem PublishTrace.rejected_silent (ht : PublishTrace bus event f v) {err : EventBusError}
    (hv : v = some (.error err))
    (herr : (∃ tenant topic op, err = .aclDenied tenant topic op) ∨
      ∃ topic, err = .noProvider topic) :
    f.metrics = [] := by
  subst hv
  cases ht with
  | denied => rfl
  | unrouted => rfl
  | duplicate => simp at herr
  | passed _ _ hd => cases hd with
    | reported => simp at herr

end Balance

def participants (log : BusLog ι) : Finset ι := ((globalHistory log).map Prod.fst).toFinset

theorem recordCount_eq_sum (m : Metric) (log : BusLog ι) :
    recordCount m log = ∑ i ∈ participants log, (recorded (localHistory i log)).count m := by
  have hmem (x : ι × Event busInterface) (hx : x ∈ globalHistory log) :
      x.1 ∈ participants log :=
    List.mem_toFinset.mpr (List.mem_map_of_mem hx)
  rw [recordCount, countP_globalHistory (isRecord m) _ log hmem]
  exact Finset.sum_congr rfl fun i _ => List.count_filterMap.symm

theorem mem_participants {i : ι} (h : .eventsIn ∈ recorded (localHistory i log)) :
    i ∈ participants log := by
  obtain ⟨e, he, _⟩ := List.mem_filterMap.mp h
  exact List.mem_toFinset.mpr (List.mem_map.mpr ⟨(i, e), mem_localHistory.mp he, rfl⟩)

omit [DecidableEq ι] in
open scoped Classical in
theorem ncard_eq_sum {P : ι → Prop} {s : Finset ι} (hs : ∀ i, P i → i ∈ s) :
    {i | P i}.Finite ∧ {i | P i}.ncard = ∑ i ∈ s, if P i then 1 else 0 := by
  have heq : {i | P i} = (s.filter P : Finset ι) := by
    ext i
    simpa using hs i
  rw [heq, Set.ncard_coe_finset, Finset.card_filter]
  exact ⟨Finset.finite_toSet _, rfl⟩

/-- `events_in = events_out + events_failed + duplicates + in flight`, modulo
`2 ^ 64`, in every state that any interleaving reaches. -/
theorem events_conserved {idempotency : σ}
    (hr : (busSystem store).Run (publishing bus event ⟨.new, idempotency⟩) log c) :
    let duplicates := {i | (∃ provider, Admitted (bus i) (event i) provider) ∧
      ReturnedDuplicate (c.proc i).value?}
    let inFlight := {i | InFlight (footprint (localHistory i log)) (c.proc i).value?}
    (duplicates.Finite ∧ inFlight.Finite) ∧
    c.shared.metrics.eventsInTotal = c.shared.metrics.eventsOutTotal +
      c.shared.metrics.eventsFailedTotal + .ofNat duplicates.ncard + .ofNat inFlight.ncard ∧
    ∀ i err, c.proc i = .ret (.error err) →
      ((∃ tenant topic op, err = .aclDenied tenant topic op) ∨ ∃ topic, err = .noProvider topic) →
      recorded (localHistory i log) = [] := by
  classical
  intro duplicates inFlight
  have ht := call_trace hr
  have hdup := ncard_eq_sum (P := fun i => (∃ provider, Admitted (bus i) (event i) provider) ∧
    ReturnedDuplicate (c.proc i).value?) (s := participants log)
    fun i hi => mem_participants ((ht i).duplicate_counted hi.2).1
  have hflight := ncard_eq_sum (P := fun i => InFlight (footprint (localHistory i log))
    (c.proc i).value?) (s := participants log) fun i hi => mem_participants hi.1
  -- each call balances by itself; the sum over the calls gives the equation of the counters
  have hsum : recordCount .eventsIn log = recordCount .eventsOut log +
      recordCount .eventsFailed log + duplicates.ncard + inFlight.ncard := by
    rw [hdup.2, hflight.2]
    simp only [recordCount_eq_sum, ← Finset.sum_add_distrib]
    refine Finset.sum_congr rfl fun i _ => ?_
    have hiff : ((∃ provider, Admitted (bus i) (event i) provider) ∧
        ReturnedDuplicate (c.proc i).value?) ↔ ReturnedDuplicate (c.proc i).value? :=
      and_iff_right_of_imp fun h => ((ht i).duplicate_counted h).2
    simp only [hiff]
    exact (ht i).balance
  have hnew (m : Metric) : c.shared.metrics.get m = .ofNat (recordCount m log) := by
    rw [metrics_run hr m]
    cases m <;> exact UInt64.zero_add _
  refine ⟨⟨hdup.1, hflight.1⟩, ?_, fun i err hret herr => ?_⟩
  · calc
      c.shared.metrics.eventsInTotal = .ofNat (recordCount .eventsIn log) := hnew .eventsIn
      _ = .ofNat (recordCount .eventsOut log) + .ofNat (recordCount .eventsFailed log) +
          .ofNat duplicates.ncard + .ofNat inFlight.ncard := by
        rw [hsum]
        simp only [UInt64.ofNat_add]
      _ = _ := by
        rw [← hnew .eventsOut, ← hnew .eventsFailed]
        rfl
  · have hi := ht i
    rw [hret] at hi
    exact hi.rejected_silent rfl herr

theorem events_conserved_twoCalls :
    ∃ c, (busSystem fun _ => InMemoryIdempotencyStore.store).Run
      (publishing (fun _ => wildcardBus) (fun _ => keyedEvent) (World.constant (.ok ())).toBusState)
      (twoCalls (.ok ())) c ∧
    c.shared.metrics.eventsInTotal = c.shared.metrics.eventsOutTotal +
      c.shared.metrics.eventsFailedTotal +
      .ofNat {i | (∃ provider, Admitted wildcardBus keyedEvent provider) ∧
        ReturnedDuplicate (c.proc i).value?}.ncard +
      .ofNat {i | InFlight (footprint (localHistory i (twoCalls (.ok ()))))
        (c.proc i).value?}.ncard := by
  obtain ⟨c, hr⟩ := twoCalls_run (.ok ())
  exact ⟨c, hr, (events_conserved hr).2.1⟩

end GreenticEvents
