import GreenticEvents.Concurrency

/-!
# Publishes made one after the other

The key of a call is recorded before its event is delivered, and stays recorded
whatever the provider answers.
-/

namespace GreenticEvents
open Data Effects Prog

structure FinishedCall where
  event : EventEnvelope
  value : Result Unit
  history : BusHistory

namespace FinishedCall

def Reached (call : FinishedCall) : Prop := calls call.history ≠ []

/-- The provider accepted the event, on its own topic or as a dead letter. -/
def Accepted (call : FinishedCall) : Prop := ∃ c ∈ calls call.history, c.accepted = true

def FailureReported (call : FinishedCall) : Prop :=
  ∃ name reason, call.value = .error (.deliveryFailed name reason)

end FinishedCall

def publishSeq (bus : EventBus) :
    List EventEnvelope → World InMemoryIdempotencyStore → List FinishedCall
  | [], _ => []
  | event :: events, w =>
    let out := bus.execPublish InMemoryIdempotencyStore.store event w
    ⟨event, out.value, out.history⟩ :: publishSeq bus events out.state

abbrev runOn {α : Type} (p : BusProg α) (w : World InMemoryIdempotencyStore) :=
  p.exec (World.answer InMemoryIdempotencyStore.store) w

/-- What one `record_key` adds is what it reports as new. -/
theorem recordKey_seen (s : InMemoryIdempotencyStore) (key key' : String) :
    key ∈ (s.recordKey key').2.seen ↔
      key ∈ s.seen ∨ (key, true) = (key', (s.recordKey key').1) := by
  rw [InMemoryIdempotencyStore.mem_recordKey, Prod.mk.injEq, eq_comm (a := true),
    InMemoryIdempotencyStore.recordKey_fst]
  by_cases hmem : key ∈ s.seen
  · simp only [hmem, or_true, true_or]
  · simp only [hmem, or_false, false_or]
    constructor
    · rintro rfl
      exact ⟨rfl, hmem⟩
    · exact And.left

/-- An execution adds the keys it recorded as new to the store. -/
theorem exec_seen {α : Type} (p : BusProg α) (w : World InMemoryIdempotencyStore) (key : String) :
    key ∈ (runOn p w).state.idempotency.seen ↔
      key ∈ w.idempotency.seen ∨ (key, true) ∈ keyChecks (runOn p w).history := by
  induction p generalizing w with
  | ret a => simp [exec, keyChecks]
  | ask o k ih =>
    rw [runOn, exec]
    cases o with
    | recordKey key' =>
      have hrest := ih (w.idempotency.recordKey key').1
        { w with idempotency := (w.idempotency.recordKey key').2 }
      rw [recordKey_seen, or_assoc, ← List.mem_cons] at hrest
      exact hrest
    | _ => exact ih _ _

/-- A key reported as a duplicate is in the store afterwards. -/
theorem exec_duplicate {α : Type} (p : BusProg α) (w : World InMemoryIdempotencyStore)
    {key : String} (h : (key, false) ∈ keyChecks (runOn p w).history) :
    key ∈ (runOn p w).state.idempotency.seen := by
  induction p generalizing w with
  | ret a => simp [exec, keyChecks] at h
  | ask o k ih =>
    rw [runOn, exec] at h ⊢
    cases o with
    | recordKey key' =>
      rcases List.mem_cons.mp h with he | hrest
      · obtain ⟨rfl, hfresh⟩ := Prod.mk.inj he
        apply (exec_seen _ _ _).mpr
        apply Or.inl
        exact InMemoryIdempotencyStore.mem_recordKey.mpr (.inl rfl)
      · exact ih _ _ hrest
    | _ => exact ih _ _ h

/-- A key recorded as new was not in the store before. -/
theorem exec_fresh {α : Type} (p : BusProg α) (w : World InMemoryIdempotencyStore)
    {key : String} (h : (key, true) ∈ keyChecks (runOn p w).history) :
    key ∉ w.idempotency.seen := by
  induction p generalizing w with
  | ret a => simp [exec, keyChecks] at h
  | ask o k ih =>
    rw [runOn, exec] at h
    cases o with
    | recordKey key' =>
      rcases List.mem_cons.mp h with he | hrest
      · obtain ⟨rfl, hfresh⟩ := Prod.mk.inj he
        exact InMemoryIdempotencyStore.recordKey_fst.mp hfresh.symm
      · intro hmem
        exact ih _ _ hrest (InMemoryIdempotencyStore.mem_recordKey.mpr (.inr hmem))
    | _ => exact ih _ (World.answer InMemoryIdempotencyStore.store _ w).2 h

variable {bus : EventBus} {events : List EventEnvelope} {w : World InMemoryIdempotencyStore}
  {earlier later : List FinishedCall} {call : FinishedCall}

/-- Every call of the sequence is one execution, on the keys of the calls before it. -/
theorem publishSeq_split (h : publishSeq bus events w = earlier ++ call :: later) :
    ∃ w', call.value = (runOn (bus.publish call.event) w').value ∧
      call.history = (runOn (bus.publish call.event) w').history ∧
      ∀ key, key ∈ w'.idempotency.seen ↔ key ∈ w.idempotency.seen ∨
        ∃ prev ∈ earlier, (key, true) ∈ keyChecks prev.history := by
  induction earlier generalizing events w with
  | nil =>
    cases events with
    | nil => cases h
    | cons event events =>
      obtain ⟨rfl, _⟩ := List.cons.inj h
      exact ⟨w, rfl, rfl, by simp⟩
  | cons first earlier ih =>
    cases events with
    | nil => cases h
    | cons event events =>
      obtain ⟨rfl, hrest⟩ := List.cons.inj h
      obtain ⟨w', hvalue, hhistory, hseen⟩ := ih hrest
      refine ⟨w', hvalue, hhistory, fun key => ?_⟩
      rw [hseen, EventBus.execPublish, exec_seen, or_assoc]
      simp

theorem publishSeq_trace (h : publishSeq bus events w = earlier ++ call :: later) :
    PublishTrace bus call.event (footprint call.history) (some call.value) := by
  obtain ⟨w', hvalue, hhistory, _⟩ := publishSeq_split h
  rw [hvalue, hhistory]
  exact publish_runs (exec_runs _ _ w')

theorem publishSeq_trace_earlier (h : publishSeq bus events w = earlier ++ call :: later)
    {prev : FinishedCall} (hprev : prev ∈ earlier) :
    PublishTrace bus prev.event (footprint prev.history) (some prev.value) := by
  obtain ⟨before, after, rfl⟩ := List.append_of_mem hprev
  rw [List.append_assoc, List.cons_append] at h
  exact publishSeq_trace h

/-- A finished call that recorded its key as new went on to its provider. -/
theorem PublishTrace.of_fresh_key {event : EventEnvelope} {f : Footprint} {value : Result Unit}
    {key : String} (ht : PublishTrace bus event f (some value)) (hkey : (key, true) ∈ f.keys) :
    (∃ k, event.metadata.get "idempotency_key" = some k ∧ key = composedKey event k) ∧
      f.calls ≠ [] ∧ ((∃ c ∈ f.calls, c.accepted = true) ∨
        ∃ name reason, value = .error (.deliveryFailed name reason)) := by
  have hpassed (hmem : (key, true) ∈ passedKeys event) :
      ∃ k, event.metadata.get "idempotency_key" = some k ∧ key = composedKey event k := by
    unfold passedKeys at hmem
    split at hmem
    · next k hk => exact ⟨k, hk, (Prod.mk.inj (List.mem_singleton.mp hmem)).1⟩
    · cases hmem
  cases ht with
  | denied | unrouted => cases hkey
  | duplicate => simp at hkey
  | passed provider ha hd =>
    cases hd with
    | delivered errs =>
      refine ⟨hpassed (by simpa using hkey), by simp, .inl ⟨⟨provider.handle, event, .ok ()⟩, ?_⟩⟩
      exact ⟨List.mem_append_right _ List.mem_cons_self, rfl⟩
    | reported errs err result =>
      exact ⟨hpassed (by simpa using hkey), by simp, .inr ⟨_, err, rfl⟩⟩

theorem PublishTrace.of_duplicate {event : EventEnvelope} {f : Footprint} {key : String}
    (ht : PublishTrace bus event f (some (.error (.duplicate key)))) :
    f.keys = [(key, false)] ∧
      ∃ k, event.metadata.get "idempotency_key" = some k ∧ key = composedKey event k := by
  generalize hv : some (Except.error (EventBusError.duplicate key)) = v at ht
  cases ht with
  | denied refused =>
    cases hv
    cases TopicAcl.check_error refused
  | unrouted _ unrouted =>
    cases hv
    cases providerForTopic_error unrouted
  | duplicate provider ha k hk =>
    cases hv
    exact ⟨rfl, k, hk, rfl⟩
  | passed _ _ hd => cases hd <;> cases hv
  | _ => cases hv

/-- A duplicate follows a call with the same tenant id and key that reached the
provider and was accepted or reported as failed; after such a call, accepted or
not, every call with its tenant id and key is a duplicate. -/
theorem duplicate_follows_reached (hempty : w.idempotency = .new)
    (h : publishSeq bus events w = earlier ++ call :: later) {t : TenantId} {k : String}
    (hkeyed : Keyed call.event t k) :
    ((∃ key, call.value = .error (.duplicate key)) →
      ∃ prev ∈ earlier, Keyed prev.event t k ∧ prev.Reached ∧
        (prev.Accepted ∨ prev.FailureReported)) ∧
    ∀ prev ∈ earlier, Keyed prev.event t k → prev.Reached →
      ∀ provider, Admitted bus call.event provider →
        call.value = .error (.duplicate (composedKey call.event k)) ∧ ¬ call.Reached := by
  obtain ⟨w', hvalue, hhistory, hseen⟩ := publishSeq_split h
  have ht := publishSeq_trace h
  have hkeys (key : String) : key ∈ w'.idempotency.seen ↔
      ∃ prev ∈ earlier, (key, true) ∈ keyChecks prev.history := by
    rw [hseen, hempty]
    simp [InMemoryIdempotencyStore.new]
  constructor
  · rintro ⟨key, hdup⟩
    rw [hdup] at ht
    obtain ⟨hfalse, k', hk', rfl⟩ := ht.of_duplicate
    cases hkeyed.2.symm.trans hk'
    have hchecks : keyChecks (runOn (bus.publish call.event) w').history =
        [(composedKey call.event k, false)] := hhistory ▸ hfalse
    -- the call itself recorded nothing as new, so an earlier one did
    have hmem : composedKey call.event k ∈ w'.idempotency.seen := by
      have hafter : composedKey call.event k ∈
          (runOn (bus.publish call.event) w').state.idempotency.seen :=
        exec_duplicate _ w' (by rw [hchecks]; exact List.mem_singleton_self _)
      simpa [hchecks] using (exec_seen _ _ _).mp hafter
    obtain ⟨prev, hprev, hnew⟩ := (hkeys _).mp hmem
    obtain ⟨⟨k', hk', hsame⟩, hreached, hend⟩ :=
      (publishSeq_trace_earlier h hprev).of_fresh_key hnew
    obtain ⟨htenant, rfl⟩ := composedKey_injective hsame
    exact ⟨prev, hprev, ⟨htenant ▸ hkeyed.1, hk'⟩, hreached, hend⟩
  · intro prev hprev hprevKeyed hreached provider ha
    have hnew := (publishSeq_trace_earlier h hprev).key_recorded hprevKeyed.2 hreached
    have hmem : composedKey call.event k ∈ w'.idempotency.seen := by
      rw [hkeyed.composedKey_eq hprevKeyed]
      exact (hkeys _).mpr ⟨prev, hprev, hnew⟩
    -- a call that reached its provider would have recorded the key as new
    have hcalls : calls call.history = [] := by
      by_contra hne
      have hfresh := ht.key_recorded hkeyed.2 hne
      have : (composedKey call.event k, true) ∈
        keyChecks (runOn (bus.publish call.event) w').history := hhistory ▸ hfresh
      exact exec_fresh _ w' this hmem
    exact ⟨ht.duplicate_of_no_calls hkeyed.2 ha hcalls, not_not.mpr hcalls⟩

/-- Two calls with one key while the provider is down: it takes neither the event
nor its dead letter. -/
theorem publishSeq_down : ∃ first second,
    publishSeq wildcardBus [keyedEvent, keyedEvent] (.constant (.error "down")) =
      [first] ++ second :: [] ∧
    (first.event = keyedEvent ∧ second.event = keyedEvent) ∧
    calls first.history ≠ [] ∧ (calls first.history).all (fun c => !c.accepted) = true ∧
    second.value = .error (.duplicate "tenant-a:k1") :=
  ⟨_, _, rfl, ⟨rfl, rfl⟩, List.cons_ne_nil _ _, rfl, rfl⟩

theorem keyedEvent_keyed {event : EventEnvelope} (h : event = keyedEvent) :
    Keyed event tenantA.tenant "k1" := by
  subst h
  exact ⟨rfl, rfl⟩

theorem keyedEvent_admitted : ∃ provider, Admitted wildcardBus keyedEvent provider :=
  ⟨_, rfl, rfl⟩

theorem duplicate_follows_reached_down : ∃ first second,
    publishSeq wildcardBus [keyedEvent, keyedEvent] (.constant (.error "down")) =
      [first] ++ second :: [] ∧
    (first.Accepted ∨ first.FailureReported) ∧ ¬ second.Reached := by
  obtain ⟨first, second, hdone, ⟨hfirst, hsecond⟩, hreached, _, hdup⟩ := publishSeq_down
  obtain ⟨provider, ha⟩ := keyedEvent_admitted
  have hboth := duplicate_follows_reached rfl hdone (keyedEvent_keyed hsecond)
  obtain ⟨prev, hprev, _, _, hend⟩ := hboth.1 ⟨_, hdup⟩
  obtain rfl := List.mem_singleton.mp hprev
  exact ⟨prev, second, hdone, hend, (hboth.2 prev hprev (keyedEvent_keyed hfirst) hreached provider
    (hsecond ▸ ha)).2⟩

/-- Every duplicate follows a call with its tenant id and key whose event was accepted. -/
def DuplicatesFollowAccepted (done : List FinishedCall) : Prop :=
  ∀ earlier call later, done = earlier ++ call :: later → ∀ t k, Keyed call.event t k →
    (∃ key, call.value = .error (.duplicate key)) →
      ∃ prev ∈ earlier, Keyed prev.event t k ∧ prev.Accepted

/-- The caller's second attempt is turned away although nothing was accepted. -/
theorem failed_publish_blocks_retry :
    ¬ DuplicatesFollowAccepted
      (publishSeq wildcardBus [keyedEvent, keyedEvent] (.constant (.error "down"))) := by
  intro h
  obtain ⟨first, second, hdone, ⟨_, hsecond⟩, _, hnone, hdup⟩ := publishSeq_down
  obtain ⟨prev, hprev, _, c, hc, hacc⟩ :=
    h _ _ _ hdone tenantA.tenant "k1" (keyedEvent_keyed hsecond) ⟨_, hdup⟩
  obtain rfl := List.mem_singleton.mp hprev
  have := List.all_eq_true.mp hnone c hc
  simp [hacc] at this

end GreenticEvents
