import GreenticEvents.Concurrency

/-!
# Idempotency between tenants

The calls of one tenant get the same answers from the idempotency store whether
or not other tenants publish on the bus.
-/

namespace GreenticEvents
open Data Effects Prog

/-- `key` is composed from tenant id `t` and some idempotency key. -/
def ComposedFor (t : TenantId) (key : String) : Prop :=
  ∃ event k, event.tenant.tenant = t ∧ key = composedKey event k

theorem ComposedFor.unique {t t' : TenantId} {key : String} (h : ComposedFor t key)
    (h' : ComposedFor t' key) : t = t' := by
  obtain ⟨event, k, rfl, hkey⟩ := h
  obtain ⟨event', k', rfl, hkey'⟩ := h'
  exact (composedKey_injective (hkey.symm.trans hkey')).1

theorem DeliverTrace.keys_nil {provider : ProviderRegistration} {event : EventEnvelope}
    {f : Footprint} {v : Option (Result Unit)} (ht : DeliverTrace provider event f v) :
    f.keys = [] := by
  cases ht with
  | retrying hretry => cases hretry <;> rfl
  | _ => rfl

/-- A call checks no key but the one composed from its own event. -/
theorem PublishTrace.mem_keys {bus : EventBus} {event : EventEnvelope} {f : Footprint}
    {v : Option (Result Unit)} {key : String} {fresh : Bool} (ht : PublishTrace bus event f v)
    (hmem : (key, fresh) ∈ f.keys) : ComposedFor event.tenant.tenant key := by
  have hpassed (h : (key, fresh) ∈ passedKeys event) : ComposedFor event.tenant.tenant key := by
    unfold passedKeys at h
    split at h
    · next k _ => exact ⟨event, k, rfl, (Prod.mk.inj (List.mem_singleton.mp h)).1⟩
    · exact absurd h List.not_mem_nil
  cases ht with
  | duplicate provider ha k =>
    exact ⟨event, k, rfl, (Prod.mk.inj (List.mem_singleton.mp hmem)).1⟩
  | passed provider ha hd =>
    rw [hd.keys_nil, List.append_nil] at hmem
    exact hpassed hmem
  | _ => exact absurd hmem List.not_mem_nil

/-- A publish asks the store only for keys of its event's tenant. -/
theorem recordKey_asked {bus : EventBus} {event : EventEnvelope} {h : BusHistory} {key : String}
    {fresh : Bool} {q : BusProg (Result Unit)}
    (hr : Runs (bus.publish event) (h ++ [⟨.recordKey key, fresh⟩]) q) :
    ComposedFor event.tenant.tenant key := by
  have hmem : (key, fresh) ∈ keyChecks (h ++ [⟨.recordKey key, fresh⟩]) :=
    mem_keyChecks.mpr (List.mem_append_right h List.mem_cons_self)
  exact (publish_runs hr).mem_keys hmem

/-- The two stores hold the same keys of tenant `t`. -/
def SameKeysFor (t : TenantId) (s s' : BusState InMemoryIdempotencyStore) : Prop :=
  ∀ key, ComposedFor t key → (key ∈ s.idempotency.seen ↔ key ∈ s'.idempotency.seen)

namespace SameKeysFor

variable {t : TenantId} {s s' r r' : BusState InMemoryIdempotencyStore}

theorem of_eq (hs : SameKeysFor t s r) (h : s'.idempotency = s.idempotency)
    (h' : r'.idempotency = r.idempotency) : SameKeysFor t s' r' := by
  intro key hkey
  rw [h, h']
  exact hs key hkey

/-- The same answer, and the same keys after it. -/
theorem recordKey {key : String} (hs : SameKeysFor t s r) (hkey : ComposedFor t key) :
    (s.idempotency.recordKey key).1 = (r.idempotency.recordKey key).1 ∧
      ∀ key', ComposedFor t key' → (key' ∈ (s.idempotency.recordKey key).2.seen ↔
        key' ∈ (r.idempotency.recordKey key).2.seen) := by
  constructor
  · rw [Bool.eq_iff_iff, InMemoryIdempotencyStore.recordKey_fst,
      InMemoryIdempotencyStore.recordKey_fst, hs key hkey]
  · intro key' hkey'
    rw [InMemoryIdempotencyStore.mem_recordKey, InMemoryIdempotencyStore.mem_recordKey,
      hs key' hkey']

/-- A step of the first state alone that records no key of `t`. -/
theorem left {e : Event busInterface} (hs : SameKeysFor t s r)
    (hstep : BusState.handle InMemoryIdempotencyStore.store s e s')
    (hother : ∀ key fresh, e = ⟨.recordKey key, fresh⟩ → ¬ ComposedFor t key) :
    SameKeysFor t s' r := by
  obtain ⟨o, a⟩ := e
  cases o with
  | recordKey key =>
    obtain ⟨_, rfl⟩ := hstep
    intro key' hkey'
    have hne : key' ≠ key := fun he => hother key a rfl (he ▸ hkey')
    rw [← hs key' hkey']
    exact InMemoryIdempotencyStore.mem_recordKey.trans (or_iff_right hne)
  | _ =>
    cases hstep
    exact hs.of_eq rfl rfl

/-- A step that both states can take, with the same answer. -/
theorem both {e : Event busInterface} (hs : SameKeysFor t s r)
    (hstep : BusState.handle InMemoryIdempotencyStore.store s e s')
    (hown : ∀ key fresh, e = ⟨.recordKey key, fresh⟩ → ComposedFor t key) :
    ∃ r', BusState.handle InMemoryIdempotencyStore.store r e r' ∧ SameKeysFor t s' r' := by
  obtain ⟨o, a⟩ := e
  cases o with
  | recordKey key =>
    obtain ⟨rfl, rfl⟩ := hstep
    obtain ⟨hfresh, hkeys⟩ := hs.recordKey (hown key _ rfl)
    exact ⟨_, ⟨hfresh, rfl⟩, hkeys⟩
  | record m =>
    -- the counters may differ between the two states, the stores do not change
    cases hstep
    exact ⟨_, rfl, hs.of_eq rfl rfl⟩
  | _ =>
    cases hstep
    exact ⟨r, rfl, hs⟩

end SameKeysFor

variable {ι : Type} [DecidableEq ι] {bus : EventBus} {event : ι → EventEnvelope}
  {s₀ : BusState InMemoryIdempotencyStore} {log : BusLog ι}
  {c : Config ι (BusState InMemoryIdempotencyStore) (BusProg (Result Unit))}

abbrev PublishesFor (event : ι → EventEnvelope) (t : TenantId) (i : ι) : Prop :=
  (event i).tenant.tenant = t

/-- Leaving out every publish of another tenant leaves a run of the bus in which each
call of `t` takes the same steps, with the same key decisions and the same result. -/
theorem decisions_without_other_tenants
    (hr : (busSystem fun _ => InMemoryIdempotencyStore.store).Run
      (publishing (fun _ => bus) event s₀) log c) (t : TenantId) :
    (∃ c', (busSystem fun _ => InMemoryIdempotencyStore.store).Run
        (publishing (fun _ => bus) event s₀) (restrict (PublishesFor event t) log) c' ∧
      ∀ i, PublishesFor event t i → c'.proc i = c.proc i) ∧
    ∀ i, keyChecks (localHistory i (restrict (PublishesFor event t) log)) =
      if PublishesFor event t i then keyChecks (localHistory i log) else [] := by
  have hasked (i : ι) (h : BusHistory) (e : Event busInterface) (q : BusProg (Result Unit))
      (hp : Runs (bus.publish (event i)) (h ++ [e]) q) (key : String) (fresh : Bool)
      (he : e = ⟨.recordKey key, fresh⟩) : ComposedFor (event i).tenant.tenant key := by
    subst he
    exact recordKey_asked hp
  have hkept (i : ι) (h : BusHistory) (e : Event busInterface) (q : BusProg (Result Unit))
      (s s' r : BusState InMemoryIdempotencyStore) (hi : PublishesFor event t i)
      (hp : Runs (bus.publish (event i)) (h ++ [e]) q) (hs : SameKeysFor t s r)
      (hstep : BusState.handle InMemoryIdempotencyStore.store s e s') :
      ∃ r', BusState.handle InMemoryIdempotencyStore.store r e r' ∧ SameKeysFor t s' r' := by
    -- the call asks for keys of `t` only, on which the two stores agree
    apply hs.both hstep
    intro key fresh he
    exact hi ▸ hasked i h e q hp key fresh he
  have hdropped (i : ι) (h : BusHistory) (e : Event busInterface) (q : BusProg (Result Unit))
      (s s' r : BusState InMemoryIdempotencyStore) (hi : ¬ PublishesFor event t i)
      (hp : Runs (bus.publish (event i)) (h ++ [e]) q) (hs : SameKeysFor t s r)
      (hstep : BusState.handle InMemoryIdempotencyStore.store s e s') : SameKeysFor t s' r := by
    -- the keys of another tenant are no keys of `t`
    apply hs.left hstep
    intro key fresh he hkey
    exact hi ((hasked i h e q hp key fresh he).unique hkey)
  have hsame : SameKeysFor t s₀ s₀ := fun _ _ => Iff.rfl
  constructor
  · obtain ⟨c', hr', _, hproc⟩ := hr.restricted hsame hkept hdropped fun e => nomatch e
    exact ⟨c', hr', hproc⟩
  · intro i
    rw [localHistory_restrict]
    split_ifs <;> rfl

/-- Two tenants use the same key. -/
def twoTenants : Bool → EventEnvelope
  | false => { keyedEvent with tenant := tenantB }
  | true => keyedEvent

def twoTenantsLog : BusLog Bool :=
  let store := InMemoryIdempotencyStore.store
  let first := wildcardBus.execPublish store (twoTenants false) (.constant (.ok ()))
  let second := wildcardBus.execPublish store (twoTenants true) first.state
  first.history.map (.act false) ++ second.history.map (.act true)

theorem twoTenantsLog_run :
    ∃ c, (busSystem fun _ => InMemoryIdempotencyStore.store).Run
      (publishing (fun _ => wildcardBus) twoTenants (World.constant (.ok ())).toBusState)
      twoTenantsLog c := by
  have first := execPublish_run (fun _ => InMemoryIdempotencyStore.store) wildcardBus
    (twoTenants false) false (World.constant (.ok ())) (fun i => wildcardBus.publish (twoTenants i))
    rfl
  exact ⟨_, first.trans (execPublish_run _ wildcardBus (twoTenants true) true _ _ rfl)⟩

theorem decisions_without_other_tenants_twoTenants :
    (∃ c, (busSystem fun _ => InMemoryIdempotencyStore.store).Run
      (publishing (fun _ => wildcardBus) twoTenants (World.constant (.ok ())).toBusState)
      (restrict (PublishesFor twoTenants tenantA.tenant) twoTenantsLog) c) ∧
    keyChecks (localHistory true
      (restrict (PublishesFor twoTenants tenantA.tenant) twoTenantsLog)) =
      [("tenant-a:k1", true)] := by
  obtain ⟨c, hr⟩ := twoTenantsLog_run
  obtain ⟨⟨c', hr', _⟩, hkeys⟩ := decisions_without_other_tenants hr tenantA.tenant
  refine ⟨⟨c', hr'⟩, ?_⟩
  rw [hkeys true]
  decide

end GreenticEvents
