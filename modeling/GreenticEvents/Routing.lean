import GreenticEvents.Concurrency
import GreenticEvents.Runner

/-!
# Where publishes and subscriptions go

A publish and a subscription are each handed to the first provider whose
patterns match their topic; a dead letter goes to the provider that failed.
-/

namespace GreenticEvents
open Effects Prog

variable {bus : EventBus} {topic : String} {provider : ProviderRegistration}

theorem providerForTopic_eq_ok :
    bus.providerForTopic topic = .ok provider ↔ FirstMatch bus.providers topic provider := by
  constructor
  · exact providerForTopic_ok
  · rintro ⟨earlier, later, hlist, ⟨pattern, hpat, hm⟩, hnone⟩
    have hfind : bus.providers.find? (fun p => p.topics.any fun pattern =>
        matchesPattern pattern topic) = some provider := by
      apply List.find?_eq_some_iff_append.mpr
      refine ⟨List.any_eq_true.mpr ⟨pattern, hpat, hm⟩, earlier, later, hlist, fun p hmem => ?_⟩
      rw [Bool.not_eq_true', List.any_eq_false]
      exact hnone p hmem
    rw [EventBus.providerForTopic, hfind]

theorem FirstMatch.unique {providers : List ProviderRegistration}
    {p q : ProviderRegistration} (hp : FirstMatch providers topic p)
    (hq : FirstMatch providers topic q) : p = q := by
  let bus : EventBus := ⟨providers, ⟨[], true⟩⟩
  have hroute : bus.providerForTopic topic = .ok p := providerForTopic_eq_ok.mpr hp
  have hroute' : bus.providerForTopic topic = .ok q := providerForTopic_eq_ok.mpr hq
  exact Except.ok.inj (hroute.symm.trans hroute')

/-- The registration to which `EventBus::subscribe` hands its request. -/
def EventBus.subscribedProvider (bus : EventBus) (topic : String) (tenant : TenantCtx) :
    Result ProviderRegistration :=
  match bus.acl.allowSubscribe tenant topic with
  | .error err => .error err
  | .ok () => bus.providerForTopic topic

/-- A subscription asks its provider, with the topic as it was given, or nobody. -/
theorem subscribe_eq (runner : ProviderInstance → RunnerBrokerProvider) (tenant : TenantCtx)
    (options : SubscriptionOptions) :
    bus.subscribe runner topic tenant options =
      match bus.subscribedProvider topic tenant with
      | .error err => .ret (.error err)
      | .ok provider => do
        match ← (runner provider.handle).subscribe topic tenant options with
        | .error err => return .error (.other err)
        | .ok task => return .ok task := by
  unfold EventBus.subscribe EventBus.subscribedProvider
  cases bus.acl.allowSubscribe tenant topic with
  | error err => rfl
  | ok u => cases bus.providerForTopic topic <;> rfl

theorem subscribedProvider_ok {tenant : TenantCtx} :
    bus.subscribedProvider topic tenant = .ok provider ↔
      bus.acl.allowSubscribe tenant topic = .ok () ∧ FirstMatch bus.providers topic provider := by
  rw [← providerForTopic_eq_ok, EventBus.subscribedProvider]
  cases bus.acl.allowSubscribe tenant topic with
  | error err => simp
  | ok u => simp

variable {event : EventEnvelope} {h : BusHistory}

def HandedTo (h : BusHistory) (event : EventEnvelope) (provider : ProviderRegistration) : Prop :=
  ∃ call ∈ calls h, call.provider = provider.handle ∧ call.event = event ∧ call.result = .ok ()

/-- A publish that returns `Ok` called its provider alone, and last with success. -/
theorem delivered_calls (hr : Runs (bus.publish event) h (.ret (.ok ()))) :
    ∃ provider errs, Admitted bus event provider ∧
      calls h = failedCalls provider event errs ++ [⟨provider.handle, event, .ok ()⟩] := by
  have ht := publish_returned hr
  rw [← footprint_calls]
  generalize footprint h = f at ht ⊢
  cases ht with
  | passed provider ha hd =>
    cases hd with
    | delivered errs => exact ⟨provider, errs, ha, rfl⟩

/-- A publish that returns `DeliveryFailed` handed its dead letter to the provider
that failed. -/
theorem deadLettered_calls {name reason : String}
    (hr : Runs (bus.publish event) h (.ret (.error (.deliveryFailed name reason)))) :
    ∃ provider errs result, Admitted bus event provider ∧ name = provider.descriptor.name ∧
      calls h = failedCalls provider event (errs ++ [reason]) ++
        [deadLetterCall provider event reason result] := by
  have ht := publish_returned hr
  rw [← footprint_calls]
  generalize footprint h = f at ht ⊢
  cases ht with
  | denied refused => cases TopicAcl.check_error refused
  | unrouted _ unrouted => cases providerForTopic_error unrouted
  | passed provider ha hd =>
    cases hd with
    | reported errs _ result => exact ⟨provider, errs, result, ha, rfl, rfl⟩

theorem handedTo_iff (hr : Runs (bus.publish event) h (.ret (.ok ()))) :
    HandedTo h event provider ↔
      ∃ first, FirstMatch bus.providers event.topic first ∧ first.handle = provider.handle := by
  obtain ⟨first, errs, ha, hcalls⟩ := delivered_calls hr
  have hfirst := providerForTopic_ok ha.routed
  constructor
  · rintro ⟨call, hmem, hto, -, hok⟩
    rw [hcalls, failedCalls] at hmem
    rcases List.mem_append.mp hmem with hfailed | hlast
    · obtain ⟨err, -, rfl⟩ := List.mem_map.mp hfailed
      exact absurd hok (by simp)
    · obtain rfl := List.mem_singleton.mp hlast
      exact ⟨first, hfirst, hto⟩
  · rintro ⟨first', hfirst', hsame⟩
    obtain rfl := hfirst.unique hfirst'
    exact ⟨_, hcalls ▸ List.mem_append_right _ List.mem_cons_self, hsame, rfl, rfl⟩

/-- Every publish that `p` covers and that returns `Ok` was handed to `provider`. -/
def MissesNothing (bus : EventBus) (p : String) (provider : ProviderRegistration) : Prop :=
  ∀ event h, Runs (bus.publish event) h (.ret (.ok ())) → matchesPattern p event.topic = true →
    HandedTo h event provider

def plainEvent (tenant : TenantCtx) (topic : String) : EventEnvelope where
  id := ⟨"evt-1"⟩
  topic := topic
  type := "created"
  source := "shop"
  tenant := tenant
  subject := none
  time := ⟨0⟩
  correlationId := none
  payload := .null
  metadata := .empty

/-- An admitted publish whose provider accepts the event at once. -/
def acceptedHistory (provider : ProviderRegistration) (event : EventEnvelope) : BusHistory :=
  [⟨.aclCheck, ()⟩, ⟨.routing, ()⟩, ⟨.record .eventsIn, ()⟩,
    ⟨.publish provider.handle event, .ok ()⟩, ⟨.record .eventsOut, ()⟩]

theorem acceptedHistory_runs {tenant : TenantCtx}
    (ha : Admitted bus (plainEvent tenant topic) provider) :
    Runs (bus.publish (plainEvent tenant topic))
      (acceptedHistory provider (plainEvent tenant topic)) (.ret (.ok ())) := by
  have hnone : (plainEvent tenant topic).metadata.get "idempotency_key" = none := rfl
  simp only [EventBus.publish, ha.allowed, ha.routed, publishRouted, hnone, deliver,
    publishWithRetry, retryLoop, acceptedHistory, BusProg.aclCheck, BusProg.routing,
    BusProg.record, BusProg.publish]
  exact .step rfl (.step rfl (.step rfl (.step rfl (.step rfl (.refl _)))))

/-- A subscription without wildcards misses nothing.  One with wildcards misses
nothing exactly when all topics it covers, as far as they can be published, have
their first match in the instance that the subscription went to. -/
theorem missesNothing_iff {p : String} {tenant : TenantCtx}
    (hsub : bus.subscribedProvider p tenant = .ok provider) :
    (Concrete p → MissesNothing bus p provider) ∧
    (MissesNothing bus p provider ↔
      ∀ t publisher first, matchesPattern p t = true → bus.acl.allowPublish publisher t = .ok () →
        FirstMatch bus.providers t first → first.handle = provider.handle) := by
  constructor
  · -- without wildcards `p` covers itself only, and routing it twice gives one registration
    intro hp event h hr hm
    have htopic := (matchesPattern_concrete hp event.topic).mp hm
    exact (handedTo_iff hr).mpr ⟨provider, htopic ▸ (subscribedProvider_ok.mp hsub).2, rfl⟩
  · constructor
    · -- a provider may accept the first event that it is handed on `t`
      intro hmiss t publisher first hm hallowed hfirst
      have ha : Admitted bus (plainEvent publisher t) first :=
        ⟨hallowed, providerForTopic_eq_ok.mpr hfirst⟩
      have hr := acceptedHistory_runs ha
      obtain ⟨first', hfirst', hsame⟩ := (handedTo_iff hr).mp (hmiss _ _ hr hm)
      rw [hfirst.unique hfirst', hsame]
    · intro hall event h hr hm
      obtain ⟨first, errs, ha, -⟩ := delivered_calls hr
      have hfirst := providerForTopic_ok ha.routed
      exact (handedTo_iff hr).mpr ⟨first, hfirst, hall _ _ first hm ha.allowed hfirst⟩

/-- A broker registered for `topics`, without retries. -/
def brokerFor (topics : List String) (handle : ProviderInstance) : ProviderRegistration where
  descriptor := ⟨"broker", .broker, .nats, .atMostOnce, .none, none, []⟩
  topics := topics
  dlqTopic := none
  retry := { RetryPolicy.default with maxRetries := 0 }
  handle := handle

/-- One provider for `orders`, and one for everything else. -/
def ordersBus : EventBus := ⟨[brokerFor ["orders"] 0, brokerFor ["*"] 1], ⟨[], true⟩⟩

theorem ordersBus_routes :
    ordersBus.subscribedProvider "orders" tenantA = .ok (brokerFor ["orders"] 0) ∧
      ordersBus.subscribedProvider "order*" tenantA = .ok (brokerFor ["*"] 1) := by
  exact ⟨rfl, rfl⟩

theorem missesNothing_iff_orders :
    MissesNothing ordersBus "orders" (brokerFor ["orders"] 0) :=
  (missesNothing_iff ordersBus_routes.1).1 (by decide)

/-- A subscription to `order*` does not see what is published to `orders`. -/
theorem wildcard_subscription_misses :
    ¬ ∀ (bus : EventBus) (p : String) (tenant : TenantCtx) (provider : ProviderRegistration),
      bus.subscribedProvider p tenant = .ok provider → MissesNothing bus p provider := by
  intro hall
  have ha : Admitted ordersBus (plainEvent tenantA "orders") (brokerFor ["orders"] 0) :=
    ⟨by decide, rfl⟩
  have hhanded := hall _ _ _ _ ordersBus_routes.2 _ _ (acceptedHistory_runs ha) (by decide)
  obtain ⟨call, hmem, hto, -⟩ := hhanded
  obtain rfl := List.mem_singleton.mp hmem
  exact absurd hto (by decide)

/-- A subscription on the topic of the dead letter is routed to `provider`. -/
def ReadsBack (bus : EventBus) (event : EventEnvelope) (reason : String)
    (provider : ProviderRegistration) (tenant : TenantCtx) : Prop :=
  bus.subscribedProvider (deadLetter provider event reason).topic tenant = .ok provider

/-- A failed publish gives its dead letter to the registration it was routed to, past
the routing.  A subscription on the topic of the dead letter reaches that registration
exactly when the ACL allows it and no earlier registration takes the topic. -/
theorem deadLetter_readsBack_iff {name reason : String}
    (hr : Runs (bus.publish event) h (.ret (.error (.deliveryFailed name reason)))) :
    ∃ provider errs result, FirstMatch bus.providers event.topic provider ∧
      calls h = failedCalls provider event errs ++ [deadLetterCall provider event reason result] ∧
      ∀ tenant, ReadsBack bus event reason provider tenant ↔
        let dlqTopic := provider.dlqTopic.getD (event.topic ++ ".dlq")
        bus.acl.allowSubscribe tenant dlqTopic = .ok () ∧
          FirstMatch bus.providers dlqTopic provider := by
  obtain ⟨provider, errs, result, ha, -, hcalls⟩ := deadLettered_calls hr
  have hfirst := providerForTopic_ok ha.routed
  exact ⟨provider, errs ++ [reason], result, hfirst, hcalls, fun _ => subscribedProvider_ok⟩

def refusedPublish (topic : String) :
    Outcome busInterface (World InMemoryIdempotencyStore) (Result Unit) :=
  ordersBus.execPublish InMemoryIdempotencyStore.store (plainEvent tenantA topic)
    (.constant (.error "down"))

theorem refusedPublish_runs (topic : String) {r : Result Unit}
    (hr : (refusedPublish topic).value = r) :
    Runs (ordersBus.publish (plainEvent tenantA topic)) (refusedPublish topic).history (.ret r) :=
  hr ▸ exec_runs ..

theorem deadLetter_readsBack_iff_invoices :
    ReadsBack ordersBus (plainEvent tenantA "invoices") "down" (brokerFor ["*"] 1) tenantA := by
  have hrun := refusedPublish_runs "invoices" rfl
  obtain ⟨provider, errs, result, hfirst, -, hreads⟩ := deadLetter_readsBack_iff hrun
  have hrouted : ordersBus.providerForTopic "invoices" = .ok (brokerFor ["*"] 1) := rfl
  obtain rfl := hfirst.unique (providerForTopic_ok hrouted)
  exact (hreads tenantA).mpr (subscribedProvider_ok.mp rfl)

/-- The dead letters of the provider for `orders` cannot be subscribed to: the
subscription goes to the other provider. -/
theorem deadLetter_unreachable :
    ¬ ∀ (bus : EventBus) (event : EventEnvelope) (h : BusHistory) (name reason : String)
        (provider : ProviderRegistration) (tenant : TenantCtx),
      Runs (bus.publish event) h (.ret (.error (.deliveryFailed name reason))) →
      FirstMatch bus.providers event.topic provider →
      ReadsBack bus event reason provider tenant := by
  intro hall
  have hrun := refusedPublish_runs "orders" rfl
  have hrouted : ordersBus.providerForTopic "orders" = .ok (brokerFor ["orders"] 0) := rfl
  have hreads := hall _ _ _ _ _ _ tenantA hrun (providerForTopic_ok hrouted)
  have hother : ordersBus.subscribedProvider "orders.dlq" tenantA = .ok (brokerFor ["*"] 1) := rfl
  have hsame := congrArg (fun r => r.toOption.map ProviderRegistration.handle)
    (hother.symm.trans hreads)
  exact absurd hsame (by decide)

end GreenticEvents
