import GreenticEvents.Builder
import GreenticEvents.Routing

/-!
# The subscription check of the harness (`e2e.rs`)

The dry run subscribes to one topic, made from the broker's first pattern, and
publishes on it.
-/

namespace GreenticEvents
open EventBusBuilder

/-- `pattern.replace('*', "test")` where there is a star. -/
def sampleTopic (pattern : String) : String :=
  if '*' ∈ pattern.toList then
    .ofList (pattern.toList.flatMap fun c => if c = '*' then "test".toList else [c])
  else pattern

def registrationFromSpec (spec : EventProviderSpec) (handle : ProviderInstance) :
    ProviderRegistration where
  descriptor := descriptorFromSpec spec
  topics := spec.capabilities.topics
  dlqTopic := none
  retry := .default
  handle := handle

/-- The bus of `FixtureSubscriptionRunner::sync`. -/
def dryRunBus (spec : EventProviderSpec) (handle : ProviderInstance) : EventBus :=
  (new.registerProvider (registrationFromSpec spec handle)).build

/-- The topic that `FixtureSubscriptionRunner::sync` tries. -/
def subscriptionTopic (spec : EventProviderSpec) : String :=
  match spec.capabilities.topics.head? with
  | some pattern => sampleTopic pattern
  | none => "greentic.events.test"

theorem sampleTopic_toList (pattern : String) : (sampleTopic pattern).toList =
    pattern.toList.flatMap fun c => if c = '*' then "test".toList else [c] := by
  unfold sampleTopic
  split_ifs with hstar
  · rw [String.toList_ofList]
  · have hself : ∀ c ∈ pattern.toList, (if c = '*' then "test".toList else [c]) = [c] := by
      intro c hc
      rw [if_neg]
      rintro rfl
      exact hstar hc
    rw [List.flatMap_congr hself, List.flatMap_singleton']

theorem star_not_mem_sampleTopic (pattern : String) : '*' ∉ (sampleTopic pattern).toList := by
  rw [sampleTopic_toList, List.mem_flatMap]
  rintro ⟨c, -, hmem⟩
  split_ifs at hmem with hc
  · exact absurd hmem (by decide)
  · exact hc (List.mem_singleton.mp hmem).symm

theorem matchesPattern_sampleTopic (pattern : String) :
    matchesPattern pattern (sampleTopic pattern) = true := by
  refine matchesPattern_flatMap (fun c hc => ?_) (sampleTopic_toList pattern)
    (star_not_mem_sampleTopic pattern)
  rw [if_neg hc, List.flatMap_singleton]
  exact fits_refl _

/-- A pattern matches its sample, and so the dry-run bus hands a subscription to the sample of
the first pattern, and an event on it, to the broker. -/
theorem sampleTopic_routed (p : String) :
    matchesPattern p (sampleTopic p) = true ∧
      ∀ (spec : EventProviderSpec) (handle : ProviderInstance),
        spec.capabilities.topics.head? = some p →
          (∀ tenant, (dryRunBus spec handle).subscribedProvider (subscriptionTopic spec) tenant =
            .ok (registrationFromSpec spec handle)) ∧
          ∀ event : EventEnvelope, event.topic = subscriptionTopic spec →
            Admitted (dryRunBus spec handle) event (registrationFromSpec spec handle) := by
  have hmatch := matchesPattern_sampleTopic p
  refine ⟨hmatch, ?_⟩
  intro spec handle hfirst
  have htopic : subscriptionTopic spec = sampleTopic p := by
    rw [subscriptionTopic, hfirst]
  -- the bus has this one provider
  have hbroker : FirstMatch (dryRunBus spec handle).providers (sampleTopic p)
      (registrationFromSpec spec handle) :=
    ⟨[], [], rfl, ⟨p, List.mem_of_head? hfirst, hmatch⟩, by simp⟩
  rw [htopic]
  constructor
  · intro tenant
    exact subscribedProvider_ok.mpr ⟨TopicAcl.check_ok.mpr rfl, hbroker⟩
  · intro event hevent
    refine ⟨TopicAcl.check_ok.mpr rfl, ?_⟩
    rw [hevent]
    exact providerForTopic_eq_ok.mpr hbroker

def shopSpec : EventProviderSpec where
  name := "shop"
  kind := .broker
  component := "shop-broker"
  defaultFlow := none
  customFlow := none
  capabilities := ⟨none, none, none, ["shop.*.?", "shop"]⟩

theorem sampleTopic_routed_shop :
    (dryRunBus shopSpec 0).subscribedProvider "shop.test.?" tenantA =
      .ok (registrationFromSpec shopSpec 0) := by
  have htopic : subscriptionTopic shopSpec = "shop.test.?" := by decide
  rw [← htopic]
  exact ((sampleTopic_routed "shop.*.?").2 shopSpec 0 rfl).1 tenantA

end GreenticEvents
