import GreenticEvents.Bus
import GreenticEvents.Text

/-!
# Building a bus from packs (`EventBusBuilder` in `bus.rs`)
-/

namespace GreenticEvents
open Data

/-- The `events` section of a pack, from `greentic_pack`. -/
structure EventsSection where
  providers : List EventProviderSpec

structure PackSpec where
  packVersion : UInt32
  id : String
  version : String
  annotations : BTreeMap String Json
  events : Option EventsSection

def validateSpec (spec : PackSpec) : Except String Unit :=
  if spec.packVersion ≠ 1 then
    .error s!"unsupported packVersion {spec.packVersion}; expected 1"
  else if isBlank spec.id then .error "pack id must not be empty"
  else if isBlank spec.version then .error "pack version must not be empty"
  else .ok ()

/-- What lies outside: reading and parsing a pack's manifest, and the check that
`greentic_pack` makes of its events section. -/
structure PackLoader where
  read : String → Except String PackSpec
  validate : EventsSection → Except String Unit

def loadSpec (loader : PackLoader) (packDir : String) : Except String PackSpec := do
  let spec ← loader.read packDir
  validateSpec spec
  match spec.events with
  | some events => loader.validate events
  | none => pure ()
  return spec

structure ProviderOverrides where
  retry : Option RetryPolicy
  dlqTopic : Option String

/-- What follows `pre` in a key that starts with it. -/
def afterStart (pre key : String) : Option String :=
  if pre.toList <+: key.toList then some (.ofList (key.toList.drop pre.toList.length)) else none

def strategyOfText (s : String) : BackoffStrategy :=
  match asciiLowercase s with
  | "fixed" => .fixed
  | "exponential" => .exponential
  | _ => .exponentialWithJitter

/-- `retry.get_or_insert_with(RetryPolicy::default)` and an update of it. -/
def ProviderOverrides.setRetry (ov : ProviderOverrides) (f : RetryPolicy → RetryPolicy) :
    ProviderOverrides :=
  { ov with retry := some (f (ov.retry.getD .default)) }

/-- One pass of the loop over the annotations: the setting named by `suffix`. -/
def applyAnnotation (ov : ProviderOverrides) (suffix : String) (value : Json) :
    ProviderOverrides :=
  match suffix with
  | "dlq_topic" =>
    match value.asStr with
    | some s => { ov with dlqTopic := some s }
    | none => ov
  | "retry.max_retries" =>
    match value.asU64 with
    | some v => ov.setRetry fun retry => { retry with maxRetries := v.toUInt32 }
    | none => ov
  | "retry.base_delay_ms" =>
    match value.asU64 with
    | some v => ov.setRetry fun retry => { retry with baseDelay := .fromMillis v }
    | none => ov
  | "retry.max_delay_ms" =>
    match value.asU64 with
    | some v => ov.setRetry fun retry => { retry with maxDelay := .fromMillis v }
    | none => ov
  | "retry.strategy" =>
    match value.asStr with
    | some s => ov.setRetry fun retry => { retry with strategy := strategyOfText s }
    | none => ov
  | "retry.retryable_errors" =>
    match value.asArray with
    | some values => ov.setRetry fun retry =>
        { retry with retryableErrors := values.filterMap Json.asStr }
    | none => ov
  | _ => ov

def providerOverridesFromAnnotations (name : String) (annotations : BTreeMap String Json) :
    Option ProviderOverrides :=
  let pre := "events.providers." ++ name ++ "."
  let ov := annotations.entries.foldl (fun (ov : ProviderOverrides) entry =>
    match afterStart pre entry.1 with
    | some suffix => applyAnnotation ov suffix entry.2
    | none => ov) ⟨none, none⟩
  if ov.retry.isSome || ov.dlqTopic.isSome then some ov else none

/-- `HashMap<String, ProviderOverrides>`. -/
abbrev Overrides := String → Option ProviderOverrides

namespace Overrides

def empty : Overrides := fun _ => none

/-- `entry(name).or_insert(own)` for the overrides a pack has for `name`, if any. -/
def orInsert (m : Overrides) (name : String) (own : Option ProviderOverrides) : Overrides :=
  fun n => if n = name then (m n).or own else m n

end Overrides

/-- `dyn BridgeFactory`; only whether it fails matters here. -/
structure BridgeFactory where
  buildMessageToEvent : String → Except String Unit
  buildEventToMessage : String → Except String Unit

abbrev EventProviderFactory := EventProviderSpec → Except String ProviderInstance

structure EventBusBuilder where
  providers : List ProviderRegistration
  acl : TopicAcl
  overrides : Overrides

namespace EventBusBuilder

def new : EventBusBuilder := ⟨[], ⟨[], true⟩, .empty⟩

def withAcl (b : EventBusBuilder) (rules : List TopicAclRule) : EventBusBuilder :=
  { b with acl := { b.acl with rules } }

def withOverrides (b : EventBusBuilder) (overrides : Overrides) : EventBusBuilder :=
  { b with overrides }

def registerProvider (b : EventBusBuilder) (provider : ProviderRegistration) : EventBusBuilder :=
  { b with providers := b.providers ++ [provider] }

def registration (overrides : Overrides) (spec : EventProviderSpec) (handle : ProviderInstance) :
    ProviderRegistration where
  descriptor := descriptorFromSpec spec
  topics := spec.capabilities.topics
  dlqTopic := (overrides spec.name).bind ProviderOverrides.dlqTopic
  retry := ((overrides spec.name).bind ProviderOverrides.retry).getD .default
  handle := handle

/-- One pass of the loop over the providers of a pack. -/
def registerSpec (annotations : BTreeMap String Json) (factory : EventProviderFactory)
    (bridges : Option BridgeFactory) (b : EventBusBuilder) (spec : EventProviderSpec) :
    Except String EventBusBuilder :=
  let own := providerOverridesFromAnnotations spec.name annotations
  let b := { b with overrides := b.overrides.orInsert spec.name own }
  match spec.kind with
  | .bridge =>
    match bridges with
    | some bridges => do
      (bridges.buildMessageToEvent spec.name).mapError fun _ => "build message->event bridge"
      (bridges.buildEventToMessage spec.name).mapError fun _ => "build event->message bridge"
      return b
    | none => .ok b
  | _ => do
    let handle ← factory spec
    return { b with providers := b.providers ++ [registration b.overrides spec handle] }

def registerFromPackDir (loader : PackLoader) (b : EventBusBuilder) (packDir : String)
    (factory : EventProviderFactory) (bridges : Option BridgeFactory) :
    Except String EventBusBuilder := do
  let spec ← (loadSpec loader packDir).mapError fun _ => "failed to load pack spec"
  match spec.events with
  | some events => events.providers.foldlM (registerSpec spec.annotations factory bridges) b
  | none => return b

/-- What `build` does to one registration. -/
def override (overrides : Overrides) (reg : ProviderRegistration) : ProviderRegistration :=
  match overrides reg.descriptor.name with
  | some ov =>
    { reg with
      dlqTopic := ov.dlqTopic.or reg.dlqTopic
      retry := ov.retry.getD reg.retry }
  | none => reg

def build (b : EventBusBuilder) : EventBus where
  providers := b.providers.map (override b.overrides)
  acl := b.acl

end EventBusBuilder

inductive BuilderCall where
  | withAcl (rules : List TopicAclRule)
  | withOverrides (overrides : Overrides)
  | registerProvider (provider : ProviderRegistration)
  | registerFromPackDir (packDir : String) (factory : EventProviderFactory)
      (bridges : Option BridgeFactory)

def EventBusBuilder.call (loader : PackLoader) (b : EventBusBuilder) :
    BuilderCall → Except String EventBusBuilder
  | .withAcl rules => .ok (b.withAcl rules)
  | .withOverrides overrides => .ok (b.withOverrides overrides)
  | .registerProvider provider => .ok (b.registerProvider provider)
  | .registerFromPackDir packDir factory bridges =>
    b.registerFromPackDir loader packDir factory bridges

/-- All calls in order, from a new builder; the first error ends them. -/
def EventBusBuilder.calls (loader : PackLoader) (cs : List BuilderCall) :
    Except String EventBusBuilder :=
  cs.foldlM (EventBusBuilder.call loader) .new

end GreenticEvents
