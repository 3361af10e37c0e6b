import GreenticEvents.Types
import GreenticEvents.Backoff

/-!
# Provider specs and registrations (`provider.rs`, `greentic_pack::events`)
-/

namespace GreenticEvents

inductive EventProviderKind where
  | broker
  | source
  | sink
  | bridge
  deriving DecidableEq

def EventProviderKind.debug : EventProviderKind → String
  | broker => "Broker"
  | source => "Source"
  | sink => "Sink"
  | bridge => "Bridge"

inductive TransportKind where
  | nats
  | kafka
  | sqs
  | webhook
  | email
  | other (name : String)
  deriving DecidableEq

inductive ReliabilityKind where
  | atMostOnce
  | atLeastOnce
  | effectivelyOnce
  deriving DecidableEq

inductive OrderingKind where
  | none
  | perKey
  | global
  deriving DecidableEq

structure EventProviderCapabilities where
  transport : Option TransportKind
  reliability : Option ReliabilityKind
  ordering : Option OrderingKind
  topics : List String

structure EventProviderSpec where
  name : String
  kind : EventProviderKind
  component : String
  defaultFlow : Option String
  customFlow : Option String
  capabilities : EventProviderCapabilities

structure EventProviderDescriptor where
  name : String
  kind : EventProviderKind
  transport : TransportKind
  reliability : ReliabilityKind
  ordering : OrderingKind
  notes : Option String
  tags : List String

def asciiLowercase (s : String) : String := .ofList (s.toList.map Char.toLower)

/-- The pack's free-form transport names are read without regard to case. -/
def capTransportToTypes : TransportKind → TransportKind
  | .other v =>
    match asciiLowercase v with
    | "nats" => .nats
    | "kafka" => .kafka
    | "sqs" => .sqs
    | "webhook" => .webhook
    | "email" => .email
    | name => .other name
  | kind => kind

def descriptorFromSpec (spec : EventProviderSpec) : EventProviderDescriptor where
  name := spec.name
  kind := spec.kind
  transport := (spec.capabilities.transport.map capTransportToTypes).getD (.other "unspecified")
  reliability := spec.capabilities.reliability.getD .atMostOnce
  ordering := spec.capabilities.ordering.getD .none
  notes := none
  tags := [spec.kind.debug]

/-- An `Arc<dyn EventProvider>`. -/
abbrev ProviderInstance := ℕ

structure ProviderRegistration where
  descriptor : EventProviderDescriptor
  topics : List String
  dlqTopic : Option String
  retry : RetryPolicy
  handle : ProviderInstance

end GreenticEvents
