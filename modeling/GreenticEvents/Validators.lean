import GreenticEvents.Manifest

/-!
# The pack validators

The native validators of `greentic-events-validate`, each behind its own gate, and
the WASM component of `greentic-events-pack-validator`, behind one.
-/

namespace GreenticEvents
open RetryPolicy

/-- What the validators take from `greentic_types`. -/
structure GreenticTypes where
  providerExtensionId : String
  decodePackManifest : List UInt8 → Option PackManifest

variable (types : GreenticTypes)

def missingEntryFlow (flowId : String) : String :=
  s!"Entry flow '{flowId}' is missing from manifest.flows."

def invalidTopic (value : String) : String :=
  "Event topic '" ++ value ++ "' must match ^[a-z0-9]+(\\.[a-z0-9_-]+)+$."

namespace Native

inductive Severity where
  | warn
  | error
  deriving DecidableEq

structure Diagnostic where
  severity : Severity
  code : String
  message : String
  path : Option String
  hint : Option String
  data : Json

def diagnostic (severity : Severity) (code message : String) (path hint : Option String) :
    Diagnostic :=
  ⟨severity, code, message, path, hint, .null⟩

def isEventsPack (manifest : PackManifest) : Bool :=
  startsWith manifest.packId "events-" ||
    manifest.providers.any fun provider =>
      startsWith provider.providerType "events." ||
      schemaRefContainsEvents provider.configSchemaRef ||
      provider.stateSchemaRef.any schemaRefContainsEvents

structure PackValidator where
  id : String
  applies : PackManifest → Bool
  validate : PackManifest → List Diagnostic

def validateProvider (provider : ProviderDecl) : List Diagnostic :=
  (if isBlank provider.configSchemaRef then
    [diagnostic .error "EVT_PROVIDER_SCHEMA_EMPTY"
      s!"Provider '{provider.providerType}' must declare a non-empty config schema reference."
      (some (s!"extensions.{types.providerExtensionId}.providers." ++
        s!"{provider.providerType}.config_schema_ref"))
      (some "Set config_schema_ref to a schema path or URL.")]
  else []) ++
  if provider.ops.isEmpty then
    [diagnostic .warn "EVT_PROVIDER_NO_OPS"
      s!"Provider '{provider.providerType}' declares no operations."
      (some s!"extensions.{types.providerExtensionId}.providers.{provider.providerType}.ops")
      (some "Declare at least one operation when the provider is implemented.")]
  else []

def eventsProviderDeclValidator : PackValidator where
  id := "events.provider-decl"
  applies := isEventsPack
  validate manifest := manifest.providers.flatMap (validateProvider types)

def validateTopic (manifest : PackManifest) : List Diagnostic :=
  match manifestAnnotationValue manifest topicAnnotationKeys with
  | some value =>
    if isValidEventTopic value then []
    else
      [diagnostic .error "EVT_INVALID_TOPIC" (invalidTopic value)
        (some "extensions.*.annotations.event.topic")
        (some "Use lowercase dot-separated segments, e.g. 'events.order.created'.")]
  | none => []

def validateType (manifest : PackManifest) : List Diagnostic :=
  match manifestAnnotationValue manifest typeAnnotationKeys with
  | some value =>
    if isBlank value || !isReverseDns value then
      [diagnostic .warn "EVT_SUSPECT_TYPE_FORMAT"
        ("Event type '" ++ value ++
          "' should be non-empty and reverse-DNS (com., org., ai.greentic.).")
        (some "extensions.*.annotations.event.type")
        (some "Prefer reverse-DNS identifiers such as 'com.example.events.created'.")]
    else []
  | none => []

def eventsTopicTypeFormatValidator : PackValidator where
  id := "events.topic-type-format"
  applies := isEventsPack
  validate manifest := validateTopic manifest ++ validateType manifest

def isHandlerName (flowId : String) : Bool := startsWith flowId "handle_" || startsWith flowId "on_"

def handlesEvents (manifest : PackManifest) : Bool :=
  ((manifestEntryFlows manifest).any fun flow => contains flow "events" || isHandlerName flow) ||
    manifest.flows.any fun entry => isHandlerName entry.id

/-- The hash map of the flows: a later entry replaces an earlier one with its id. -/
def flowIndex (manifest : PackManifest) (flowId : String) : Option PackFlowEntry :=
  manifest.flows.reverse.find? fun entry => entry.id = flowId

def wrongSchemaVersion (flowId : String) : Diagnostic :=
  diagnostic .error "EVT_HANDLER_FLOW_MISSING"
    s!"Handler flow '{flowId}' must be a flow-v1 schema." (some s!"flows.{flowId}.schema_version")
    (some "Ensure the flow schema_version is 'flow-v1'.")

def validateEntryFlow (manifest : PackManifest) (flowId : String) : List Diagnostic :=
  (if (flowIndex manifest flowId).isSome then []
  else
    [diagnostic .error "EVT_ENTRY_FLOW_MISSING" (missingEntryFlow flowId) (some "meta.entry_flows")
      (some "Add the flow entry or update the entry_flows list.")]) ++
  if startsWith flowId "handle_" then
    match flowIndex manifest flowId with
    | some entry => if entry.schemaVersion ≠ "flow-v1" then [wrongSchemaVersion flowId] else []
    | none =>
      [diagnostic .error "EVT_HANDLER_FLOW_MISSING" s!"Handler flow '{flowId}' is missing."
        (some s!"flows.{flowId}") (some "Add the handler flow entry to the manifest.")]
  else []

def validateFlow (entry : PackFlowEntry) : List Diagnostic :=
  if startsWith entry.id "handle_" && entry.schemaVersion != "flow-v1" then
    [wrongSchemaVersion entry.id]
  else []

def eventsHandlerFlowValidator : PackValidator where
  id := "events.handler-flow"
  applies manifest := isEventsPack manifest && handlesEvents manifest
  validate manifest := (manifestEntryFlows manifest).flatMap (validateEntryFlow manifest) ++
    manifest.flows.flatMap validateFlow

def eventsValidators : List PackValidator :=
  [eventsProviderDeclValidator types, eventsTopicTypeFormatValidator, eventsHandlerFlowValidator]

def runValidators (manifest : PackManifest) : List Diagnostic :=
  (eventsValidators types).flatMap fun validator =>
    if validator.applies manifest then validator.validate manifest else []

end Native

namespace Wasm

structure Diagnostic where
  severity : String
  code : String
  message : String
  path : Option String
  hint : Option String

structure PackInputs where
  manifestCbor : List UInt8
  fileIndex : List String

def isEventsPack (manifest : PackManifest) (fileIndex : List String) : Bool :=
  startsWith manifest.packId "events-" ||
    (fileIndex.any fun path => contains path "schemas/events/") ||
    manifest.providers.any fun provider => startsWith provider.providerType "events."

def extractSchemaPath (value : String) : Option String := findFrom value "schemas/"

def fileIndexContains (fileIndex : List String) (path : String) : Bool :=
  fileIndex.any fun entry => entry == path

/-- One schema reference of a provider, the value of `field`. -/
def validateSchemaRef (fileIndex : List String) (providerType field value : String) :
    List Diagnostic :=
  match extractSchemaPath value with
  | some schemaPath =>
    if fileIndexContains fileIndex schemaPath then []
    else
      [⟨"error", "EVT_SCHEMA_MISSING",
        s!"Schema reference '{schemaPath}' for provider '{providerType}' is missing from the pack.",
        some s!"extensions.{types.providerExtensionId}.providers.{providerType}.{field}",
        some "Add the schema file to the pack or update the reference."⟩]
  | none => []

def validateSchemaRefs (manifest : PackManifest) (fileIndex : List String) : List Diagnostic :=
  manifest.providers.flatMap fun provider =>
    validateSchemaRef types fileIndex provider.providerType "config_schema_ref"
      provider.configSchemaRef ++
    match provider.stateSchemaRef with
    | some stateRef =>
      validateSchemaRef types fileIndex provider.providerType "state_schema_ref" stateRef
    | none => []

def validateTopics (manifest : PackManifest) : List Diagnostic :=
  match manifestAnnotationValue manifest topicAnnotationKeys with
  | some value =>
    if isValidEventTopic value then []
    else
      [⟨"error", "EVT_INVALID_TOPIC", invalidTopic value,
        some "extensions.*.annotations.event.topic",
        some "Use lowercase dot-separated segments, e.g. 'events.order.created'."⟩]
  | none => []

def flowIds (manifest : PackManifest) : List String := manifest.flows.map PackFlowEntry.id

def validateEntryFlow (manifest : PackManifest) (flowId : String) : List Diagnostic :=
  if flowId ∈ flowIds manifest then []
  else
    ⟨"error", "EVT_ENTRY_FLOW_MISSING", missingEntryFlow flowId, some "meta.entry_flows",
      some "Add the flow entry or update the entry_flows list."⟩ ::
    if startsWith flowId "handle_" then
      [⟨"warn", "EVT_HANDLER_FLOW_MISSING",
        s!"Handler flow '{flowId}' is missing from manifest.flows.", some s!"flows.{flowId}",
        some "Add the handler flow entry or update the entry flow list."⟩]
    else []

def validateEntryFlows (manifest : PackManifest) : List Diagnostic :=
  (manifestEntryFlows manifest).flatMap (validateEntryFlow manifest)

def validate (inputs : PackInputs) : List Diagnostic :=
  match types.decodePackManifest inputs.manifestCbor with
  | none => []
  | some manifest =>
    if isEventsPack manifest inputs.fileIndex then
      validateSchemaRefs types manifest inputs.fileIndex ++ validateTopics manifest ++
        validateEntryFlows manifest
    else []

end Wasm

end GreenticEvents
