import GreenticEvents.Bridges
import GreenticEvents.ConfigFlow
import GreenticEvents.ProviderCodec
import GreenticEvents.SubscriptionCheck

/-!
# The runners that the harness has by default (`E2eDependencies::default` in `e2e.rs`)

They work on what the pack holds.  Only a live run starts commands.
-/

namespace GreenticEvents
open Data Effects Prog RetryPolicy

def requirementsFields : List String :=
  ["required_config_keys", "required_secret_keys", "subscriptions_required", "webhooks_required"]

def RequirementsFixture.fromJson (doc : Json) : Option RequirementsFixture := do
  let field ← doc.structFields requirementsFields
  return {
    requiredConfigKeys := ← defaultField [] textListFromJson (field "required_config_keys")
    requiredSecretKeys := ← defaultField [] textListFromJson (field "required_secret_keys")
    subscriptionsRequired := ← defaultField false Json.asBool (field "subscriptions_required")
    webhooksRequired := ← defaultField false Json.asBool (field "webhooks_required") }

/-- In a text a field may stand twice, which a struct does not take. -/
def Json.fieldsOnce (names : List String) : Json → Bool
  | object entries => names.all fun name => decide (entries.countP (fun e => e.1 = name) ≤ 1)
  | _ => true

def RequirementsFixture.fromDocument (doc : Json) : Option RequirementsFixture :=
  if doc.fieldsOnce requirementsFields then fromJson doc else none

def SubscriptionAction.fromJson : Json → Option SubscriptionAction := unitVariant fun
  | "create" => some create
  | "update" => some update
  | "delete" => some delete
  | _ => none

def WebhookAction.fromJson : Json → Option WebhookAction := unitVariant fun
  | "create" => some create
  | "update" => some update
  | "delete" => some delete
  | _ => none

def SubscriptionOp.fromJson (doc : Json) : Option SubscriptionOp := do
  let field ← doc.structFields ["action", "topic", "endpoint"]
  return {
    action := ← requiredField SubscriptionAction.fromJson (field "action")
    topic := ← requiredField Json.asStr (field "topic")
    endpoint := ← requiredField Json.asStr (field "endpoint") }

def WebhookOp.fromJson (doc : Json) : Option WebhookOp := do
  let field ← doc.structFields ["action", "name", "url", "events"]
  return {
    action := ← requiredField WebhookAction.fromJson (field "action")
    name := ← requiredField Json.asStr (field "name")
    url := ← requiredField Json.asStr (field "url")
    events := ← requiredField textListFromJson (field "events") }

def ProvisionPlan.fromJson (doc : Json) : Option ProvisionPlan := do
  let field ← doc.structFields ["config_patch", "secrets_patch", "subscriptions", "webhooks"]
  return {
    configPatch := ← optionalField some (field "config_patch")
    secretsPatch := ← optionalField some (field "secrets_patch")
    subscriptions := ← defaultField [] (fun value => do
      (← value.asArray).mapM SubscriptionOp.fromJson) (field "subscriptions")
    webhooks := ← defaultField [] (fun value => do
      (← value.asArray).mapM WebhookOp.fromJson) (field "webhooks") }

/-- What the runners take from elsewhere: the flow interpreter's part, and `serde_json` and the
constructors for the types of `greentic_types`.  `documentFromSlice` keeps repeated fields. -/
structure RunnerHost (ReplyScope : Type) extends E2eHost where
  flow : FlowHost
  documentFromSlice : List UInt8 → Option Json
  messageFromSlice : List UInt8 → Option (ChannelMessageEnvelope ReplyScope)
  eventFromSlice : List UInt8 → Option EventEnvelope
  messageToValue : ChannelMessageEnvelope ReplyScope → Except String Json
  eventToValue : EventEnvelope → Json
  eventsFromValue : Json → Option (List EventEnvelope)
  messagesFromValue : Json → Option (List (ChannelMessageEnvelope ReplyScope))
  eventFromValue : Json → Option EventEnvelope
  jsonToString : Json → String
  eventId : String → Except String EventId

/-- What a command leaves; `stderr` is its text as far as it is one. -/
structure CommandOutput where
  success : Bool
  status : String
  stdout : List UInt8
  stderr : String

/-- `var` is `std::env::var` with an empty default, `check` the subscription check of a dry
run. -/
inductive HostOp where
  | var (name : String)
  | command (exe : String) (args : List String) (payload : Json)
  | check (pack : PackLoad) (providers : List EventProviderSpec)

@[reducible] def HostOp.Ans : HostOp → Type
  | var _ => String
  | command _ _ _ => Except String CommandOutput
  | check _ _ => Except Fault Unit

abbrev hostInterface : Interface := ⟨HostOp, HostOp.Ans⟩

abbrev HostProg := Prog hostInterface

namespace HostProg

def var (name : String) : HostProg String := Prog.perform (I := hostInterface) (.var name)

def command (exe : String) (args : List String) (payload : Json) :
    HostProg (Except String CommandOutput) :=
  Prog.perform (I := hostInterface) (.command exe args payload)

def check (pack : PackLoad) (providers : List EventProviderSpec) :
    HostProg (Except Fault Unit) :=
  Prog.perform (I := hostInterface) (.check pack providers)

end HostProg

variable {ReplyScope : Type}

section Planning

variable (host : RunnerHost ReplyScope) (pack : PackLoad)

def fixtureRequirements : Except String RequirementsFixture :=
  match ((pack.files.get "fixtures/requirements.expected.json").bind host.documentFromSlice).bind
      RequirementsFixture.fromDocument with
  | some requirements => .ok requirements
  | none => .error "requirements fixture missing or invalid"

/-- `CompositeRequirementsRunner`: an output that is no fixture does not count. -/
def compositeRequirements (flowId : Option String) : Except String RequirementsFixture :=
  match flowId with
  | none => fixtureRequirements host pack
  | some flowId =>
    match runConfigFlowFromPack host.flow pack flowId none with
    | .error err => .error err.message
    | .ok output =>
      match output.bind RequirementsFixture.fromJson with
      | some requirements => .ok requirements
      | none => fixtureRequirements host pack

def setupFlowId : Option String :=
  let isSetup (flow : String) := contains flow "setup" || contains flow "provision"
  (pack.manifestMeta.entryFlows.find? isSetup).or ((pack.flows.map PackFlow.id).find? isSetup)

def fixtureOp (idx : ℕ) (value : Json) : SubscriptionOp where
  action := .create
  topic := ((value.get "topic").bind Json.asStr).getD s!"fixture.topic.{idx}"
  endpoint := ((value.get "endpoint").bind Json.asStr).getD "fixture.endpoint"

def fixturePlan (inputs : ProvisionInputs) : Except String ProvisionPlan :=
  match loadFixture host.toE2eHost pack "fixtures/setup.input.json" with
  | none => .error "setup fixture missing or invalid"
  | some _ =>
    if inputs.requirements.subscriptionsRequired then
      match loadFixture host.toE2eHost pack "fixtures/subscriptions.expected.json" with
      | none => .error "subscriptions fixture missing"
      | some (.array items) => .ok ⟨none, none, items.mapIdx fixtureOp, []⟩
      | some _ => .error "subscriptions expected fixture must be a JSON array"
    else .ok ⟨none, none, [], []⟩

def compositePlan (inputs : ProvisionInputs) : Except String ProvisionPlan :=
  match setupFlowId pack with
  | none => fixturePlan host pack inputs
  | some flowId =>
    match runConfigFlowFromPack host.flow pack flowId (some inputs.answers) with
    | .error err => .error err.message
    | .ok output =>
      match output.bind ProvisionPlan.fromJson with
      | some plan => .ok plan
      | none => fixturePlan host pack inputs

end Planning

def liveBridgeCmdEnv : String := "GREENTIC_EVENTS_E2E_LIVE_BRIDGE_CMD"

def liveBrokerCmdEnv : String := "GREENTIC_EVENTS_E2E_LIVE_BROKER_CMD"

def envCommand (var : String) : HostProg (Except String String) := do
  let value ← HostProg.var var
  return if isBlank value then .error s!"{var} must be set for live mode" else .ok value

def splitWhitespace (s : String) : List String :=
  ((s.toList.splitOnP isWhitespace).filter fun part => !part.isEmpty).map String.ofList

section Live

variable (host : RunnerHost ReplyScope)

def commandResponse (output : CommandOutput) : Except String Json :=
  if output.success then
    match String.fromUTF8? ⟨output.stdout.toArray⟩ with
    | none => .error "live command stdout not utf-8"
    | some _ =>
      match host.fromSlice output.stdout with
      | none => .error "parse live command response json"
      | some response => .ok response
  else .error s!"live command failed ({output.status}): {output.stderr}"

def runCommandJson (command : String) (payload : Json) : HostProg (Except String Json) :=
  match splitWhitespace command with
  | [] => return .error "command is empty"
  | exe :: args => do
    match ← HostProg.command exe args payload with
    | .error _ => return .error s!"run live command: {command}"
    | .ok output => return commandResponse host output

/-- The providers of one kind and the bridges; the first gives its name. -/
def providerName (kind : EventProviderKind) (providers : List EventProviderSpec) : String :=
  ((providers.find? fun provider => provider.kind = kind || provider.kind = .bridge).map
    EventProviderSpec.name).getD "events"

def ingestMessage (pack : PackLoad) : Except String (ChannelMessageEnvelope ReplyScope) :=
  match (pack.files.get "fixtures/ingest.request.json").bind host.messageFromSlice with
  | none => .error "ingest fixture missing or invalid"
  | some message => .ok message

def emitEvent (pack : PackLoad) : Except String EventEnvelope :=
  match (pack.files.get "fixtures/emit.request.json").bind host.eventFromSlice with
  | none => .error "emit fixture missing or invalid"
  | some event => .ok event

/-- A part of a response, read as a value of some type. -/
def responsePart {α : Type} (name missing invalid : String) (read : Json → Option α)
    (response : Json) : Except String α :=
  match response.get name with
  | none => .error missing
  | some value =>
    match read value with
    | none => .error invalid
    | some a => .ok a

def ingestPayload (pack : PackLoad) (providers : List EventProviderSpec) (value : Json) : Json :=
  .ofFields [
    ("op", some (.string "ingest")),
    ("pack_id", some (.string pack.manifestMeta.packId)),
    ("provider", some (.string (providerName .source providers))),
    ("message", some value)]

def emitPayload (pack : PackLoad) (providers : List EventProviderSpec) (event : EventEnvelope) :
    Json := .ofFields [
  ("op", some (.string "emit")),
  ("pack_id", some (.string pack.manifestMeta.packId)),
  ("provider", some (.string (providerName .sink providers))),
  ("event", some (host.eventToValue event))]

def commandIngest (command : String) (pack : PackLoad) (providers : List EventProviderSpec) :
    HostProg (Except String (List EventEnvelope)) :=
  (Prog.ret (ingestMessage host pack)).onSuccess fun message =>
  (Prog.ret (host.messageToValue message)).onSuccess fun value =>
  (runCommandJson host command (ingestPayload pack providers value)).onSuccess fun response =>
  return responsePart "events" "live ingest response missing events" "parse live ingest events"
    host.eventsFromValue response

def commandEmit (command : String) (pack : PackLoad) (providers : List EventProviderSpec) :
    HostProg (Except String (List (ChannelMessageEnvelope ReplyScope))) :=
  (Prog.ret (emitEvent host pack)).onSuccess fun event =>
  (runCommandJson host command (emitPayload host pack providers event)).onSuccess fun response =>
  return responsePart "messages" "live emit response missing messages" "parse live emit messages"
    host.messagesFromValue response

/-- The four requests of a live subscription check. -/
def subscribePayload (pack : PackLoad) (broker : EventProviderSpec) : Json := .ofFields [
  ("op", some (.string "subscribe")),
  ("pack_id", some (.string pack.manifestMeta.packId)),
  ("provider", some (.string broker.name)),
  ("topic", some (.string (subscriptionTopic broker))),
  ("options", some (.ofFields [
    ("durable", some (.bool checkOptions.durable)),
    ("deliver_existing", some (.bool checkOptions.deliverExisting)),
    ("ack_mode", some (.string (match checkOptions.ackMode with
      | .auto => "auto"
      | .manual => "manual")))]))]

def publishPayload (pack : PackLoad) (broker : EventProviderSpec) : Json := .ofFields [
  ("op", some (.string "publish")),
  ("pack_id", some (.string pack.manifestMeta.packId)),
  ("provider", some (.string broker.name)),
  ("event", some (host.eventToValue (subscriptionEvent (subscriptionTopic broker))))]

def nextEventPayload (pack : PackLoad) (broker : EventProviderSpec) (subscriptionId : String) :
    Json := .ofFields [
  ("op", some (.string "next_event")),
  ("pack_id", some (.string pack.manifestMeta.packId)),
  ("provider", some (.string broker.name)),
  ("subscription_id", some (.string subscriptionId)),
  ("timeout_ms", some (.number (.posInt 500)))]

def ackEventPayload (pack : PackLoad) (broker : EventProviderSpec) (subscriptionId : String)
    (received : EventEnvelope) : Json := .ofFields [
  ("op", some (.string "ack_event")),
  ("pack_id", some (.string pack.manifestMeta.packId)),
  ("provider", some (.string broker.name)),
  ("subscription_id", some (.string subscriptionId)),
  ("event_id", some (.string received.id.raw))]

/-- The acknowledgement mode is always `Auto`. -/
def commandSubscriptions (command : String) (pack : PackLoad)
    (providers : List EventProviderSpec) : HostProg (Except String Unit) :=
  (Prog.ret (subscriptionBroker host.toE2eHost pack providers)).onSuccess fun broker =>
  (runCommandJson host command (subscribePayload pack broker)).onSuccess fun response =>
  (Prog.ret (responsePart "subscription_id" "live subscribe response missing subscription_id"
    "live subscribe response missing subscription_id" Json.asStr response)).onSuccess
      fun subscriptionId =>
  (runCommandJson host command (publishPayload host pack broker)).onSuccess fun _ =>
  (runCommandJson host command (nextEventPayload pack broker subscriptionId)).onSuccess
    fun response =>
  (Prog.ret (responsePart "event" "live next_event response missing event" "parse live event"
    host.eventFromValue response)).onSuccess fun received =>
  if isBlank received.topic then return .error "subscription received empty topic"
  else
    (runCommandJson host command
      (ackEventPayload pack broker subscriptionId received)).onSuccess fun _ => return .ok ()

end Live

section DryRunBridges

variable (host : RunnerHost ReplyScope) {I : Interface}

def ingestedEvent (providerName : String) (message : ChannelMessageEnvelope ReplyScope)
    (id : EventId) (payload : Json) : EventEnvelope where
  id := id
  topic := providerName ++ ".ingest"
  type := "greentic.events.ingest"
  source := "greentic-events-test"
  tenant := message.tenant
  subject := some message.sessionId
  time := ⟨1735689600 * 10 ^ 9⟩
  correlationId := message.correlationId
  payload := payload
  metadata := message.metadata

/-- `DryRunMessageToEventBridge`. -/
def dryRunIngest (providerName : String) : MessageToEventBridge I ReplyScope := fun message =>
  return do
    let id ← host.eventId ("evt-" ++ message.id)
    let payload ← host.messageToValue message
    return [ingestedEvent providerName message id payload]

def emittedMessage (providerName : String) (event : EventEnvelope) :
    ChannelMessageEnvelope ReplyScope where
  id := "msg-" ++ event.id.raw
  tenant := event.tenant
  channel := providerName ++ ".emit"
  sessionId := event.subject.getD "session"
  replyScope := none
  userId := none
  correlationId := event.correlationId
  text := some (host.jsonToString event.payload)
  attachments := []
  metadata := event.metadata

/-- `DryRunEventToMessageBridge`. -/
def dryRunEmit (providerName : String) : EventToMessageBridge I ReplyScope := fun event =>
  return .ok [emittedMessage host providerName event]

/-- The error of a bridge is given a text of its own. -/
def bridgeFailed {α : Type} (message : String) : Result α → Except String α
  | .error _ => .error message
  | .ok a => .ok a

/-- `FixtureIngestRunner` without `live`. -/
def fixtureIngest (pack : PackLoad) (providers : List EventProviderSpec) :
    Prog I (Except String (List EventEnvelope)) :=
  (Prog.ret (ingestMessage host pack)).onSuccess fun message => do
    let registry := BridgeRegistry.new.registerMessageToEvent "ingest"
      (dryRunIngest host (providerName .source providers))
    return bridgeFailed "ingest bridge failed"
      (← (BridgeService.mk registry).handleMessage "ingest" message)

/-- `FixtureEmitRunner` without `live`. -/
def fixtureEmit (pack : PackLoad) (providers : List EventProviderSpec) :
    Prog I (Except String (List (ChannelMessageEnvelope ReplyScope))) :=
  (Prog.ret (emitEvent host pack)).onSuccess fun event => do
    let registry := BridgeRegistry.new.registerEventToMessage "emit"
      (dryRunEmit host (providerName .sink providers))
    return bridgeFailed "emit bridge failed"
      (← (BridgeService.mk registry).handleEvent "emit" event)

end DryRunBridges

/-- A runner returns errors; only the check may take time. -/
def faulty {α : Type} (p : HostProg (Except String α)) : HostProg (Except Fault α) := do
  return (← p).mapError .error

/-- A live run reads the command from the environment. -/
def live {α : Type} (var : String) (run : String → HostProg (Except String α)) :
    HostProg (Except Fault α) :=
  faulty ((envCommand var).onSuccess run)

def defaultRunner (host : RunnerHost ReplyScope) :
    (o : E2eOp) → HostProg (o.Ans ReplyScope)
  | .requirements pack flowId => faulty (return compositeRequirements host pack flowId)
  | .plan pack inputs => faulty (return compositePlan host pack inputs)
  | .ingest pack providers true =>
    live liveBridgeCmdEnv fun command => commandIngest host command pack providers
  | .ingest pack providers false => faulty (fixtureIngest host pack providers)
  | .emit pack providers true =>
    live liveBridgeCmdEnv fun command => commandEmit host command pack providers
  | .emit pack providers false => faulty (fixtureEmit host pack providers)
  | .sync pack providers true =>
    live liveBrokerCmdEnv fun command => commandSubscriptions host command pack providers
  | .sync pack providers false => HostProg.check pack providers

/-- The variables that `apply_dry_run_guard` reads without using them. -/
def dryRunVars : List String :=
  ["GREENTIC_EVENTS_DRY_RUN", "GREENTIC_NETWORK_DISABLED", "GREENTIC_FILESYSTEM_DISABLED",
    "GREENTIC_RANDOM_SEED", "GREENTIC_FIXED_TIME"]

def allowWriteEnv : String := "GREENTIC_EVENTS_E2E_ALLOW_WRITE"

def readVars : List String → HostProg Unit
  | [] => return ()
  | name :: names => do
    let _ ← HostProg.var name
    readVars names

/-- What `apply_dry_run_guard` reads; with `live` beside `dryRun` the run ends before it. -/
def readGuardVars (options : E2eOptions) : HostProg (Option String) :=
  if options.dryRun && !options.live then do
    readVars dryRunVars
    if options.reportPath.isSome then
      let value ← HostProg.var allowWriteEnv
      return some value
    else return none
  else return none

def RunnerHost.guarded (host : RunnerHost ReplyScope) (allowWrite : Option String) : E2eHost :=
  { host.toE2eHost with allowWrite }

/-- The guard looks at the variable that it has read, whatever `host` has for it. -/
def runE2e (host : RunnerHost ReplyScope) (options : E2eOptions) :
    HostProg (Except String E2eReport) := do
  let allowWrite ← readGuardVars options
  (runE2eWith (host.guarded allowWrite) options).interpret (defaultRunner host)

end GreenticEvents
