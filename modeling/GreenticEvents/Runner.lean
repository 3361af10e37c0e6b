import GreenticEvents.Bus

/-!
# Runner-hosted brokers (`runner.rs`, `subscription.rs`)

Subscribing asks the broker client for a subscription and spawns a task that
polls the client and hands each decoded event to the subscriber's channel.
-/

namespace GreenticEvents
open Data Effects

structure WitEventEnvelope where
  id : String
  topic : String
  type : String
  source : String
  tenant : TenantCtx
  subject : Option String
  time : String
  correlationId : Option String
  payloadJson : String
  metadata : BTreeMap String String

/-- The parsers the runner takes from other crates: `chrono`, `greentic_types`
and `serde_json`. -/
structure WitCodec where
  parseFromRfc3339 : String → Except String DateTime
  eventId : String → Except String EventId
  jsonFromStr : String → Except String Json

def fromWitEvent (codec : WitCodec) (wit : WitEventEnvelope) : Except String EventEnvelope := do
  let time ← codec.parseFromRfc3339 wit.time
  let id ← codec.eventId wit.id
  let payload ← codec.jsonFromStr wit.payloadJson
  return {
    id := id
    topic := wit.topic
    type := wit.type
    source := wit.source
    tenant := wit.tenant
    subject := wit.subject
    time := time
    correlationId := wit.correlationId
    payload := payload
    metadata := wit.metadata }

theorem fromWitEvent_tenant {codec : WitCodec} {wit : WitEventEnvelope} {event : EventEnvelope}
    (h : fromWitEvent codec wit = .ok event) : event.tenant = wit.tenant := by
  unfold fromWitEvent at h
  obtain ⟨time, _, h⟩ := except_bind_ok.mp h
  obtain ⟨id, _, h⟩ := except_bind_ok.mp h
  obtain ⟨payload, _, h⟩ := except_bind_ok.mp h
  obtain rfl := Except.ok.inj h
  rfl

inductive AckMode where
  | manual
  | auto
  deriving DecidableEq

structure SubscriptionOptions where
  durable : Bool
  deliverExisting : Bool
  ackMode : AckMode

def SubscriptionOptions.default : SubscriptionOptions := ⟨true, true, .auto⟩

inductive WitAckMode where
  | auto
  | manual
  deriving DecidableEq

structure WitSubscriptionOptions where
  durable : Bool
  deliverExisting : Bool
  ackMode : WitAckMode

def SubscriptionOptions.toWit (options : SubscriptionOptions) : WitSubscriptionOptions where
  durable := options.durable
  deliverExisting := options.deliverExisting
  ackMode :=
    match options.ackMode with
    | .auto => .auto
    | .manual => .manual

/-- Calls of the broker client, and the task's end of the channel. -/
inductive RunnerOp where
  | subscribe (topic : String) (opts : WitSubscriptionOptions)
  | nextEvent (subscription : String) (timeout : Duration)
  | ackEvent (subscription id : String)
  | send (event : EventEnvelope)
  | sleep (d : Duration)

/-- A failed send hands its event back. -/
@[reducible] def RunnerOp.Ans : RunnerOp → Type
  | subscribe _ _ => Except String String
  | nextEvent _ _ => Except String (Option WitEventEnvelope)
  | ackEvent _ _ => Except String Unit
  | send _ => Except EventEnvelope Unit
  | sleep _ => Unit

abbrev runnerInterface : Interface := ⟨RunnerOp, RunnerOp.Ans⟩

abbrev RunnerProg := Prog runnerInterface

namespace RunnerProg

def subscribe (topic : String) (opts : WitSubscriptionOptions) :
    RunnerProg (Except String String) :=
  Prog.perform (I := runnerInterface) (.subscribe topic opts)

def nextEvent (subscription : String) (timeout : Duration) :
    RunnerProg (Except String (Option WitEventEnvelope)) :=
  Prog.perform (I := runnerInterface) (.nextEvent subscription timeout)

def ackEvent (subscription id : String) : RunnerProg (Except String Unit) :=
  Prog.perform (I := runnerInterface) (.ackEvent subscription id)

def send (event : EventEnvelope) : RunnerProg (Except EventEnvelope Unit) :=
  Prog.perform (I := runnerInterface) (.send event)

def sleep (d : Duration) : RunnerProg Unit :=
  Prog.perform (I := runnerInterface) (.sleep d)

end RunnerProg

/-- What the spawned task captures. -/
structure PollingTask where
  subscriptionId : String
  timeout : Duration
  options : SubscriptionOptions

/-- One pass of the task's `loop`; `false` stands for `break`. -/
def PollingTask.poll (codec : WitCodec) (task : PollingTask) : RunnerProg Bool := do
  match ← RunnerProg.nextEvent task.subscriptionId task.timeout with
  | .ok (some wit) =>
    match fromWitEvent codec wit with
    | .ok event =>
      match ← RunnerProg.send event with
      | .error _ => return false
      | .ok () =>
        if task.options.ackMode = .auto then
          let _ ← RunnerProg.ackEvent task.subscriptionId event.id.raw -- a failed ack is ignored
          return true
        else return true
    | .error _ => return false
  | .ok none =>
    RunnerProg.sleep (.fromMillis 10)
    return true
  | .error _ => return false

structure RunnerBrokerProvider where
  descriptor : EventProviderDescriptor
  topics : List String
  pollTimeout : Duration

namespace RunnerBrokerProvider

def new (descriptor : EventProviderDescriptor) (topics : List String) : RunnerBrokerProvider :=
  ⟨descriptor, topics, .fromMillis 1000⟩

/-- The task that `subscribe` spawns; the tenant is not used. -/
def subscribe (provider : RunnerBrokerProvider) (topic : String) (_tenant : TenantCtx)
    (options : SubscriptionOptions) : RunnerProg (Except String PollingTask) := do
  match ← RunnerProg.subscribe topic options.toWit with
  | .error err => return .error err
  | .ok subscriptionId => return .ok ⟨subscriptionId, provider.pollTimeout, options⟩

end RunnerBrokerProvider

/-- `EventBus::subscribe` on a bus whose provider instances are runner brokers. -/
def EventBus.subscribe (bus : EventBus) (runner : ProviderInstance → RunnerBrokerProvider)
    (topic : String) (tenant : TenantCtx) (options : SubscriptionOptions) :
    RunnerProg (Result PollingTask) :=
  match bus.acl.allowSubscribe tenant topic with
  | .error err => return .error err
  | .ok () =>
    match bus.providerForTopic topic with
    | .error err => return .error err
    | .ok provider => do
      match ← (runner provider.handle).subscribe topic tenant options with
      | .error err => return .error (.other err)
      | .ok task => return .ok task

/-- A `tokio` channel of 64 slots; a dropped receiver takes what is queued with it. -/
structure SubscriptionChannel where
  queue : List EventEnvelope
  bounded : queue.length ≤ 64
  receiver : Bool

namespace SubscriptionChannel

def new : SubscriptionChannel := ⟨[], Nat.zero_le _, true⟩

def push (s : SubscriptionChannel) (event : EventEnvelope) (room : s.queue.length < 64) :
    SubscriptionChannel :=
  ⟨s.queue ++ [event], by rw [List.length_append]; exact room, s.receiver⟩

/-- A send waits for a free slot and fails once the receiver is dropped. -/
def handle (s : SubscriptionChannel) : Event runnerInterface → SubscriptionChannel → Prop
  | ⟨.send event, .ok ()⟩, s' => ∃ room, s.receiver = true ∧ s' = s.push event room
  | ⟨.send _, .error _⟩, s' => s.receiver = false ∧ s' = s
  | _, s' => s' = s

end SubscriptionChannel

inductive ConsumerAction where
  | recv (event : EventEnvelope)
  | drop

def SubscriptionChannel.react (s : SubscriptionChannel) :
    ConsumerAction → SubscriptionChannel → Prop
  | .recv event, s' =>
    s.receiver = true ∧ s'.receiver = true ∧ s.queue = event :: s'.queue
  | .drop, s' => s'.receiver = false ∧ s'.queue = []

end GreenticEvents
