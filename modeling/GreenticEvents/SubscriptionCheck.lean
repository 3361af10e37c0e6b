import GreenticEvents.DryRunPlaces
import GreenticEvents.E2e
import GreenticEvents.Samples

/-!
# The subscription check of a dry run (`FixtureSubscriptionRunner::sync` in `e2e.rs`)

The check subscribes at a bus with the broker of the pack, publishes one event and waits for
it, while the task of the subscription forwards what was broadcast.
-/

namespace GreenticEvents
open Data Effects Prog

def EventBusError.display : EventBusError → String
  | noProvider topic => s!"no provider registered for topic {topic}"
  | aclDenied tenant topic operation =>
    s!"access denied for tenant {tenant} on topic {topic} ({operation})"
  | duplicate key => s!"duplicate event skipped due to idempotency key {key}"
  | deliveryFailed provider reason => s!"provider {provider} failed after retries: {reason}"
  | bridgeNotFound bridge => s!"bridge {bridge} not found"
  | bridgeError message => s!"bridge error: {message}"
  | other message => message

/-- `drop` gives up the sender of the subscription's channel. -/
inductive CheckOp where
  | provider (o : DryRunOp Unit)
  | bus (o : BusOp)
  | next
  | drop

/-- How the wait of 500 ms for the next event ends. -/
inductive Awaited where
  | event (event : EventEnvelope)
  | closed
  | elapsed

@[reducible] def CheckOp.Ans : CheckOp → Type
  | provider o => o.Ans
  | bus o => o.Ans
  | next => Awaited
  | drop => Unit

abbrev checkInterface : Interface := ⟨CheckOp, CheckOp.Ans⟩

abbrev CheckProg := Prog checkInterface

namespace CheckProg

def provider (o : DryRunOp Unit) : CheckProg o.Ans :=
  Prog.perform (I := checkInterface) (.provider o)

def bus (o : BusOp) : CheckProg o.Ans := Prog.perform (I := checkInterface) (.bus o)

def nextEvent : CheckProg Awaited := Prog.perform (I := checkInterface) .next

variable {α : Type}

def ofProvider (p : DryRunProg Unit α) : CheckProg α := p.interpret provider

/-- What a call of the bus does, its provider calls being those of the dry-run provider. -/
def serve : (o : BusOp) → CheckProg o.Ans
  | .publish _ event => ofProvider (DryRunProvider.publish event)
  | .aclCheck => bus .aclCheck
  | .routing => bus .routing
  | .record m => bus (.record m)
  | .recordKey key => bus (.recordKey key)
  | .threadRng => bus .threadRng
  | .sleep d => bus (.sleep d)

def ofBus (p : BusProg α) : CheckProg α := p.interpret serve

end CheckProg

theorem all_isIdChar_tenant : "tenant".toList.all isIdChar = true := by decide

def checkTenant : TenantCtx := ⟨"dev", ⟨"tenant", all_isIdChar_tenant⟩, .null⟩

def checkOptions : SubscriptionOptions := ⟨false, false, .auto⟩

/-- The time is that of `FIXED_TIME`. -/
def subscriptionEvent (topic : String) : EventEnvelope where
  id := ⟨"evt-subscription"⟩
  topic := topic
  type := "greentic.events.subscription"
  source := "greentic-events-test"
  tenant := checkTenant
  subject := some "subscription"
  time := ⟨1735689600 * 10 ^ 9⟩
  correlationId := none
  payload := .object []
  metadata := .empty

/-- `EventBus::subscribe` on a bus of the dry-run provider. -/
def EventBus.subscribeDryRun (bus : EventBus) (topic : String) (tenant : TenantCtx)
    (options : SubscriptionOptions) : CheckProg (Result Unit) :=
  match bus.subscribedProvider topic tenant with
  | .error err => return .error err
  | .ok _ => do
    match ← CheckProg.ofProvider (DryRunProvider.subscribe () options) with
    | .error err => return .error (.other err)
    | .ok () => return .ok ()

def judgeReceived : Awaited → Except String Unit
  | .elapsed => .error "subscription receive timed out"
  | .closed => .error "subscription channel closed"
  | .event received =>
    if isBlank received.topic then .error "subscription received empty topic" else .ok ()

def tryBroker (broker : EventProviderSpec) : CheckProg (Except String Unit) := do
  let bus := dryRunBus broker 0
  let topic := subscriptionTopic broker
  match ← bus.subscribeDryRun topic checkTenant checkOptions with
  | .error err => return .error err.display
  | .ok () =>
    match ← CheckProg.ofBus (bus.publish (subscriptionEvent topic)) with
    | .error err => return .error err.display
    | .ok () => return judgeReceived (← CheckProg.nextEvent)

/-- What both the dry run and the live run ask of the pack first. -/
def subscriptionBroker (host : E2eHost) (pack : PackLoad) (providers : List EventProviderSpec) :
    Except String EventProviderSpec :=
  match loadFixture host pack "fixtures/subscriptions.expected.json" with
  | none => .error "subscriptions fixture missing or invalid"
  | some (.array _) =>
    match providers.find? fun provider => provider.kind = .broker with
    | none => .error "subscriptions requested but no broker providers declared"
    | some broker => .ok broker
  | some _ => .error "subscriptions expected fixture must be a JSON array"

/-- `sync` without `live`. -/
def checkSubscriptions (host : E2eHost) (pack : PackLoad) (providers : List EventProviderSpec) :
    CheckProg (Except String Unit) :=
  match subscriptionBroker host pack providers with
  | .error err => return .error err
  | .ok broker => tryBroker broker

structure CheckState where
  provider : DryRunState Unit
  bus : BusState InMemoryIdempotencyStore
  dropped : Bool

namespace CheckState

def new : CheckState := ⟨.new, ⟨.new, .new⟩, false⟩

/-- The wait is for the channel first, and for the time only while the channel is empty. -/
def handle (s : CheckState) : Event checkInterface → CheckState → Prop
  | ⟨.provider o, a⟩, s' => ∃ provider, s.provider.handle ⟨o, a⟩ provider ∧ s' = { s with provider }
  | ⟨.bus o, a⟩, s' =>
    ∃ bus, s.bus.handle InMemoryIdempotencyStore.store ⟨o, a⟩ bus ∧ s' = { s with bus }
  | ⟨.next, .event event⟩, s' =>
    ∃ provider, s.provider.react ((), .recv event) provider ∧ s' = { s with provider }
  | ⟨.next, .closed⟩, s' => (s.provider.channel ()).queue = [] ∧ s.dropped = true ∧ s' = s
  | ⟨.next, .elapsed⟩, s' => (s.provider.channel ()).queue = [] ∧ s.dropped = false ∧ s' = s
  | ⟨.drop, _⟩, s' => s' = { s with dropped := true }

end CheckState

/-- The check, or the forwarding task; a task that has ended drops its sender. -/
inductive CheckProc where
  | check (p : CheckProg (Except String Unit))
  | task (p : Option (DryRunProg Unit Bool))

def CheckProc.next : Next checkInterface CheckProc
  | check p => p.next.map fun ⟨o, f⟩ => ⟨o, fun a => check (f a)⟩
  | task (some p) =>
    match forever (DryRunProvider.forward ()) p with
    | some ⟨o, f⟩ => some ⟨.provider o, fun a => task (some (f a))⟩
    | none => some ⟨.drop, fun _ => task none⟩
  | task none => none

inductive CheckActor where
  | check
  | forward
  deriving DecidableEq

def checkSystem : System CheckActor checkInterface Empty CheckState CheckProc where
  next := CheckProc.next
  handle _ := CheckState.handle
  react _ action _ := action.elim

def checkStart (host : E2eHost) (pack : PackLoad) (providers : List EventProviderSpec) :
    Config CheckActor CheckState CheckProc where
  shared := .new
  proc
    | .check => .check (checkSubscriptions host pack providers)
    | .forward => .task (some (.ret true))

end GreenticEvents
