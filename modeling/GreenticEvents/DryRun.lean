import GreenticEvents.Effects.Broadcast
import GreenticEvents.Effects.Interleaving
import GreenticEvents.Runner

/-!
# The dry-run provider of the harness (`DryRunProvider` in `e2e.rs`)

A publish appends to the list of published events, then broadcasts.  A subscription may begin
with the published events, and goes on with what a task forwards from the broadcast.
-/

namespace GreenticEvents
open Data Effects Prog

/-- `κ` tells the subscriptions apart.  `spawn` starts the forwarding task and returns the
handle to the subscriber. -/
inductive DryRunOp (κ : Type) where
  | push (event : EventEnvelope)
  | broadcast (event : EventEnvelope)
  | snapshot
  | openReceiver (k : κ)
  | spawn (k : κ)
  | send (k : κ) (event : EventEnvelope)
  | recv (k : κ)

@[reducible] def DryRunOp.Ans {κ : Type} : DryRunOp κ → Type
  | snapshot => List EventEnvelope
  | send _ _ => Except EventEnvelope Unit
  | recv _ => Except ℕ EventEnvelope
  | _ => Unit

abbrev dryRunInterface (κ : Type) : Interface := ⟨DryRunOp κ, DryRunOp.Ans⟩

abbrev DryRunProg (κ : Type) := Prog (dryRunInterface κ)

variable {κ : Type}

namespace DryRunProg

def push (event : EventEnvelope) : DryRunProg κ Unit :=
  Prog.perform (I := dryRunInterface κ) (.push event)

def broadcast (event : EventEnvelope) : DryRunProg κ Unit :=
  Prog.perform (I := dryRunInterface κ) (.broadcast event)

def snapshot : DryRunProg κ (List EventEnvelope) :=
  Prog.perform (I := dryRunInterface κ) .snapshot

def openReceiver (k : κ) : DryRunProg κ Unit :=
  Prog.perform (I := dryRunInterface κ) (.openReceiver k)

def spawn (k : κ) : DryRunProg κ Unit := Prog.perform (I := dryRunInterface κ) (.spawn k)

def send (k : κ) (event : EventEnvelope) : DryRunProg κ (Except EventEnvelope Unit) :=
  Prog.perform (I := dryRunInterface κ) (.send k event)

def recv (k : κ) : DryRunProg κ (Except ℕ EventEnvelope) :=
  Prog.perform (I := dryRunInterface κ) (.recv k)

end DryRunProg

namespace DryRunProvider

def publish (event : EventEnvelope) : DryRunProg κ (Except String Unit) := do
  DryRunProg.push event
  DryRunProg.broadcast event -- its result is dropped
  return .ok ()

/-- The loop over the existing events; a failed send ends it. -/
def sendExisting (k : κ) : List EventEnvelope → DryRunProg κ Unit
  | [] => return
  | event :: existing => do
    match ← DryRunProg.send k event with
    | .error _ => return
    | .ok () => sendExisting k existing

/-- The receiver is made after the existing events were sent. -/
def subscribe (k : κ) (options : SubscriptionOptions) : DryRunProg κ (Except String Unit) := do
  if options.deliverExisting then
    sendExisting k (← DryRunProg.snapshot)
  DryRunProg.openReceiver k
  DryRunProg.spawn k
  return .ok ()

/-- One pass of the forwarding task's loop; `false` ends it. -/
def forward (k : κ) : DryRunProg κ Bool := do
  match ← DryRunProg.recv k with
  | .error _ => return false
  | .ok event =>
    match ← DryRunProg.send k event with
    | .error _ => return false
    | .ok () => return true

end DryRunProvider

/-- The channel and the forwarding task of each subscription, beside what they share. -/
structure DryRunState (κ : Type) where
  published : List EventEnvelope
  feed : Broadcast κ EventEnvelope
  channel : κ → SubscriptionChannel
  spawned : κ → Bool

namespace DryRunState

variable [DecidableEq κ]

def new : DryRunState κ := ⟨[], .new, fun _ => .new, fun _ => false⟩

def setChannel (s : DryRunState κ) (k : κ) (channel : SubscriptionChannel) : DryRunState κ :=
  { s with channel := Function.update s.channel k channel }

/-- The broadcast channel keeps 32 events. -/
def handle (s : DryRunState κ) : Event (dryRunInterface κ) → DryRunState κ → Prop
  | ⟨.push event, _⟩, s' => s' = { s with published := s.published ++ [event] }
  | ⟨.broadcast event, _⟩, s' => s' = { s with feed := s.feed.send event }
  | ⟨.snapshot, existing⟩, s' => existing = s.published ∧ s' = s
  | ⟨.openReceiver k, _⟩, s' => s' = { s with feed := s.feed.subscribe k }
  | ⟨.spawn k, _⟩, s' => s' = { s with spawned := Function.update s.spawned k true }
  | ⟨.send k event, result⟩, s' =>
    ∃ channel, (s.channel k).handle ⟨.send event, result⟩ channel ∧ s' = s.setChannel k channel
  | ⟨.recv k, result⟩, s' =>
    s.spawned k = true ∧ ∃ feed, s.feed.Recv 32 k result feed ∧ s' = { s with feed }

/-- The consumer of a subscription acts once it has the handle. -/
def react (s : DryRunState κ) (action : κ × ConsumerAction) (s' : DryRunState κ) : Prop :=
  s.spawned action.1 = true ∧ ∃ channel, (s.channel action.1).react action.2 channel ∧
    s' = s.setChannel action.1 channel

end DryRunState

inductive DryRunProc (κ : Type) where
  | call (p : DryRunProg κ (Except String Unit))
  | task (k : κ) (p : DryRunProg κ Bool)

def DryRunProc.next : Next (dryRunInterface κ) (DryRunProc κ)
  | call p => p.next.map fun ⟨o, f⟩ => ⟨o, fun a => call (f a)⟩
  | task k p => (forever (DryRunProvider.forward k) p).map fun ⟨o, f⟩ => ⟨o, fun a => task k (f a)⟩

/-- Any number of publishes, and for each subscription its call and its task. -/
inductive DryRunActor (π κ : Type) where
  | publish (i : π)
  | subscribe (k : κ)
  | forward (k : κ)
  deriving DecidableEq

variable [DecidableEq κ] {π : Type}

def dryRunSystem (π κ : Type) [DecidableEq κ] :
    System (DryRunActor π κ) (dryRunInterface κ) (κ × ConsumerAction) (DryRunState κ)
      (DryRunProc κ) where
  next := DryRunProc.next
  handle _ := DryRunState.handle
  react := DryRunState.react

/-- Every call on a new provider is about to take its first step. -/
def dryRunStart (event : π → EventEnvelope) (options : κ → SubscriptionOptions) :
    Config (DryRunActor π κ) (DryRunState κ) (DryRunProc κ) where
  shared := .new
  proc
    | .publish i => .call (DryRunProvider.publish (event i))
    | .subscribe k => .call (DryRunProvider.subscribe k (options k))
    | .forward k => .task k (.ret true)

abbrev DryRunLog (π κ : Type) :=
  List (Label (DryRunActor π κ) (dryRunInterface κ) (κ × ConsumerAction))

end GreenticEvents
