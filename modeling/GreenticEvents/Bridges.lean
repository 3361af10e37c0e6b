import GreenticEvents.Codec

/-!
# Bridges between messages and events (`bridge.rs`)
-/

namespace GreenticEvents
open Data Effects Prog

variable {I : Interface} {ReplyScope : Type}

/-- `dyn MessageToEventBridge`, over the operations that it may ask. -/
abbrev MessageToEventBridge (I : Interface) (ReplyScope : Type) :=
  ChannelMessageEnvelope ReplyScope → Prog I (Except String (List EventEnvelope))

abbrev EventToMessageBridge (I : Interface) (ReplyScope : Type) :=
  EventEnvelope → Prog I (Except String (List (ChannelMessageEnvelope ReplyScope)))

/-- Two hash maps. -/
structure BridgeRegistry (I : Interface) (ReplyScope : Type) where
  messageToEvent : String → Option (MessageToEventBridge I ReplyScope)
  eventToMessage : String → Option (EventToMessageBridge I ReplyScope)

namespace BridgeRegistry

def new : BridgeRegistry I ReplyScope := ⟨fun _ => none, fun _ => none⟩

def registerMessageToEvent (registry : BridgeRegistry I ReplyScope) (name : String)
    (bridge : MessageToEventBridge I ReplyScope) : BridgeRegistry I ReplyScope :=
  { registry with messageToEvent := Function.update registry.messageToEvent name (some bridge) }

def registerEventToMessage (registry : BridgeRegistry I ReplyScope) (name : String)
    (bridge : EventToMessageBridge I ReplyScope) : BridgeRegistry I ReplyScope :=
  { registry with eventToMessage := Function.update registry.eventToMessage name (some bridge) }

@[simp] theorem messageToEvent_register_self (registry : BridgeRegistry I ReplyScope)
    (name : String) (bridge : MessageToEventBridge I ReplyScope) :
    (registry.registerMessageToEvent name bridge).messageToEvent name = some bridge :=
  Function.update_self ..

@[simp] theorem eventToMessage_register_self (registry : BridgeRegistry I ReplyScope)
    (name : String) (bridge : EventToMessageBridge I ReplyScope) :
    (registry.registerEventToMessage name bridge).eventToMessage name = some bridge :=
  Function.update_self ..

end BridgeRegistry

structure BridgeService (I : Interface) (ReplyScope : Type) where
  registry : BridgeRegistry I ReplyScope

def callBridge {α β : Type} (name : String) (bridge : Option (α → Prog I (Except String β)))
    (a : α) : Prog I (Result β) :=
  match bridge with
  | none => return .error (.bridgeNotFound name)
  | some bridge => do
    match ← bridge a with
    | .error err => return .error (.bridgeError err)
    | .ok b => return .ok b

theorem callBridge_ret {α β : Type} (name : String) {bridge : α → Prog I (Except String β)}
    {a : α} {x : Except String β} (h : bridge a = ret x) :
    callBridge name (some bridge) a = ret (x.mapError .bridgeError) := by
  rw [callBridge, h]
  cases x with
  | error err => rfl
  | ok b => rfl

namespace BridgeService

def handleMessage (service : BridgeService I ReplyScope) (name : String)
    (message : ChannelMessageEnvelope ReplyScope) : Prog I (Result (List EventEnvelope)) :=
  callBridge name (service.registry.messageToEvent name) message

def handleEvent (service : BridgeService I ReplyScope) (name : String) (event : EventEnvelope) :
    Prog I (Result (List (ChannelMessageEnvelope ReplyScope))) :=
  callBridge name (service.registry.eventToMessage name) event

end BridgeService

end GreenticEvents
