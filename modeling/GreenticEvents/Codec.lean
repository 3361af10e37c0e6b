import GreenticEvents.Polling

namespace GreenticEvents
open Data

/-- The printers the runner takes from other crates: `chrono` and `serde_json`. -/
structure WitPrinter where
  toRfc3339 : DateTime → String
  jsonToString : Json → Except String String

def toWitEvent (printer : WitPrinter) (event : EventEnvelope) : Except String WitEventEnvelope := do
  let payloadJson ← printer.jsonToString event.payload
  return {
    id := event.id.raw
    topic := event.topic
    type := event.type
    source := event.source
    tenant := event.tenant
    subject := event.subject
    time := printer.toRfc3339 event.time
    correlationId := event.correlationId
    payloadJson := payloadJson
    metadata := event.metadata }

/-- The parsers read back what the printers write for this event.  `chrono` does so
for the years 0000 to 9999, `serde_json` for every payload. -/
structure ReadsBackPrinted (codec : WitCodec) (printer : WitPrinter) (event : EventEnvelope) :
    Prop where
  time : codec.parseFromRfc3339 (printer.toRfc3339 event.time) = .ok event.time
  id : codec.eventId event.id.raw = .ok event.id
  payload : ∃ text, printer.jsonToString event.payload = .ok text ∧
    codec.jsonFromStr text = .ok event.payload

theorem fromWitEvent_toWitEvent {codec : WitCodec} {printer : WitPrinter} {event : EventEnvelope}
    (h : ReadsBackPrinted codec printer event) :
    ∃ wit, toWitEvent printer event = .ok wit ∧ fromWitEvent codec wit = .ok event := by
  obtain ⟨text, hprint, hparse⟩ := h.payload
  refine ⟨_, except_bind_ok.mpr ⟨text, hprint, rfl⟩, ?_⟩
  apply except_bind_ok.mpr
  refine ⟨event.time, h.time, ?_⟩
  apply except_bind_ok.mpr
  refine ⟨event.id, h.id, ?_⟩
  exact except_bind_ok.mpr ⟨event.payload, hparse, rfl⟩

structure Attachment where
  mimeType : String
  url : String
  name : Option String
  sizeBytes : Option UInt64

/-- `ChannelMessageEnvelope`, with the reply scopes of `greentic_types`. -/
structure ChannelMessageEnvelope (ReplyScope : Type) where
  id : String
  tenant : TenantCtx
  channel : String
  sessionId : String
  replyScope : Option ReplyScope
  userId : Option String
  correlationId : Option String
  text : Option String
  attachments : List Attachment
  metadata : BTreeMap String String

structure WitAttachment where
  mimeType : String
  url : String
  name : Option String
  sizeBytes : Option UInt64

/-- The wire type has no reply scope and no correlation id. -/
structure WitChannelMessageEnvelope where
  id : String
  tenant : TenantCtx
  channel : String
  sessionId : String
  userId : Option String
  text : Option String
  attachments : List WitAttachment
  metadata : BTreeMap String String

variable {ReplyScope : Type}

def toWitMessage (msg : ChannelMessageEnvelope ReplyScope) : WitChannelMessageEnvelope where
  id := msg.id
  tenant := msg.tenant
  channel := msg.channel
  sessionId := msg.sessionId
  userId := msg.userId
  text := msg.text
  attachments := msg.attachments.map fun a => ⟨a.mimeType, a.url, a.name, a.sizeBytes⟩
  metadata := msg.metadata

def fromWitMessage (msg : WitChannelMessageEnvelope) : ChannelMessageEnvelope ReplyScope where
  id := msg.id
  tenant := msg.tenant
  channel := msg.channel
  sessionId := msg.sessionId
  replyScope := none
  userId := msg.userId
  correlationId := none
  text := msg.text
  attachments := msg.attachments.map fun a => ⟨a.mimeType, a.url, a.name, a.sizeBytes⟩
  metadata := msg.metadata

/-- A message without the two fields that the wire type leaves out. -/
def ChannelMessageEnvelope.carried (msg : ChannelMessageEnvelope ReplyScope) :
    ChannelMessageEnvelope ReplyScope :=
  { msg with replyScope := none, correlationId := none }

theorem fromWitMessage_toWitMessage (msg : ChannelMessageEnvelope ReplyScope) :
    fromWitMessage (toWitMessage msg) = msg.carried := by
  have hattachments : ((msg.attachments.map fun a =>
      (⟨a.mimeType, a.url, a.name, a.sizeBytes⟩ : WitAttachment)).map fun a =>
        (⟨a.mimeType, a.url, a.name, a.sizeBytes⟩ : Attachment)) = msg.attachments := by
    rw [List.map_map]
    exact List.map_id msg.attachments
  unfold fromWitMessage toWitMessage
  rw [hattachments]
  rfl

theorem carried_eq_self (msg : ChannelMessageEnvelope ReplyScope) :
    msg.carried = msg ↔ msg.replyScope = none ∧ msg.correlationId = none := by
  constructor
  · intro h
    exact ⟨(congrArg ChannelMessageEnvelope.replyScope h).symm,
      (congrArg ChannelMessageEnvelope.correlationId h).symm⟩
  · rintro ⟨hscope, hcorrelation⟩
    unfold ChannelMessageEnvelope.carried
    rw [← hscope, ← hcorrelation]

/-- Events come back unchanged.  Messages come back without reply scope and
correlation id, hence unchanged exactly when they have neither. -/
theorem codecs_round_trip {codec : WitCodec} {printer : WitPrinter} {event : EventEnvelope}
    (h : ReadsBackPrinted codec printer event) :
    (∃ wit, toWitEvent printer event = .ok wit ∧ fromWitEvent codec wit = .ok event) ∧
    ∀ msg : ChannelMessageEnvelope ReplyScope,
      fromWitMessage (toWitMessage msg) = msg.carried ∧
      (fromWitMessage (toWitMessage msg) = msg ↔
        msg.replyScope = none ∧ msg.correlationId = none) := by
  refine ⟨fromWitEvent_toWitEvent h, fun msg => ?_⟩
  rw [fromWitMessage_toWitMessage]
  exact ⟨rfl, carried_eq_self msg⟩

/-- `chrono` and `serde_json` on the time and the payload of `order`. -/
def epochPrinter : WitPrinter where
  toRfc3339 t := if t.nanos = 0 then "1970-01-01T00:00:00+00:00" else "?"
  jsonToString
    | .null => .ok "null"
    | _ => .error "?"

def epochCodec : WitCodec where
  parseFromRfc3339 s := if s = "1970-01-01T00:00:00+00:00" then .ok ⟨0⟩ else .error "bad time"
  eventId := utcCodec.eventId
  jsonFromStr := utcCodec.jsonFromStr

def correlatedMessage : ChannelMessageEnvelope Unit where
  id := "msg-1"
  tenant := tenantA
  channel := "chat"
  sessionId := "session-1"
  replyScope := none
  userId := none
  correlationId := some "corr-1"
  text := some "hello"
  attachments := [⟨"text/plain", "https://example.com/a.txt", none, some 5⟩]
  metadata := .empty

theorem codecs_round_trip_order :
    (∃ wit, toWitEvent epochPrinter (order tenantA) = .ok wit ∧
      fromWitEvent epochCodec wit = .ok (order tenantA)) ∧
    fromWitMessage (toWitMessage correlatedMessage) = correlatedMessage.carried := by
  have hreads : ReadsBackPrinted epochCodec epochPrinter (order tenantA) :=
    ⟨rfl, rfl, "null", rfl, rfl⟩
  obtain ⟨hevent, hmessage⟩ := @codecs_round_trip Unit _ _ _ hreads
  exact ⟨hevent, (hmessage correlatedMessage).1⟩

/-- The correlation id of a message is lost on the way. -/
theorem message_codec_loses_correlationId :
    ¬ ∀ msg : ChannelMessageEnvelope Unit, fromWitMessage (toWitMessage msg) = msg := by
  intro hall
  have hback := (fromWitMessage_toWitMessage correlatedMessage).symm.trans (hall _)
  exact absurd ((carried_eq_self correlatedMessage).mp hback).2 (by decide)

end GreenticEvents
