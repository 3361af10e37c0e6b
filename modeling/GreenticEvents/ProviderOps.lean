import GreenticEvents.Text
import GreenticEvents.Types

/-!
# The provider-core publish input (`provider_ops.rs`, `validate.rs`)
-/

namespace GreenticEvents
open Data

inductive PublishPriority where
  | low
  | normal
  | high
  deriving DecidableEq

structure PublishOptions where
  dedupeKey : Option String
  ttlSeconds : Option UInt64
  priority : Option PublishPriority

structure EventMeta where
  tenant : Option String
  tags : List String
  extra : BTreeMap String Json

def EventMeta.isEmpty (m : EventMeta) : Bool :=
  m.tenant.isNone && m.tags.isEmpty && m.extra.entries.isEmpty

structure EventEnvelopeInput where
  id : Option String
  topic : Option String
  type : Option String
  source : Option String
  subject : Option String
  ts : Option String
  time : Option String
  correlationId : Option String
  payload : Json
  eventMeta : EventMeta
  metadata : BTreeMap String String
  tenant : Option TenantCtx

structure PublishInput where
  topic : String
  event : EventEnvelopeInput
  options : Option PublishOptions

/-- The object of a struct's fields; `skip_serializing_if` leaves a field without a value. -/
def Json.ofFields (fields : List (String × Option Json)) : Json :=
  object (BTreeMap.ofFields fields).entries

/-- `skip_serializing_if` of a field that is not an option. -/
def skipIf (skip : Bool) (value : Json) : Option Json := if skip then none else some value

def PublishPriority.toJson : PublishPriority → Json
  | low => .string "low"
  | normal => .string "normal"
  | high => .string "high"

def PublishOptions.toJson (options : PublishOptions) : Json := .ofFields [
  ("dedupe_key", options.dedupeKey.map .string),
  ("ttl_seconds", options.ttlSeconds.map fun n => .number (.posInt n)),
  ("priority", options.priority.map PublishPriority.toJson)]

/-- The entries of `extra` are flattened, after the two fields with names. -/
def EventMeta.toJson (m : EventMeta) : Json := .ofFields <| [
  ("tenant", m.tenant.map .string),
  ("tags", skipIf m.tags.isEmpty (.array (m.tags.map .string)))] ++
  m.extra.entries.map fun e => (e.1, some e.2)

def metadataToJson (metadata : BTreeMap String String) : Json :=
  .object (metadata.entries.map fun e => (e.1, .string e.2))

/-- `serialize` is that of `greentic_types::TenantCtx`. -/
def EventEnvelopeInput.toJson (serialize : TenantCtx → Json) (event : EventEnvelopeInput) : Json :=
  .ofFields [
    ("id", event.id.map .string),
    ("topic", event.topic.map .string),
    ("type", event.type.map .string),
    ("source", event.source.map .string),
    ("subject", event.subject.map .string),
    ("ts", event.ts.map .string),
    ("time", event.time.map .string),
    ("correlation_id", event.correlationId.map .string),
    ("payload", some event.payload),
    ("meta", skipIf event.eventMeta.isEmpty event.eventMeta.toJson),
    ("metadata", skipIf event.metadata.entries.isEmpty (metadataToJson event.metadata)),
    ("tenant", event.tenant.map serialize)]

def PublishInput.toJson (serialize : TenantCtx → Json) (input : PublishInput) : Json := .ofFields [
  ("topic", some (.string input.topic)),
  ("event", some (input.event.toJson serialize)),
  ("options", input.options.map PublishOptions.toJson)]

structure ValidationIssue where
  messages : List String

def requireText (field : String) (text : Option String) : List String :=
  if text.any isBlank then [field ++ " must not be empty when provided"] else []

def eventTopicMessages (topic : String) : Option String → List String
  | none => []
  | some eventTopic =>
    if isBlank eventTopic then ["event.topic must not be empty when provided"]
    else if eventTopic ≠ topic then
      ["event.topic must match the top-level topic when provided"]
    else []

def requireRfc3339 (isRfc3339 : String → Bool) (field : String) (text : Option String) :
    List String :=
  if text.any (!isRfc3339 ·) then [field ++ " must be an RFC3339 timestamp"] else []

def timeMessages : Option String → Option String → List String
  | some ts, some time =>
    if ts ≠ time then ["event.ts and event.time must match when both are provided"] else []
  | _, _ => []

def tagsMessages (tags : List String) : List String :=
  if tags.any isBlank then ["event.meta.tags entries must not be empty"] else []

/-- `isRfc3339` is the parser of `chrono`; every message is collected before any is returned. -/
def validatePublishInput (isRfc3339 : String → Bool) (input : PublishInput) :
    Except ValidationIssue Unit :=
  let event := input.event
  -- the correlation id is not looked at, and an id may hold any character
  let errors :=
    (if isBlank input.topic then ["topic must not be empty"] else []) ++
    eventTopicMessages input.topic event.topic ++
    requireText "event.id" event.id ++
    requireText "event.type" event.type ++
    requireText "event.source" event.source ++
    requireText "event.subject" event.subject ++
    requireRfc3339 isRfc3339 "event.ts" event.ts ++
    requireRfc3339 isRfc3339 "event.time" event.time ++
    timeMessages event.ts event.time ++
    requireText "event.meta.tenant" event.eventMeta.tenant ++
    tagsMessages event.eventMeta.tags ++
    requireText "options.dedupe_key" (input.options.bind PublishOptions.dedupeKey)
  if errors.isEmpty then .ok () else .error ⟨errors⟩

/-- What the validator asks of an input. -/
structure PublishInput.Valid (isRfc3339 : String → Bool) (input : PublishInput) : Prop where
  topic : isBlank input.topic = false
  eventTopic : ∀ t ∈ input.event.topic, t = input.topic
  id : ∀ t ∈ input.event.id, isBlank t = false
  type : ∀ t ∈ input.event.type, isBlank t = false
  source : ∀ t ∈ input.event.source, isBlank t = false
  subject : ∀ t ∈ input.event.subject, isBlank t = false
  ts : ∀ t ∈ input.event.ts, isRfc3339 t = true
  time : ∀ t ∈ input.event.time, isRfc3339 t = true
  sameTime : ∀ t ∈ input.event.ts, ∀ u ∈ input.event.time, t = u
  metaTenant : ∀ t ∈ input.event.eventMeta.tenant, isBlank t = false
  tags : ∀ t ∈ input.event.eventMeta.tags, isBlank t = false
  dedupeKey : ∀ options ∈ input.options, ∀ t ∈ options.dedupeKey, isBlank t = false

theorem requireText_eq_nil {field : String} {text : Option String} :
    requireText field text = [] ↔ ∀ t ∈ text, isBlank t = false := by
  unfold requireText
  cases text with
  | none => simp
  | some t => simp

theorem requireRfc3339_eq_nil {isRfc3339 : String → Bool} {field : String}
    {text : Option String} :
    requireRfc3339 isRfc3339 field text = [] ↔ ∀ t ∈ text, isRfc3339 t = true := by
  unfold requireRfc3339
  cases text with
  | none => simp
  | some t => simp

theorem timeMessages_eq_nil {ts time : Option String} :
    timeMessages ts time = [] ↔ ∀ t ∈ ts, ∀ u ∈ time, t = u := by
  cases ts with
  | none => simp [timeMessages]
  | some t =>
    cases time with
    | none => simp [timeMessages]
    | some u => simp [timeMessages]

theorem tagsMessages_eq_nil {tags : List String} :
    tagsMessages tags = [] ↔ ∀ t ∈ tags, isBlank t = false := by
  unfold tagsMessages
  by_cases h : tags.any isBlank = true
  · obtain ⟨t, ht, hblank⟩ := List.any_eq_true.mp h
    rw [if_pos h]
    exact iff_of_false (List.cons_ne_nil _ _) fun hall => by simp [hall t ht] at hblank
  · rw [if_neg h]
    exact iff_of_true rfl (by simpa using h)

theorem eventTopicMessages_eq_nil {topic : String} (h : isBlank topic = false)
    {eventTopic : Option String} :
    eventTopicMessages topic eventTopic = [] ↔ ∀ t ∈ eventTopic, t = topic := by
  cases eventTopic with
  | none => simp [eventTopicMessages]
  | some t =>
    by_cases ht : t = topic
    · subst ht
      simp [eventTopicMessages, h]
    · by_cases hb : isBlank t = true
      · simp [eventTopicMessages, hb, ht]
      · simp [eventTopicMessages, hb, ht]

/-- The messages of all checks together are empty when each check finds nothing. -/
theorem validatePublishInput_ok {isRfc3339 : String → Bool} {input : PublishInput} :
    validatePublishInput isRfc3339 input = .ok () ↔ input.Valid isRfc3339 := by
  have hdedupe : (∀ t ∈ input.options.bind PublishOptions.dedupeKey, isBlank t = false) ↔
      ∀ options ∈ input.options, ∀ t ∈ options.dedupeKey, isBlank t = false := by
    cases input.options with
    | none => simp
    | some options => simp
  have hif (c : Prop) [Decidable c] (m : String) : (if c then [m] else []) = [] ↔ ¬ c := by
    by_cases hc : c
    · simp [hc]
    · simp [hc]
  have hempty (errors : List String) :
      (if errors.isEmpty then (.ok () : Except ValidationIssue Unit) else .error ⟨errors⟩) =
        .ok () ↔ errors = [] := by
    cases errors with
    | nil => simp
    | cons e errors => simp
  unfold validatePublishInput
  simp only [hempty, List.append_eq_nil_iff, hif, requireText_eq_nil, requireRfc3339_eq_nil,
    timeMessages_eq_nil, tagsMessages_eq_nil, hdedupe, Bool.not_eq_true, and_assoc]
  constructor
  · rintro ⟨topic, eventTopic, id, type, source, subject, ts, time, sameTime, metaTenant, tags,
      dedupeKey⟩
    exact { topic, id, type, source, subject, ts, time, sameTime, metaTenant, tags, dedupeKey,
            eventTopic := (eventTopicMessages_eq_nil topic).mp eventTopic }
  · intro h
    exact ⟨h.topic, (eventTopicMessages_eq_nil h.topic).mpr h.eventTopic, h.id, h.type, h.source,
      h.subject, h.ts, h.time, h.sameTime, h.metaTenant, h.tags, h.dedupeKey⟩

end GreenticEvents
