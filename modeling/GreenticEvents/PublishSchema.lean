import Mathlib.Algebra.Order.Ring.Rat
import Mathlib.Data.Nat.Cast.Order.Ring
import GreenticEvents.Data.JsonSchema
import GreenticEvents.ProviderOps

/-!
# The publish validator against the schemas (`schemas/events`)
-/

namespace GreenticEvents
open Data JsonSchema

def textSchema : Schema := .allOf [.type .string, .minLength 1]

def nonNegativeInteger : Schema := .allOf [.type .integer, .minimum 0]

def textMapSchema : Schema := .allOf [.type .object, .properties [] (.type .string)]

def idClass : List Char :=
  ('A'...= 'Z').toList ++ ('a'...= 'z').toList ++ ('0'...= '9').toList ++ ['.', '_', '-']

def idSchema : Schema :=
  .allOf [.type .string, .pattern ⟨true, oneOrMore (oneOf idClass), true⟩]

def payloadSchema : Schema := .anyOf [.type .object, .type .array, .type .string, .type .number,
  .type .boolean, .type .null]

def metaSchema : Schema := .allOf [
  .type .object,
  .properties [
    ("tenant", textSchema),
    ("tags", .allOf [.type .array, .items textSchema])] .any]

def tenantSchema : Schema := .allOf [
  .type .object,
  .properties [
    ("env", textSchema),
    ("tenant", textSchema),
    ("tenant_id", textSchema),
    ("team", textSchema),
    ("team_id", textSchema),
    ("user", textSchema),
    ("user_id", textSchema),
    ("session_id", textSchema),
    ("flow_id", textSchema),
    ("node_id", textSchema),
    ("provider_id", textSchema),
    ("trace_id", textSchema),
    ("correlation_id", textSchema),
    ("attributes", textMapSchema),
    ("deadline", .allOf [
      .type .object,
      .properties [("unix_millis", nonNegativeInteger)] .never,
      .required ["unix_millis"]]),
    ("attempt", nonNegativeInteger),
    ("idempotency_key", textSchema),
    ("impersonation", .allOf [.type .object, .properties [] .any])] .any,
  .required ["env", "tenant", "tenant_id", "attempt"]]

/-- `event_envelope.schema.json` -/
def eventEnvelopeSchema : Schema := .allOf [
  .type .object,
  .properties [
    ("id", idSchema),
    ("topic", textSchema),
    ("type", textSchema),
    ("source", textSchema),
    ("subject", textSchema),
    ("ts", .type .string),
    ("time", .type .string),
    ("correlation_id", textSchema),
    ("payload", payloadSchema),
    ("meta", metaSchema),
    ("metadata", textMapSchema),
    ("tenant", tenantSchema)] .any,
  .required ["payload"]]

def optionsSchema : Schema := .allOf [
  .type .object,
  .properties [
    ("dedupe_key", textSchema),
    ("ttl_seconds", nonNegativeInteger),
    ("priority", .allOf [.type .string, .enum ["low", "normal", "high"]])] .never]

/-- `publish.input.schema.json` -/
def publishInputSchema : Schema := .allOf [
  .type .object,
  .properties [
    ("topic", textSchema),
    ("event", .allOf [eventEnvelopeSchema, .allOf [.type .object, .required ["payload"]]]),
    ("options", optionsSchema)] .never,
  .required ["topic", "event"]]

/-- The value of a binary64, which is finite in every JSON number. -/
def floatValue (bits : UInt64) : ℚ :=
  let exponent : ℕ := bits.toNat / 2 ^ 52 % 2 ^ 11
  let fraction : ℕ := bits.toNat % 2 ^ 52
  let size : ℚ :=
    if exponent = 0 then fraction * 2 / 2 ^ 1075
    else (2 ^ 52 + fraction) * 2 ^ exponent / 2 ^ 1075
  if bits.toNat / 2 ^ 63 = 0 then size else -size

def Number.value : Number → ℚ
  | posInt n => n.toNat
  | negInt n => n.toInt
  | float bits => floatValue bits

def Json.view : Json → Shape Json
  | null => .null
  | bool b => .bool b
  | number n => .number n.value
  | string s => .string s
  | array values => .array values
  | object entries => .object entries

theorem valid_textSchema {s : String} : textSchema.Valid Json.view (.string s) ↔ s ≠ "" := by
  have hview : Json.view (.string s) = .string s := rfl
  have hkind : Kind.string.Has (.string s : Shape Json) := trivial
  simp only [textSchema, valid_allOf_cons, valid_allOf_nil, valid_type, valid_minLength hview,
    hview, hkind, Nat.one_le_iff_ne_zero, ne_eq, String.length_eq_zero_iff, true_and, and_true]

theorem valid_payloadSchema (payload : Json) : payloadSchema.Valid Json.view payload := by
  rw [payloadSchema, valid_anyOf]
  cases payload with
  | null => exact ⟨.type .null, by simp, valid_type.mpr trivial⟩
  | bool b => exact ⟨.type .boolean, by simp, valid_type.mpr trivial⟩
  | number n => exact ⟨.type .number, by simp, valid_type.mpr trivial⟩
  | string s => exact ⟨.type .string, by simp, valid_type.mpr trivial⟩
  | array values => exact ⟨.type .array, by simp, valid_type.mpr trivial⟩
  | object entries => exact ⟨.type .object, by simp, valid_type.mpr trivial⟩

theorem mem_idClass {c : Char} : c ∈ idClass ↔ isIdChar c = true := by
  simp only [isIdChar_iff, idClass, List.mem_append, Std.Rcc.mem_toList_iff_mem, Std.Rcc.mem_iff,
    List.mem_cons, List.not_mem_nil, or_false, or_assoc]

/-- An id matches its pattern when it is not empty and its characters are in the class. -/
theorem valid_idSchema {s : String} :
    idSchema.Valid Json.view (.string s) ↔ s ≠ "" ∧ s.toList.all isIdChar = true := by
  have hview : Json.view (.string s) = .string s := rfl
  have hkind : Kind.string.Has (.string s : Shape Json) := trivial
  simp only [idSchema, valid_allOf_cons, valid_allOf_nil, valid_type, valid_pattern hview, hview,
    hkind, Pattern.matches_anchored, mem_oneOrMore_oneOf, mem_idClass, List.all_eq_true, ne_eq,
    String.toList_eq_nil_iff, true_and, and_true]

theorem valid_ofFields {fields : List (String × Option Json)} (hn : (fields.map Prod.fst).Nodup)
    {named : List (String × Schema)} {additional : Schema} :
    (Schema.properties named additional).Valid Json.view (.ofFields fields) ↔
      ∀ f ∈ fields, ∀ value ∈ f.2,
        MemberValid Json.view named f.1 value (additional.Valid Json.view value) := by
  have hview : Json.view (.ofFields fields) = .object (BTreeMap.ofFields fields).entries := rfl
  rw [valid_properties hview]
  constructor
  · intro h f hf value hv
    have hmem : (f.1, some value) ∈ fields := by
      rw [← Option.mem_def.mp hv]
      exact hf
    exact h (f.1, value) ((BTreeMap.mem_entries _).mpr ((BTreeMap.get_ofFields hn).mpr hmem))
  · intro h m hm
    exact h (m.1, some m.2) ((BTreeMap.get_ofFields hn).mp ((BTreeMap.mem_entries _).mp hm)) m.2 rfl

theorem required_ofFields {fields : List (String × Option Json)}
    (hn : (fields.map Prod.fst).Nodup) {names : List String}
    (h : ∀ name ∈ names, ∃ value, (name, some value) ∈ fields) :
    (Schema.required names).Valid Json.view (.ofFields fields) := by
  have hview : Json.view (.ofFields fields) = .object (BTreeMap.ofFields fields).entries := rfl
  rw [valid_required hview]
  intro name hname
  obtain ⟨value, hvalue⟩ := h name hname
  have hmem := (BTreeMap.mem_entries _).mpr ((BTreeMap.get_ofFields hn).mpr hvalue)
  exact List.mem_map.mpr ⟨_, hmem, rfl⟩

theorem ne_empty_of_not_blank {s : String} (h : isBlank s = false) : s ≠ "" := by
  intro he
  rw [he] at h
  exact absurd h (by decide)

theorem valid_nonNegativeInteger (n : UInt64) :
    nonNegativeInteger.Valid Json.view (.number (.posInt n)) := by
  have hview : Json.view (.number (.posInt n)) = .number (n.toNat : ℚ) := rfl
  rw [nonNegativeInteger, valid_allOf_cons, valid_allOf_cons, valid_type, valid_minimum hview,
    hview]
  refine ⟨?_, Nat.cast_nonneg n.toNat, valid_allOf_nil.mpr trivial⟩
  show Rat.isInt (n.toNat : ℚ) = true
  simp [Rat.isInt]

theorem valid_priority (priority : PublishPriority) :
    (Schema.allOf [.type .string, .enum ["low", "normal", "high"]]).Valid Json.view
      priority.toJson := by
  obtain ⟨s, hs, hmem⟩ : ∃ s, priority.toJson = .string s ∧ s ∈ ["low", "normal", "high"] := by
    cases priority with
    | low => exact ⟨"low", rfl, by simp⟩
    | normal => exact ⟨"normal", rfl, by simp⟩
    | high => exact ⟨"high", rfl, by simp⟩
  have hview : Json.view (.string s) = .string s := rfl
  rw [hs, valid_allOf_cons, valid_allOf_cons, valid_enum hview]
  exact ⟨valid_type.mpr trivial, hmem, valid_allOf_nil.mpr trivial⟩

theorem valid_options {options : PublishOptions}
    (hkey : ∀ t ∈ options.dedupeKey, isBlank t = false) :
    optionsSchema.Valid Json.view options.toJson := by
  rw [optionsSchema, PublishOptions.toJson, valid_allOf_cons, valid_allOf_cons,
    valid_ofFields (by simp)]
  refine ⟨valid_type.mpr trivial, ?_, valid_allOf_nil.mpr trivial⟩
  simp only [List.forall_mem_cons, List.not_mem_nil, false_imp_iff, implies_true, and_true,
    Option.mem_def, Option.map_eq_some_iff, forall_exists_index, and_imp,
    forall_apply_eq_imp_iff₂, memberValid_cons, ↓reduceIte, String.reduceEq]
  exact ⟨fun t ht => valid_textSchema.mpr (ne_empty_of_not_blank (hkey t ht)),
    fun n _ => valid_nonNegativeInteger n, fun priority _ => valid_priority priority⟩

theorem valid_metadata (metadata : BTreeMap String String) :
    textMapSchema.Valid Json.view (metadataToJson metadata) := by
  rw [textMapSchema, valid_allOf_cons, valid_allOf_cons, valid_properties rfl]
  refine ⟨valid_type.mpr trivial, ?_, valid_allOf_nil.mpr trivial⟩
  intro m hm
  obtain ⟨e, he, rfl⟩ := List.mem_map.mp hm
  exact memberValid_nil.mpr (valid_type.mpr trivial)

theorem valid_tags {tags : List String} (h : ∀ t ∈ tags, isBlank t = false) :
    (Schema.allOf [.type .array, .items textSchema]).Valid Json.view
      (.array (tags.map .string)) := by
  rw [valid_allOf_cons, valid_allOf_cons, valid_items rfl]
  refine ⟨valid_type.mpr trivial, ?_, valid_allOf_nil.mpr trivial⟩
  intro value hvalue
  obtain ⟨t, ht, rfl⟩ := List.mem_map.mp hvalue
  exact valid_textSchema.mpr (ne_empty_of_not_blank (h t ht))

/-- `extra` holds neither of the two fields that are written before it. -/
def EventMeta.Separate (m : EventMeta) : Prop :=
  m.extra.get "tenant" = none ∧ m.extra.get "tags" = none

theorem not_mem_keys {κ ν : Type} [LinearOrder κ] {m : BTreeMap κ ν} {k : κ}
    (h : m.get k = none) : k ∉ m.entries.map Prod.fst := by
  intro hk
  obtain ⟨e, he, rfl⟩ := List.mem_map.mp hk
  have hget := m.mem_entries.mp he
  rw [h] at hget
  cases hget

/-- The fields of a separate meta value have distinct keys. -/
theorem EventMeta.Separate.nodup {m : EventMeta} (h : m.Separate) (tenant tags : Option Json) :
    (([("tenant", tenant), ("tags", tags)] ++
      m.extra.entries.map fun e => (e.1, some e.2)).map Prod.fst).Nodup := by
  have hkeys : (m.extra.entries.map fun e => (e.1, some e.2)).map Prod.fst =
      m.extra.entries.map Prod.fst := by
    rw [List.map_map]
    rfl
  rw [List.map_append, hkeys]
  have hextra : (m.extra.entries.map Prod.fst).Nodup := m.extra.sorted.imp ne_of_lt
  simpa [not_mem_keys h.1, not_mem_keys h.2] using hextra

theorem valid_meta {m : EventMeta} (hseparate : m.Separate)
    (htenant : ∀ t ∈ m.tenant, isBlank t = false) (htags : ∀ t ∈ m.tags, isBlank t = false) :
    metaSchema.Valid Json.view m.toJson := by
  rw [metaSchema, EventMeta.toJson, valid_allOf_cons, valid_allOf_cons,
    valid_ofFields (hseparate.nodup _ _)]
  refine ⟨valid_type.mpr trivial, ?_, valid_allOf_nil.mpr trivial⟩
  rw [List.forall_mem_append]
  constructor
  · simp only [List.forall_mem_cons, List.not_mem_nil, false_imp_iff, implies_true, and_true,
      Option.mem_def, Option.map_eq_some_iff, skipIf, Option.ite_none_left_eq_some,
      Option.some.injEq, forall_exists_index, and_imp, forall_apply_eq_imp_iff₂, memberValid_cons,
      ↓reduceIte, String.reduceEq]
    refine ⟨fun t ht => valid_textSchema.mpr (ne_empty_of_not_blank (htenant t ht)), ?_⟩
    rintro value - rfl
    exact valid_tags htags
  · intro f hf value hv
    obtain ⟨e, he, rfl⟩ := List.mem_map.mp hf
    have hkey : e.1 ∈ m.extra.entries.map Prod.fst := List.mem_map_of_mem he
    -- a flattened entry falls under `additionalProperties`
    have hother : e.1 ∉ ["tenant", "tags"] := by
      intro h
      rcases List.mem_pair.mp h with h | h
      · exact not_mem_keys hseparate.1 (h ▸ hkey)
      · exact not_mem_keys hseparate.2 (h ▸ hkey)
    exact (memberValid_of_not_mem hother).mpr valid_any

/-- What the schema asks beyond the validator: ids keep to their characters, and a
correlation id is not empty. -/
def EventEnvelopeInput.Strict (event : EventEnvelopeInput) : Prop :=
  (∀ id ∈ event.id, id.toList.all isIdChar = true) ∧ ∀ c ∈ event.correlationId, c ≠ ""

section Input

variable {serialize : TenantCtx → Json} {isRfc3339 : String → Bool}

theorem payload_required (event : EventEnvelopeInput) :
    (Schema.required ["payload"]).Valid Json.view (event.toJson serialize) := by
  apply required_ofFields (by simp)
  intro name hname
  rw [List.mem_singleton.mp hname]
  exact ⟨event.payload, by simp⟩

theorem valid_event {input : PublishInput} (h : input.Valid isRfc3339)
    (hseparate : input.event.eventMeta.Separate)
    (htenant : ∀ t ∈ input.event.tenant, tenantSchema.Valid Json.view (serialize t)) :
    eventEnvelopeSchema.Valid Json.view (input.event.toJson serialize) ↔ input.event.Strict := by
  have hpayload : (Schema.required ["payload"]).Valid Json.view (input.event.toJson serialize) :=
    payload_required _
  rw [eventEnvelopeSchema, valid_allOf_cons, valid_allOf_cons, valid_allOf_cons,
    iff_true_intro hpayload, EventEnvelopeInput.toJson, valid_ofFields (by simp)]
  simp only [List.forall_mem_cons, List.not_mem_nil, false_imp_iff, implies_true, and_true,
    Option.mem_def, Option.map_eq_some_iff, skipIf, Option.ite_none_left_eq_some,
    Option.some.injEq, forall_exists_index, and_imp, forall_apply_eq_imp_iff₂, memberValid_cons,
    ↓reduceIte, String.reduceEq, valid_textSchema, valid_idSchema, valid_allOf_nil]
  constructor
  · rintro ⟨-, id, -, -, -, -, -, -, correlationId, -⟩
    exact ⟨fun t ht => (id t ht).2, correlationId⟩
  · intro hstrict
    have hnonempty {text : Option String} (ht : ∀ t ∈ text, isBlank t = false) :
        ∀ t, text = some t → t ≠ "" := fun t he => ne_empty_of_not_blank (ht t he)
    -- one goal for each property of the schema, in its order
    refine ⟨valid_type.mpr trivial, ?_, ?_, hnonempty h.type, hnonempty h.source,
      hnonempty h.subject, fun t _ => valid_type.mpr trivial, fun t _ => valid_type.mpr trivial,
      hstrict.2, fun value _ => valid_payloadSchema value, ?_, ?_, htenant⟩
    · exact fun t ht => ⟨hnonempty h.id t ht, hstrict.1 t ht⟩
    · -- the event's topic is the input's, which is not blank
      intro t ht
      rw [h.eventTopic t ht]
      exact ne_empty_of_not_blank h.topic
    · rintro value - rfl
      exact valid_meta hseparate h.metaTenant h.tags
    · rintro value - rfl
      exact valid_metadata input.event.metadata

/-- The serialization of a valid input meets the schema when its event is strict. -/
theorem valid_input {input : PublishInput} (h : input.Valid isRfc3339)
    (hseparate : input.event.eventMeta.Separate)
    (htenant : ∀ t ∈ input.event.tenant, tenantSchema.Valid Json.view (serialize t)) :
    publishInputSchema.Valid Json.view (input.toJson serialize) ↔ input.event.Strict := by
  have hrequired : (Schema.required ["topic", "event"]).Valid Json.view
      (input.toJson serialize) := by
    apply required_ofFields (by simp)
    intro name hname
    rcases List.mem_pair.mp hname with rfl | rfl
    · exact ⟨.string input.topic, by simp⟩
    · exact ⟨input.event.toJson serialize, by simp⟩
  rw [publishInputSchema, valid_allOf_cons, valid_allOf_cons, valid_allOf_cons,
    iff_true_intro hrequired, PublishInput.toJson, valid_ofFields (by simp)]
  simp only [List.forall_mem_cons, List.not_mem_nil, false_imp_iff, implies_true, and_true,
    Option.mem_def, Option.map_eq_some_iff, Option.some.injEq, forall_exists_index, and_imp,
    forall_apply_eq_imp_iff₂, forall_eq', memberValid_cons, ↓reduceIte, String.reduceEq,
    valid_textSchema, valid_allOf_cons, valid_allOf_nil, payload_required,
    valid_event h hseparate htenant]
  constructor
  · rintro ⟨-, -, ⟨hstrict, -⟩, -⟩
    exact hstrict
  · intro hstrict
    exact ⟨valid_type.mpr trivial, ne_empty_of_not_blank h.topic,
      ⟨hstrict, valid_type.mpr trivial⟩, fun options ho => valid_options (h.dedupeKey options ho)⟩

end Input

/-- The serialization of an accepted input meets the schema exactly when its id, if it has one,
is made of letters, digits, dots, underscores and hyphens, and its correlation id is not empty. -/
theorem accepted_meets_schema_iff (serialize : TenantCtx → Json) (isRfc3339 : String → Bool)
    (input : PublishInput) (haccepted : validatePublishInput isRfc3339 input = .ok ())
    (hseparate : input.event.eventMeta.Separate)
    (htenant : ∀ t ∈ input.event.tenant, tenantSchema.Valid Json.view (serialize t)) :
    publishInputSchema.Valid Json.view (input.toJson serialize) ↔ input.event.Strict :=
  valid_input (validatePublishInput_ok.mp haccepted) hseparate htenant

def requiredTenantJson (tenant : TenantCtx) : Json := .ofFields [
  ("env", some (.string tenant.env)),
  ("tenant", some (.string tenant.tenant.raw)),
  ("tenant_id", some (.string tenant.tenant.raw)),
  ("attempt", some (.number (.posInt 0)))]

def orderInput : PublishInput where
  topic := "orders.created"
  event := {
    id := some "evt-12345"
    topic := none
    type := some "order.created"
    source := none
    subject := none
    ts := some "2024-01-02T03:04:05Z"
    time := none
    correlationId := some "ord-1"
    payload := .null
    eventMeta := ⟨some "tenant-a", ["orders", "created"], BTreeMap.empty.insert "region" .null⟩
    metadata := .empty
    tenant := some ⟨"dev", ⟨"shop", by decide⟩, .null⟩ }
  options := some ⟨some "order-ord-1", some 3600, some .normal⟩

theorem valid_requiredTenantJson {tenant : TenantCtx} (henv : tenant.env ≠ "")
    (hid : tenant.tenant.raw ≠ "") :
    tenantSchema.Valid Json.view (requiredTenantJson tenant) := by
  have hrequired : (Schema.required ["env", "tenant", "tenant_id", "attempt"]).Valid Json.view
      (requiredTenantJson tenant) := required_ofFields (by simp) (by simp)
  rw [tenantSchema, valid_allOf_cons, valid_allOf_cons, valid_allOf_cons,
    iff_true_intro hrequired, requiredTenantJson, valid_ofFields (by simp)]
  refine ⟨valid_type.mpr trivial, ?_, trivial, valid_allOf_nil.mpr trivial⟩
  simp only [List.forall_mem_cons, List.not_mem_nil, false_imp_iff, implies_true, and_true,
    Option.mem_def, Option.some.injEq, forall_eq', memberValid_cons, ↓reduceIte, String.reduceEq,
    valid_textSchema]
  exact ⟨henv, hid, hid, valid_nonNegativeInteger 0⟩

theorem accepted_meets_schema_iff_order :
    publishInputSchema.Valid Json.view (orderInput.toJson requiredTenantJson) :=
  (accepted_meets_schema_iff requiredTenantJson (· == "2024-01-02T03:04:05Z") orderInput rfl
    ⟨rfl, rfl⟩ (by
      intro t ht
      obtain rfl := Option.some.inj ht
      exact valid_requiredTenantJson (by decide) (by decide))).mpr
    ⟨by
      intro t ht
      obtain rfl := Option.some.inj ht
      decide, by
      intro t ht
      obtain rfl := Option.some.inj ht
      decide⟩

def emptyCorrelationInput : PublishInput :=
  { orderInput with
    event := { orderInput.event with correlationId := some "", tenant := none } }

theorem empty_correlationId_accepted :
    validatePublishInput (· == "2024-01-02T03:04:05Z") emptyCorrelationInput = .ok () ∧
    emptyCorrelationInput.event.eventMeta.Separate ∧ emptyCorrelationInput.event.tenant = none ∧
    ¬ publishInputSchema.Valid Json.view (emptyCorrelationInput.toJson requiredTenantJson) := by
  have haccepted : validatePublishInput (· == "2024-01-02T03:04:05Z") emptyCorrelationInput =
      .ok () := rfl
  have hseparate : emptyCorrelationInput.event.eventMeta.Separate := ⟨rfl, rfl⟩
  refine ⟨haccepted, hseparate, rfl, ?_⟩
  rw [valid_input (validatePublishInput_ok.mp haccepted) hseparate (by intro t ht; cases ht)]
  intro hstrict
  exact hstrict.2 "" rfl rfl

end GreenticEvents
