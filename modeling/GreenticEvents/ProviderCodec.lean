import GreenticEvents.PublishSchema

/-!
# Decoding the provider-core publish types (`provider_ops.rs`)

The decoders are those `serde` derives from the attributes of the types.
-/

namespace GreenticEvents
open Data

inductive PublishStatus where
  | published
  | queued
  deriving DecidableEq

structure PublishOutput where
  receiptId : String
  providerEventId : Option String
  status : PublishStatus
  ts : Option String

def PublishStatus.toJson : PublishStatus → Json
  | published => .string "published"
  | queued => .string "queued"

def PublishOutput.toJson (output : PublishOutput) : Json := .ofFields [
  ("receipt_id", some (.string output.receiptId)),
  ("provider_event_id", output.providerEventId.map .string),
  ("status", some output.status.toJson),
  ("ts", output.ts.map .string)]

/-- The implementations of `greentic_types`. -/
structure TenantCodec where
  serialize : TenantCtx → Json
  deserialize : Json → Option TenantCtx

section Fields

variable {α : Type}

/-- The fields of a struct, by name from an object and by place from an array. -/
def Json.structFields (names : List String) : Json → Option (String → Option Json)
  | object entries => some fun name => entries.lookup name
  | array values =>
    if values.length ≤ names.length then some fun name => (names.zip values).lookup name else none
  | _ => none

def requiredField (decode : Json → Option α) (value : Option Json) : Option α := value.bind decode

/-- `default` of an option; `null` is no value either. -/
def optionalField (decode : Json → Option α) : Option Json → Option (Option α)
  | none => some none
  | some .null => some none
  | some value => (decode value).map some

/-- `default` of a field that is not an option. -/
def defaultField (default : α) (decode : Json → Option α) : Option Json → Option α
  | none => some default
  | some value => decode value

/-- A unit variant is its name, or an object with its name and `null`. -/
def unitVariant (variant : String → Option α) : Json → Option α
  | .string name => variant name
  | .object [(name, .null)] => variant name
  | _ => none

end Fields

def textListFromJson (value : Json) : Option (List String) := do
  let values ← value.asArray
  values.mapM Json.asStr

def metadataFromJson : Json → Option (BTreeMap String String)
  | .object entries => do
    let texts ← entries.mapM fun e => e.2.asStr.map (Prod.mk e.1)
    return .ofEntries texts
  | _ => none

def PublishPriority.fromJson : Json → Option PublishPriority := unitVariant fun
  | "low" => some low
  | "normal" => some normal
  | "high" => some high
  | _ => none

def PublishStatus.fromJson : Json → Option PublishStatus := unitVariant fun
  | "published" => some published
  | "queued" => some queued
  | _ => none

def PublishOptions.fromJson (doc : Json) : Option PublishOptions := do
  let field ← doc.structFields ["dedupe_key", "ttl_seconds", "priority"]
  return {
    dedupeKey := ← optionalField Json.asStr (field "dedupe_key")
    ttlSeconds := ← optionalField Json.asU64 (field "ttl_seconds")
    priority := ← optionalField PublishPriority.fromJson (field "priority") }

/-- A struct with a flattened map is read from an object only; the map has what the two fields
leave. -/
def EventMeta.fromJson : Json → Option EventMeta
  | .object entries => do
    let rest := entries.filter fun e => e.1 ≠ "tenant" && e.1 ≠ "tags"
    return {
      tenant := ← optionalField Json.asStr (entries.lookup "tenant")
      tags := ← defaultField [] textListFromJson (entries.lookup "tags")
      extra := .ofEntries rest }
  | _ => none

def EventEnvelopeInput.fromJson (deserialize : Json → Option TenantCtx) (doc : Json) :
    Option EventEnvelopeInput := do
  let field ← doc.structFields ["id", "topic", "type", "source", "subject", "ts", "time",
    "correlation_id", "payload", "meta", "metadata", "tenant"]
  return {
    id := ← optionalField Json.asStr (field "id")
    topic := ← optionalField Json.asStr (field "topic")
    type := ← optionalField Json.asStr (field "type")
    source := ← optionalField Json.asStr (field "source")
    subject := ← optionalField Json.asStr (field "subject")
    ts := ← optionalField Json.asStr (field "ts")
    time := ← optionalField Json.asStr (field "time")
    correlationId := ← optionalField Json.asStr (field "correlation_id")
    payload := ← requiredField some (field "payload")
    eventMeta := ← defaultField ⟨none, [], .empty⟩ EventMeta.fromJson (field "meta")
    metadata := ← defaultField .empty metadataFromJson (field "metadata")
    tenant := ← optionalField deserialize (field "tenant") }

def PublishInput.fromJson (deserialize : Json → Option TenantCtx) (doc : Json) :
    Option PublishInput := do
  let field ← doc.structFields ["topic", "event", "options"]
  return {
    topic := ← requiredField Json.asStr (field "topic")
    event := ← requiredField (EventEnvelopeInput.fromJson deserialize) (field "event")
    options := ← optionalField PublishOptions.fromJson (field "options") }

def PublishOutput.fromJson (doc : Json) : Option PublishOutput := do
  let field ← doc.structFields ["receipt_id", "provider_event_id", "status", "ts"]
  return {
    receiptId := ← requiredField Json.asStr (field "receipt_id")
    providerEventId := ← optionalField Json.asStr (field "provider_event_id")
    status := ← requiredField PublishStatus.fromJson (field "status")
    ts := ← optionalField Json.asStr (field "ts") }

/-- What is written under a field is read back, and is a value. -/
structure FieldReadsBack {α : Type} (decode : Json → Option α) (encode : α → Json) : Prop where
  decode_encode : ∀ a, decode (encode a) = some a
  ne_null : ∀ a, encode a ≠ .null

section FieldReadsBack

variable {α : Type} {decode : Json → Option α} {encode : α → Json}

theorem FieldReadsBack.optional (h : FieldReadsBack decode encode) (value : Option α) :
    optionalField decode (value.map encode) = some value := by
  cases value with
  | none => rfl
  | some a =>
    have hback := h.decode_encode a
    rw [Option.map_some]
    cases hvalue : encode a with
    | null => exact absurd hvalue (h.ne_null a)
    | _ =>
      rw [hvalue] at hback
      simp only [optionalField, hback, Option.map_some]

theorem defaultField_skipIf {default a : α} {skip : Bool} {value : Json}
    (hskip : skip = true → a = default) (hback : decode value = some a) :
    defaultField default decode (skipIf skip value) = some a := by
  cases skip with
  | true => exact congrArg some (hskip rfl).symm
  | false => exact hback

theorem readsBack_string : FieldReadsBack Json.asStr .string := ⟨fun _ => rfl, fun _ => nofun⟩

theorem readsBack_u64 : FieldReadsBack Json.asU64 fun n => .number (.posInt n) :=
  ⟨fun _ => rfl, fun _ => nofun⟩

end FieldReadsBack

theorem PublishPriority.readsBack : FieldReadsBack fromJson toJson where
  decode_encode p := by
    cases p with
    | low => rfl
    | normal => rfl
    | high => rfl
  ne_null p := by
    cases p with
    | low => nofun
    | normal => nofun
    | high => nofun

theorem PublishStatus.readsBack : FieldReadsBack fromJson toJson where
  decode_encode status := by
    cases status with
    | published => rfl
    | queued => rfl
  ne_null status := by
    cases status with
    | published => nofun
    | queued => nofun

theorem textListFromJson_array (texts : List String) :
    textListFromJson (.array (texts.map .string)) = some texts := by
  show (texts.map Json.string).mapM Json.asStr = some texts
  induction texts with
  | nil => rfl
  | cons t texts ih =>
    rw [List.map_cons, List.mapM_cons, ih]
    rfl

theorem metadataFromJson_toJson (metadata : BTreeMap String String) :
    metadataFromJson (metadataToJson metadata) = some metadata := by
  have htexts (entries : List (String × String)) :
      (entries.map fun e => (e.1, Json.string e.2)).mapM
        (fun e => e.2.asStr.map (Prod.mk e.1)) = some entries := by
    induction entries with
    | nil => rfl
    | cons e entries ih =>
      rw [List.map_cons, List.mapM_cons, ih]
      rfl
  simp [metadataFromJson, metadataToJson, htexts, BTreeMap.ofEntries_entries]

/-- The fields of an object that was written field by field. -/
theorem structFields_ofFields (names : List String) {fields : List (String × Option Json)}
    (hn : (fields.map Prod.fst).Nodup) :
    (Json.ofFields fields).structFields names = some fun name => (fields.lookup name).join := by
  show some (BTreeMap.ofFields fields).get = _
  rw [funext (BTreeMap.get_ofFields_eq_lookup hn)]

theorem PublishOptions.fromJson_toJson (options : PublishOptions) :
    fromJson options.toJson = some options := by
  rw [fromJson, toJson, structFields_ofFields _ (by simp)]
  simp [List.lookup_cons, readsBack_string.optional, readsBack_u64.optional,
    PublishPriority.readsBack.optional]

theorem PublishOptions.readsBack : FieldReadsBack fromJson toJson :=
  ⟨fromJson_toJson, fun _ => nofun⟩

theorem PublishOutput.fromJson_toJson (output : PublishOutput) :
    fromJson output.toJson = some output := by
  rw [fromJson, toJson, structFields_ofFields _ (by simp)]
  simp [List.lookup_cons, requiredField, readsBack_string.optional, readsBack_string.decode_encode,
    PublishStatus.readsBack.decode_encode]

/-- `isEmpty` holds of the default only. -/
theorem EventMeta.eq_of_isEmpty {m : EventMeta} (h : m.isEmpty = true) :
    m = ⟨none, [], .empty⟩ := by
  obtain ⟨tenant, tags, extra⟩ := m
  simp only [isEmpty, Bool.and_eq_true, Option.isNone_iff_eq_none, List.isEmpty_iff] at h
  obtain ⟨⟨rfl, rfl⟩, hextra⟩ := h
  rw [BTreeMap.eq_empty_of_isEmpty (List.isEmpty_iff.mpr hextra)]

/-- The entries that neither named field takes are those of `extra`. -/
theorem EventMeta.extra_readBack {m : EventMeta} (h : m.Separate) (tenant tags : Option Json) :
    let written : BTreeMap String Json := .ofFields ([("tenant", tenant), ("tags", tags)] ++
      m.extra.entries.map fun e => (e.1, some e.2))
    BTreeMap.ofEntries (written.entries.filter fun e => e.1 ≠ "tenant" && e.1 ≠ "tags") =
      m.extra := by
  intro written
  have hfiltered :
      ((written.entries.filter fun e => e.1 ≠ "tenant" && e.1 ≠ "tags").map Prod.fst).Nodup :=
    (written.sorted.imp ne_of_lt).sublist (List.filter_sublist.map _)
  -- key by key: the filter takes away the two named fields and nothing else
  apply BTreeMap.ext_get
  intro k
  apply Option.ext
  intro value
  rw [BTreeMap.get_ofEntries hfiltered, List.mem_filter, BTreeMap.mem_entries,
    BTreeMap.get_ofFields (h.nodup tenant tags), List.mem_append, ← BTreeMap.mem_entries]
  constructor
  · rintro ⟨hnamed | hextra, hkey⟩
    · rcases List.mem_pair.mp hnamed with heq | heq
      · cases heq
        exact absurd hkey (by simp)
      · cases heq
        exact absurd hkey (by simp)
    · obtain ⟨e, he, heq⟩ := List.mem_map.mp hextra
      cases heq
      exact he
  · intro hmem
    have hkey : k ∈ m.extra.entries.map Prod.fst := List.mem_map_of_mem hmem
    have htenant : k ≠ "tenant" := fun hk => not_mem_keys h.1 (hk ▸ hkey)
    have htags : k ≠ "tags" := fun hk => not_mem_keys h.2 (hk ▸ hkey)
    exact ⟨.inr (List.mem_map_of_mem hmem), by simp [htenant, htags]⟩

theorem EventMeta.fromJson_toJson {m : EventMeta} (h : m.Separate) :
    fromJson m.toJson = some m := by
  have hlookup (name : String) := BTreeMap.get_ofFields_eq_lookup (h.nodup
    (m.tenant.map .string) (skipIf m.tags.isEmpty (.array (m.tags.map .string)))) name
  have htenant := hlookup "tenant"
  have htags := hlookup "tags"
  have hextra := extra_readBack h (m.tenant.map .string)
    (skipIf m.tags.isEmpty (.array (m.tags.map .string)))
  have hdefault : defaultField [] textListFromJson
      (skipIf m.tags.isEmpty (.array (m.tags.map .string))) = some m.tags :=
    defaultField_skipIf List.isEmpty_iff.mp (textListFromJson_array m.tags)
  simp only [BTreeMap.get, List.cons_append, List.nil_append, List.lookup_cons,
    String.reduceBEq, Option.join_some] at htenant htags hextra
  simp only [fromJson, toJson, Json.ofFields, List.cons_append, List.nil_append, htenant, htags,
    hextra, hdefault, readsBack_string.optional, Option.pure_def, Option.bind_eq_bind,
    Option.bind_some]

theorem EventMeta.separate_of_fromJson {doc : Json} {m : EventMeta}
    (h : fromJson doc = some m) : m.Separate := by
  cases doc with
  | object entries =>
    obtain ⟨tenant, -, h⟩ := Option.bind_eq_some_iff.mp h
    obtain ⟨tags, -, h⟩ := Option.bind_eq_some_iff.mp h
    cases h
    constructor
    · apply BTreeMap.get_ofEntries_of_not_mem
      simp
    · apply BTreeMap.get_ofEntries_of_not_mem
      simp
  | _ => cases h

theorem EventEnvelopeInput.fromJson_toJson {codec : TenantCodec}
    (hcodec : FieldReadsBack codec.deserialize codec.serialize) {event : EventEnvelopeInput}
    (h : event.eventMeta.Separate) :
    fromJson codec.deserialize (event.toJson codec.serialize) = some event := by
  have hmeta : defaultField ⟨none, [], .empty⟩ EventMeta.fromJson
      (skipIf event.eventMeta.isEmpty event.eventMeta.toJson) = some event.eventMeta :=
    defaultField_skipIf EventMeta.eq_of_isEmpty (EventMeta.fromJson_toJson h)
  have hmetadata : defaultField .empty metadataFromJson
      (skipIf event.metadata.entries.isEmpty (metadataToJson event.metadata)) =
        some event.metadata :=
    defaultField_skipIf BTreeMap.eq_empty_of_isEmpty (metadataFromJson_toJson event.metadata)
  rw [fromJson, toJson, structFields_ofFields _ (by simp)]
  rw [Option.bind_eq_bind, Option.bind_some]
  simp only [List.lookup_cons, String.reduceBEq, BEq.rfl, Option.join_some, requiredField,
    readsBack_string.optional, hmeta, hmetadata, hcodec.optional, Option.pure_def,
    Option.bind_eq_bind, Option.bind_some]

theorem EventEnvelopeInput.separate_of_fromJson {deserialize : Json → Option TenantCtx}
    {doc : Json} {event : EventEnvelopeInput} (h : fromJson deserialize doc = some event) :
    event.eventMeta.Separate := by
  obtain ⟨field, -, h⟩ := Option.bind_eq_some_iff.mp h
  -- the fields before `meta`
  obtain ⟨id, -, h⟩ := Option.bind_eq_some_iff.mp h
  obtain ⟨topic, -, h⟩ := Option.bind_eq_some_iff.mp h
  obtain ⟨type, -, h⟩ := Option.bind_eq_some_iff.mp h
  obtain ⟨source, -, h⟩ := Option.bind_eq_some_iff.mp h
  obtain ⟨subject, -, h⟩ := Option.bind_eq_some_iff.mp h
  obtain ⟨ts, -, h⟩ := Option.bind_eq_some_iff.mp h
  obtain ⟨time, -, h⟩ := Option.bind_eq_some_iff.mp h
  obtain ⟨correlationId, -, h⟩ := Option.bind_eq_some_iff.mp h
  obtain ⟨payload, -, h⟩ := Option.bind_eq_some_iff.mp h
  obtain ⟨m, hm, h⟩ := Option.bind_eq_some_iff.mp h
  obtain ⟨metadata, -, h⟩ := Option.bind_eq_some_iff.mp h
  obtain ⟨tenant, -, h⟩ := Option.bind_eq_some_iff.mp h
  cases h
  show m.Separate
  cases hvalue : field "meta" with
  | none =>
    rw [hvalue] at hm
    cases hm
    exact ⟨rfl, rfl⟩
  | some value =>
    rw [hvalue] at hm
    exact EventMeta.separate_of_fromJson hm

section Input

variable {codec : TenantCodec}

theorem PublishInput.fromJson_toJson (hcodec : FieldReadsBack codec.deserialize codec.serialize)
    {input : PublishInput} (h : input.event.eventMeta.Separate) :
    fromJson codec.deserialize (input.toJson codec.serialize) = some input := by
  rw [fromJson, toJson, structFields_ofFields _ (by simp)]
  simp [List.lookup_cons, requiredField, readsBack_string.decode_encode,
    EventEnvelopeInput.fromJson_toJson hcodec h, PublishOptions.readsBack.optional]

theorem PublishInput.separate_of_fromJson {deserialize : Json → Option TenantCtx} {doc : Json}
    {input : PublishInput} (h : fromJson deserialize doc = some input) :
    input.event.eventMeta.Separate := by
  obtain ⟨field, -, h⟩ := Option.bind_eq_some_iff.mp h
  obtain ⟨topic, -, h⟩ := Option.bind_eq_some_iff.mp h
  obtain ⟨event, hevent, h⟩ := Option.bind_eq_some_iff.mp h
  obtain ⟨options, -, h⟩ := Option.bind_eq_some_iff.mp h
  cases h
  obtain ⟨value, -, hvalue⟩ := Option.bind_eq_some_iff.mp hevent
  exact EventEnvelopeInput.separate_of_fromJson hvalue

def PublishInput.reencode (codec : TenantCodec) (doc : Json) : Option Json :=
  (fromJson codec.deserialize doc).map (toJson codec.serialize)

def PublishOutput.reencode (doc : Json) : Option Json := (fromJson doc).map toJson

/-- Inputs and outputs are decoded from their encodings, so that encoding what was decoded
once is enough. -/
theorem provider_codec_round_trips (hcodec : FieldReadsBack codec.deserialize codec.serialize) :
    (∀ input : PublishInput, input.event.eventMeta.Separate →
      PublishInput.fromJson codec.deserialize (input.toJson codec.serialize) = some input) ∧
    (∀ output : PublishOutput, PublishOutput.fromJson output.toJson = some output) ∧
    (∀ doc input, PublishInput.fromJson codec.deserialize doc = some input →
      input.event.eventMeta.Separate) ∧
    (∀ doc encoded, PublishInput.reencode codec doc = some encoded →
      PublishInput.reencode codec encoded = some encoded) ∧
    ∀ doc encoded, PublishOutput.reencode doc = some encoded →
      PublishOutput.reencode encoded = some encoded := by
  refine ⟨fun input h => PublishInput.fromJson_toJson hcodec h, PublishOutput.fromJson_toJson,
    fun doc input h => PublishInput.separate_of_fromJson h, ?_, ?_⟩
  · intro doc encoded h
    obtain ⟨input, hinput, rfl⟩ := Option.map_eq_some_iff.mp h
    have hback : PublishInput.fromJson codec.deserialize (input.toJson codec.serialize) =
        some input := PublishInput.fromJson_toJson hcodec (PublishInput.separate_of_fromJson hinput)
    rw [PublishInput.reencode, hback, Option.map_some]
  · intro doc encoded h
    obtain ⟨output, -, rfl⟩ := Option.map_eq_some_iff.mp h
    rw [PublishOutput.reencode, PublishOutput.fromJson_toJson, Option.map_some]

end Input

/-- A tenant context with its required fields and, in place of the others, its attributes. -/
def attributedTenantToJson (tenant : TenantCtx) : Json := .ofFields [
  ("env", some (.string tenant.env)),
  ("tenant", some (.string tenant.tenant.raw)),
  ("tenant_id", some (.string tenant.tenant.raw)),
  ("attributes", skipIf (tenant.rest matches .null) tenant.rest),
  ("attempt", some (.number (.posInt 0)))]

def attributedTenantFromJson (doc : Json) : Option TenantCtx := do
  let field ← doc.structFields ["env", "tenant", "tenant_id", "attributes", "attempt"]
  let env ← requiredField Json.asStr (field "env")
  let raw ← requiredField Json.asStr (field "tenant")
  let rest ← defaultField .null some (field "attributes")
  if h : raw.toList.all isIdChar = true then some ⟨env, ⟨raw, h⟩, rest⟩ else none

theorem readsBack_attributedTenant :
    FieldReadsBack attributedTenantFromJson attributedTenantToJson where
  decode_encode tenant := by
    obtain ⟨env, ⟨raw, hvalid⟩, rest⟩ := tenant
    have hrest : defaultField .null some (skipIf (rest matches .null) rest) = some rest := by
      cases rest with
      | null => rfl
      | _ => rfl
    rw [attributedTenantFromJson, attributedTenantToJson, structFields_ofFields _ (by simp),
      Option.bind_eq_bind, Option.bind_some]
    simp only [List.lookup_cons, String.reduceBEq, BEq.rfl, Option.join_some, requiredField,
      readsBack_string.decode_encode, hrest, Option.bind_eq_bind, Option.bind_some, hvalid,
      ↓reduceDIte]
  ne_null _ := nofun

def attributedTenant : TenantCodec := ⟨attributedTenantToJson, attributedTenantFromJson⟩

theorem provider_codec_round_trips_order :
    PublishInput.fromJson attributedTenant.deserialize
        (orderInput.toJson attributedTenant.serialize) = some orderInput ∧
      PublishInput.reencode attributedTenant (orderInput.toJson attributedTenant.serialize) =
        some (orderInput.toJson attributedTenant.serialize) := by
  obtain ⟨hinput, -⟩ := @provider_codec_round_trips attributedTenant readsBack_attributedTenant
  have hback := hinput orderInput ⟨rfl, rfl⟩
  exact ⟨hback, congrArg (Option.map (PublishInput.toJson attributedTenant.serialize)) hback⟩

end GreenticEvents
