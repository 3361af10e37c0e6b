import GreenticEvents.OutputSchema

/-!
# The input of a publish against its schema (`publish.input.schema.json`)

Which documents that meet the schema decode, what they decode to, and what the
validator asks of it that the schema does not.
-/

namespace GreenticEvents
open Data JsonSchema

/-- What the schema says of the event of an input: payload, metadata, times and the other entries of
`meta` may hold empty texts. -/
structure EventEnvelopeInput.Schematic (event : EventEnvelopeInput) : Prop where
  id : ∀ t ∈ event.id, t ≠ "" ∧ t.toList.all isIdChar = true
  topic : ∀ t ∈ event.topic, t ≠ ""
  type : ∀ t ∈ event.type, t ≠ ""
  source : ∀ t ∈ event.source, t ≠ ""
  subject : ∀ t ∈ event.subject, t ≠ ""
  correlationId : ∀ t ∈ event.correlationId, t ≠ ""
  metaTenant : ∀ t ∈ event.eventMeta.tenant, t ≠ ""
  tags : ∀ t ∈ event.eventMeta.tags, t ≠ ""

structure PublishInput.Schematic (input : PublishInput) : Prop where
  topic : input.topic ≠ ""
  event : input.event.Schematic
  dedupeKey : ∀ options ∈ input.options, ∀ t ∈ options.dedupeKey, t ≠ ""

theorem valid_options_iff {options : PublishOptions} :
    optionsSchema.Valid Json.view options.toJson ↔ ∀ t ∈ options.dedupeKey, t ≠ "" := by
  rw [optionsSchema, PublishOptions.toJson, valid_allOf_cons, valid_allOf_cons,
    valid_ofFields (by simp)]
  simp only [List.forall_mem_cons, List.not_mem_nil, false_imp_iff, implies_true, and_true,
    Option.mem_def, Option.map_eq_some_iff, forall_exists_index, and_imp,
    forall_apply_eq_imp_iff₂, memberValid_cons, ↓reduceIte, String.reduceEq, valid_textSchema,
    valid_allOf_nil]
  constructor
  · rintro ⟨-, hkey, -⟩
    exact hkey
  · intro hkey
    exact ⟨valid_type.mpr trivial, hkey, fun n _ => valid_nonNegativeInteger n,
      fun priority _ => valid_priority priority⟩

theorem valid_tags_iff {tags : List String} :
    (Schema.allOf [.type .array, .items textSchema]).Valid Json.view
      (.array (tags.map .string)) ↔ ∀ t ∈ tags, t ≠ "" := by
  have hview : Json.view (.array (tags.map .string)) = .array (tags.map .string) := rfl
  rw [valid_allOf_cons, valid_allOf_cons, valid_items hview, valid_type]
  simp only [List.forall_mem_map, valid_textSchema, valid_allOf_nil, and_true]
  exact and_iff_right trivial

theorem valid_meta_iff {m : EventMeta} (hseparate : m.Separate) :
    metaSchema.Valid Json.view m.toJson ↔
      (∀ t ∈ m.tenant, t ≠ "") ∧ ∀ t ∈ m.tags, t ≠ "" := by
  have hextra : ∀ f ∈ m.extra.entries.map (fun e => (e.1, some e.2)), ∀ value ∈ f.2,
      MemberValid Json.view [("tenant", textSchema),
        ("tags", .allOf [.type .array, .items textSchema])] f.1 value
          (Schema.any.Valid Json.view value) := by
    intro f hf value hv
    obtain ⟨e, he, rfl⟩ := List.mem_map.mp hf
    have hkey : e.1 ∈ m.extra.entries.map Prod.fst := List.mem_map_of_mem he
    -- a flattened entry has no schema of its own
    have hother : e.1 ∉ ["tenant", "tags"] := by
      intro h
      rcases List.mem_pair.mp h with h | h
      · exact not_mem_keys hseparate.1 (h ▸ hkey)
      · exact not_mem_keys hseparate.2 (h ▸ hkey)
    exact (memberValid_of_not_mem hother).mpr valid_any
  rw [metaSchema, EventMeta.toJson, valid_allOf_cons, valid_allOf_cons,
    valid_ofFields (hseparate.nodup _ _), List.forall_mem_append, iff_true_intro hextra]
  simp only [List.forall_mem_cons, List.not_mem_nil, false_imp_iff, implies_true, and_true,
    Option.mem_def, Option.map_eq_some_iff, skipIf, Option.ite_none_left_eq_some,
    Option.some.injEq, forall_exists_index, and_imp, forall_apply_eq_imp_iff₂, memberValid_cons,
    ↓reduceIte, String.reduceEq, valid_textSchema, valid_allOf_nil]
  constructor
  · rintro ⟨-, htenant, htags⟩
    refine ⟨htenant, ?_⟩
    -- tags that are left out are none
    by_cases hnone : m.tags.isEmpty = true
    · rw [List.isEmpty_iff.mp hnone]
      simp
    · exact valid_tags_iff.mp (htags _ hnone rfl)
  · rintro ⟨htenant, htags⟩
    refine ⟨valid_type.mpr trivial, htenant, ?_⟩
    rintro value - rfl
    exact valid_tags_iff.mpr htags

section Input

variable {serialize : TenantCtx → Json}

theorem valid_event_iff {event : EventEnvelopeInput} (hseparate : event.eventMeta.Separate)
    (htenant : ∀ t ∈ event.tenant, tenantSchema.Valid Json.view (serialize t)) :
    eventEnvelopeSchema.Valid Json.view (event.toJson serialize) ↔ event.Schematic := by
  have hpayload : (Schema.required ["payload"]).Valid Json.view (event.toJson serialize) :=
    payload_required _
  rw [eventEnvelopeSchema, valid_allOf_cons, valid_allOf_cons, valid_allOf_cons,
    iff_true_intro hpayload, EventEnvelopeInput.toJson, valid_ofFields (by simp)]
  simp only [List.forall_mem_cons, List.not_mem_nil, false_imp_iff, implies_true, and_true,
    Option.mem_def, Option.map_eq_some_iff, skipIf, Option.ite_none_left_eq_some,
    Option.some.injEq, forall_exists_index, and_imp, forall_apply_eq_imp_iff₂, memberValid_cons,
    ↓reduceIte, String.reduceEq, valid_textSchema, valid_idSchema, valid_allOf_nil]
  constructor
  · rintro ⟨-, id, topic, type, source, subject, -, -, correlationId, -, hmeta, -, -⟩
    obtain ⟨metaTenant, tags⟩ : (∀ t ∈ event.eventMeta.tenant, t ≠ "") ∧
        ∀ t ∈ event.eventMeta.tags, t ≠ "" := by
      -- a meta value that is left out is the default
      by_cases hempty : event.eventMeta.isEmpty = true
      · rw [EventMeta.eq_of_isEmpty hempty]
        simp
      · exact (valid_meta_iff hseparate).mp (hmeta _ hempty rfl)
    exact { id, topic, type, source, subject, correlationId, metaTenant, tags }
  · intro h
    -- one goal for each property of the schema, in its order
    refine ⟨valid_type.mpr trivial, h.id, h.topic, h.type, h.source, h.subject,
      fun t _ => valid_type.mpr trivial, fun t _ => valid_type.mpr trivial, h.correlationId,
      fun value _ => valid_payloadSchema value, ?_, ?_, htenant⟩
    · rintro value - rfl
      exact (valid_meta_iff hseparate).mpr ⟨h.metaTenant, h.tags⟩
    · rintro value - rfl
      exact valid_metadata event.metadata

theorem valid_input_iff {input : PublishInput} (hseparate : input.event.eventMeta.Separate)
    (htenant : ∀ t ∈ input.event.tenant, tenantSchema.Valid Json.view (serialize t)) :
    publishInputSchema.Valid Json.view (input.toJson serialize) ↔ input.Schematic := by
  have hrequired : (Schema.required ["topic", "event"]).Valid Json.view
      (input.toJson serialize) := by
    apply required_ofFields (by simp)
    intro name hname
    rcases List.mem_pair.mp hname with rfl | rfl
    · exact ⟨.string input.topic, by simp⟩
    · exact ⟨input.event.toJson serialize, by simp⟩
  rw [publishInputSchema, valid_allOf_cons, valid_allOf_cons, valid_allOf_cons,
    iff_true_intro hrequired, PublishInput.toJson, valid_ofFields (by simp)]
  simp only [List.forall_mem_cons, List.not_mem_nil, false_imp_iff, implies_true, and_true,
    Option.mem_def, Option.map_eq_some_iff, Option.some.injEq, forall_exists_index, and_imp,
    forall_apply_eq_imp_iff₂, forall_eq', memberValid_cons, ↓reduceIte, String.reduceEq,
    valid_textSchema, valid_allOf_cons, valid_allOf_nil, payload_required, valid_options_iff,
    valid_event_iff hseparate htenant]
  constructor
  · rintro ⟨-, topic, ⟨event, -⟩, dedupeKey⟩
    exact { topic, event, dedupeKey }
  · intro h
    exact ⟨valid_type.mpr trivial, h.topic, ⟨h.event, valid_type.mpr trivial⟩, h.dedupeKey⟩

end Input

theorem memberValid_of_lookup {entries : List (String × Json)}
    {named : List (String × Schema)} {additional : Schema}
    (h : (Schema.properties named additional).Valid Json.view (.object entries)) {key : String}
    {value : Json} (hlookup : entries.lookup key = some value) :
    MemberValid Json.view named key value (additional.Valid Json.view value) := by
  have hmem : (key, value) ∈ entries := by
    obtain ⟨before, after, rfl, -⟩ := List.lookup_eq_some_iff.mp hlookup
    simp
  have hview : Json.view (.object entries) = .object entries := rfl
  exact (valid_properties hview).mp h (key, value) hmem

theorem valid_object {doc : Json} :
    (Schema.type .object).Valid Json.view doc ↔ ∃ entries, doc = .object entries := by
  rw [valid_type]
  cases doc <;> simp [Json.view, Kind.Has]

/-- A document under the keywords of an object: what its members are. -/
theorem object_of_valid {named : List (String × Schema)} {additional : Schema}
    {rest : List Schema} {doc : Json}
    (h : (Schema.allOf (.type .object :: .properties named additional :: rest)).Valid Json.view
      doc) :
    ∃ entries, doc = .object entries ∧ (Schema.allOf rest).Valid Json.view (.object entries) ∧
      ∀ key value, entries.lookup key = some value →
        MemberValid Json.view named key value (additional.Valid Json.view value) := by
  obtain ⟨hobject, hproperties, hrest⟩ := h
  obtain ⟨entries, rfl⟩ := valid_object.mp hobject
  exact ⟨entries, rfl, hrest, fun key value hlookup => memberValid_of_lookup hproperties hlookup⟩

theorem lookup_required {names : List String} {entries : List (String × Json)}
    (h : (Schema.required names).Valid Json.view (.object entries)) {name : String}
    (hname : name ∈ names) : ∃ value, entries.lookup name = some value := by
  have hview : Json.view (.object entries) = .object entries := rfl
  apply Option.isSome_iff_exists.mp
  rw [List.lookup_isSome_iff]
  simpa using (valid_required hview).mp h name hname

theorem ne_null_of_valid {kind : Kind} {parts : List Schema} {value : Json}
    (h : (Schema.allOf (.type kind :: parts)).Valid Json.view value)
    (hkind : ¬ kind.Has (.null : Shape Json)) : value ≠ .null := by
  rintro rfl
  exact hkind h.1

section Fields

variable {α : Type} {decode : Json → Option α} {P : α → Prop} {found : Option Json}

/-- An optional field whose value, if it has one, decodes and is not `null`. -/
theorem optionalField_some
    (h : ∀ value ∈ found, value ≠ .null ∧ ∃ a, decode value = some a ∧ P a) :
    ∃ field, optionalField decode found = some field ∧ ∀ a ∈ field, P a := by
  cases found with
  | none => exact ⟨none, rfl, by simp⟩
  | some value =>
    obtain ⟨hnull, a, hdecode, ha⟩ := h value rfl
    refine ⟨some a, ?_, by simpa using ha⟩
    cases value with
    | null => exact absurd rfl hnull
    | _ => exact congrArg (Option.map some) hdecode

theorem optionalField_isSome (h : ∀ value ∈ found, value ≠ .null) :
    (optionalField decode found).isSome = true ↔
      ∀ value ∈ found, (decode value).isSome = true := by
  cases found with
  | none => simp [optionalField]
  | some value =>
    -- `null` would be read as no value
    cases value with
    | null => exact absurd rfl (h .null rfl)
    | _ => simp [optionalField]

/-- What an optional field was read from. -/
theorem optionalField_source {field : Option α} (h : optionalField decode found = some field)
    {a : α} (ha : a ∈ field) : ∃ value ∈ found, decode value = some a := by
  cases found with
  | none =>
    cases h
    cases ha
  | some value =>
    refine ⟨value, rfl, ?_⟩
    cases value with
    | null =>
      cases h
      cases ha
    | _ =>
      obtain ⟨b, hb, rfl⟩ := Option.map_eq_some_iff.mp h
      exact hb.trans ha

theorem defaultField_some {default : α} (hdefault : P default)
    (h : ∀ value ∈ found, ∃ a, decode value = some a ∧ P a) :
    ∃ a, defaultField default decode found = some a ∧ P a := by
  cases found with
  | none => exact ⟨default, rfl, hdefault⟩
  | some value => exact h value rfl

end Fields

/-- A text that is not empty, under a key or nowhere. -/
theorem optionalText_some {found : Option Json}
    (h : ∀ value ∈ found, textSchema.Valid Json.view value) :
    ∃ text, optionalField Json.asStr found = some text ∧ ∀ t ∈ text, t ≠ "" := by
  apply optionalField_some
  intro value hvalue
  obtain ⟨s, rfl, hs⟩ := valid_text.mp (h value hvalue)
  exact ⟨nofun, s, rfl, hs⟩

theorem texts_of_valid {values : List Json}
    (h : ∀ value ∈ values, textSchema.Valid Json.view value) :
    ∃ texts : List String, values = texts.map .string ∧ ∀ t ∈ texts, t ≠ "" := by
  induction values with
  | nil => exact ⟨[], rfl, by simp⟩
  | cons value values ih =>
    obtain ⟨hvalue, hvalues⟩ := List.forall_mem_cons.mp h
    obtain ⟨t, rfl, ht⟩ := valid_text.mp hvalue
    obtain ⟨texts, rfl, htexts⟩ := ih hvalues
    exact ⟨t :: texts, rfl, List.forall_mem_cons.mpr ⟨ht, htexts⟩⟩

theorem optionalId_some {found : Option Json}
    (h : ∀ value ∈ found, idSchema.Valid Json.view value) :
    ∃ text, optionalField Json.asStr found = some text ∧
      ∀ t ∈ text, t ≠ "" ∧ t.toList.all isIdChar = true := by
  apply optionalField_some
  intro value hvalue
  have hid := h value hvalue
  obtain ⟨s, rfl⟩ := valid_string.mp (valid_allOf_cons.mp hid).1
  exact ⟨nofun, s, rfl, valid_idSchema.mp hid⟩

/-- A time of the schema is any text. -/
theorem optionalTime_some {found : Option Json}
    (h : ∀ value ∈ found, (Schema.type .string).Valid Json.view value) :
    ∃ text, optionalField Json.asStr found = some text := by
  obtain ⟨text, htext, -⟩ : ∃ text, optionalField Json.asStr found = some text ∧
      ∀ t ∈ text, True := by
    apply optionalField_some
    intro value hvalue
    obtain ⟨s, rfl⟩ := valid_string.mp (h value hvalue)
    exact ⟨nofun, s, rfl, trivial⟩
  exact ⟨text, htext⟩

theorem textListFromJson_some {value : Json}
    (h : (Schema.allOf [.type .array, .items textSchema]).Valid Json.view value) :
    ∃ texts, textListFromJson value = some texts ∧ ∀ t ∈ texts, t ≠ "" := by
  obtain ⟨htype, hitems, -⟩ := h
  obtain ⟨values, rfl⟩ : ∃ values, value = .array values := by
    cases value with
    | array values => exact ⟨values, rfl⟩
    | _ => exact htype.elim
  have hview : Json.view (.array values) = .array values := rfl
  obtain ⟨texts, rfl, htexts⟩ := texts_of_valid ((valid_items hview).mp hitems)
  exact ⟨texts, textListFromJson_array texts, htexts⟩

theorem metaFromJson_some {value : Json} (h : metaSchema.Valid Json.view value) :
    ∃ m, EventMeta.fromJson value = some m ∧
      (∀ t ∈ m.tenant, t ≠ "") ∧ ∀ t ∈ m.tags, t ≠ "" := by
  obtain ⟨entries, rfl, -, hmember⟩ := object_of_valid h
  simp only [memberValid_cons] at hmember
  obtain ⟨tenant, htenant, hnonempty⟩ := optionalText_some fun value hvalue =>
    by simpa using hmember "tenant" value hvalue
  obtain ⟨tags, htags, hall⟩ : ∃ tags : List String,
      defaultField [] textListFromJson (entries.lookup "tags") = some tags ∧
        ∀ t ∈ tags, t ≠ "" :=
    defaultField_some (by simp) fun value hvalue =>
      textListFromJson_some (by simpa using hmember "tags" value hvalue)
  let rest := entries.filter fun e => e.1 ≠ "tenant" && e.1 ≠ "tags"
  have hdecode : EventMeta.fromJson (.object entries) = some ⟨tenant, tags, .ofEntries rest⟩ := by
    rw [EventMeta.fromJson, htenant, htags]
    rfl
  exact ⟨_, hdecode, hnonempty, hall⟩

theorem textEntries_of_valid {entries : List (String × Json)}
    (h : ∀ e ∈ entries, (Schema.type .string).Valid Json.view e.2) :
    ∃ texts : List (String × String),
      entries.mapM (fun e => e.2.asStr.map (Prod.mk e.1)) = some texts := by
  induction entries with
  | nil => exact ⟨[], rfl⟩
  | cons e entries ih =>
    obtain ⟨hvalue, hrest⟩ := List.forall_mem_cons.mp h
    obtain ⟨s, hs⟩ := valid_string.mp hvalue
    obtain ⟨texts, htexts⟩ := ih hrest
    refine ⟨(e.1, s) :: texts, ?_⟩
    rw [List.mapM_cons, htexts, hs]
    rfl

theorem metadataFromJson_some {value : Json} (h : textMapSchema.Valid Json.view value) :
    ∃ metadata, metadataFromJson value = some metadata := by
  obtain ⟨hobject, hproperties, -⟩ := h
  obtain ⟨entries, rfl⟩ := valid_object.mp hobject
  have hview : Json.view (.object entries) = .object entries := rfl
  obtain ⟨texts, htexts⟩ := textEntries_of_valid ((valid_properties hview).mp hproperties)
  refine ⟨.ofEntries texts, ?_⟩
  rw [metadataFromJson, htexts]
  rfl

theorem priorityFromJson_some {value : Json}
    (h : (Schema.allOf [.type .string, .enum ["low", "normal", "high"]]).Valid Json.view value) :
    value ≠ .null ∧ ∃ priority, PublishPriority.fromJson value = some priority := by
  obtain ⟨hstring, henum, -⟩ := h
  obtain ⟨s, rfl⟩ := valid_string.mp hstring
  have hs : s = "low" ∨ s = "normal" ∨ s = "high" := by
    have hview : Json.view (.string s) = .string s := rfl
    simpa using (valid_enum hview).mp henum
  refine ⟨nofun, ?_⟩
  rcases hs with rfl | rfl | rfl
  · exact ⟨.low, rfl⟩
  · exact ⟨.normal, rfl⟩
  · exact ⟨.high, rfl⟩

/-- The schema takes any number that is an integer, of any size and also one written as a float;
the type reads unsigned integers of 64 bits. -/
def ReadableTtl (options : Json) : Prop :=
  ∀ value ∈ options.get "ttl_seconds", value.asU64.isSome = true

theorem optionsFromJson_iff {value : Json} (h : optionsSchema.Valid Json.view value) :
    ((PublishOptions.fromJson value).isSome = true ↔ ReadableTtl value) ∧
      ∀ options, PublishOptions.fromJson value = some options →
        ∀ t ∈ options.dedupeKey, t ≠ "" := by
  obtain ⟨entries, rfl, -, hmember⟩ := object_of_valid h
  simp only [memberValid_cons] at hmember
  obtain ⟨dedupeKey, hkey, hnonempty⟩ := optionalText_some fun value hvalue =>
    by simpa using hmember "dedupe_key" value hvalue
  obtain ⟨priority, hpriority, -⟩ : ∃ priority,
      optionalField PublishPriority.fromJson (entries.lookup "priority") = some priority ∧
        ∀ p ∈ priority, True :=
    optionalField_some fun value hvalue => by
      obtain ⟨hnull, p, hp⟩ :=
        priorityFromJson_some (by simpa using hmember "priority" value hvalue)
      exact ⟨hnull, p, hp, trivial⟩
  -- both other fields are read, so that the time to live decides
  have hdecode : PublishOptions.fromJson (.object entries) =
      (optionalField Json.asU64 (entries.lookup "ttl_seconds")).map
        fun ttlSeconds => ⟨dedupeKey, ttlSeconds, priority⟩ := by
    rw [Option.map_eq_bind]
    simp only [PublishOptions.fromJson, Json.structFields, Option.bind_eq_bind, Option.bind_some,
      hkey, hpriority, Option.pure_def]
    rfl
  have httl (value : Json) (hvalue : value ∈ entries.lookup "ttl_seconds") : value ≠ .null := by
    have hinteger : nonNegativeInteger.Valid Json.view value := by
      simpa using hmember "ttl_seconds" value hvalue
    exact ne_null_of_valid hinteger not_false
  rw [hdecode, Option.isSome_map, optionalField_isSome httl]
  refine ⟨Iff.rfl, ?_⟩
  intro options hoptions
  obtain ⟨ttlSeconds, -, rfl⟩ := Option.map_eq_some_iff.mp hoptions
  exact hnonempty

section Decoding

variable {deserialize : Json → Option TenantCtx}

def ReadableTenant (deserialize : Json → Option TenantCtx) (event : Json) : Prop :=
  ∀ value ∈ event.get "tenant", (deserialize value).isSome = true

theorem eventFromJson_iff {value : Json} (h : eventEnvelopeSchema.Valid Json.view value) :
    ((EventEnvelopeInput.fromJson deserialize value).isSome = true ↔
        ReadableTenant deserialize value) ∧
      ∀ event, EventEnvelopeInput.fromJson deserialize value = some event → event.Schematic := by
  obtain ⟨entries, rfl, ⟨hrequired, -⟩, hmember⟩ := object_of_valid h
  simp only [memberValid_cons] at hmember
  obtain ⟨payload, hpayload⟩ := lookup_required hrequired (List.mem_singleton_self "payload")
  obtain ⟨id, hid, idChars⟩ := optionalId_some fun value hvalue =>
    by simpa using hmember "id" value hvalue
  obtain ⟨topic, htopic, topicText⟩ := optionalText_some fun value hvalue =>
    by simpa using hmember "topic" value hvalue
  obtain ⟨type, htype, typeText⟩ := optionalText_some fun value hvalue =>
    by simpa using hmember "type" value hvalue
  obtain ⟨source, hsource, sourceText⟩ := optionalText_some fun value hvalue =>
    by simpa using hmember "source" value hvalue
  obtain ⟨subject, hsubject, subjectText⟩ := optionalText_some fun value hvalue =>
    by simpa using hmember "subject" value hvalue
  obtain ⟨correlationId, hcorrelation, correlationText⟩ := optionalText_some fun value hvalue =>
    by simpa using hmember "correlation_id" value hvalue
  obtain ⟨ts, hts⟩ := optionalTime_some fun value hvalue =>
    by simpa using hmember "ts" value hvalue
  obtain ⟨time, htime⟩ := optionalTime_some fun value hvalue =>
    by simpa using hmember "time" value hvalue
  obtain ⟨eventMeta, hmeta, metaTenant, tags⟩ : ∃ m : EventMeta,
      defaultField ⟨none, [], .empty⟩ EventMeta.fromJson (entries.lookup "meta") = some m ∧
        (∀ t ∈ m.tenant, t ≠ "") ∧ ∀ t ∈ m.tags, t ≠ "" :=
    defaultField_some (by simp) fun value hvalue =>
      metaFromJson_some (by simpa using hmember "meta" value hvalue)
  obtain ⟨metadata, hmetadata, -⟩ : ∃ metadata,
      defaultField .empty metadataFromJson (entries.lookup "metadata") = some metadata ∧ True :=
    defaultField_some trivial fun value hvalue => by
      obtain ⟨m, hm⟩ := metadataFromJson_some (by simpa using hmember "metadata" value hvalue)
      exact ⟨m, hm, trivial⟩
  -- every other field is read, so that the tenant decides
  have hdecode : EventEnvelopeInput.fromJson deserialize (.object entries) =
      (optionalField deserialize (entries.lookup "tenant")).map fun tenant =>
        { id, topic, type, source, subject, ts, time, correlationId, payload, eventMeta, metadata,
          tenant } := by
    rw [Option.map_eq_bind]
    simp only [EventEnvelopeInput.fromJson, Json.structFields, Option.bind_eq_bind,
      Option.bind_some, requiredField, hid, htopic, htype, hsource, hsubject, hts, htime,
      hcorrelation, hpayload, hmeta, hmetadata, Option.pure_def]
    rfl
  have htenant (value : Json) (hvalue : value ∈ entries.lookup "tenant") : value ≠ .null := by
    have hobject : tenantSchema.Valid Json.view value := by
      simpa using hmember "tenant" value hvalue
    exact ne_null_of_valid hobject not_false
  rw [hdecode, Option.isSome_map, optionalField_isSome htenant]
  refine ⟨Iff.rfl, ?_⟩
  intro event hevent
  obtain ⟨tenant, -, rfl⟩ := Option.map_eq_some_iff.mp hevent
  exact ⟨idChars, topicText, typeText, sourceText, subjectText, correlationText, metaTenant, tags⟩

theorem inputFromJson_iff {doc : Json} (h : publishInputSchema.Valid Json.view doc) :
    ((PublishInput.fromJson deserialize doc).isSome = true ↔
        (∀ options ∈ doc.get "options", ReadableTtl options) ∧
          ∀ event ∈ doc.get "event", ReadableTenant deserialize event) ∧
      ∀ input, PublishInput.fromJson deserialize doc = some input → input.Schematic := by
  obtain ⟨entries, rfl, ⟨hrequired, -⟩, hmember⟩ := object_of_valid h
  simp only [memberValid_cons] at hmember
  obtain ⟨topicValue, htopic⟩ := lookup_required hrequired (show "topic" ∈ _ by simp)
  obtain ⟨topic, rfl, topicText⟩ := valid_text.mp (by simpa using hmember "topic" _ htopic)
  obtain ⟨eventValue, hevent⟩ := lookup_required hrequired (show "event" ∈ _ by simp)
  have hvalid : eventEnvelopeSchema.Valid Json.view eventValue := by
    have hparts := hmember "event" eventValue hevent
    simp only [String.reduceEq, ↓reduceIte, valid_allOf_cons] at hparts
    exact hparts.1
  have hoptions (value : Json) (hvalue : value ∈ entries.lookup "options") :
      optionsSchema.Valid Json.view value := by
    simpa using hmember "options" value hvalue
  have hnull (value : Json) (hvalue : value ∈ entries.lookup "options") : value ≠ .null :=
    ne_null_of_valid (hoptions value hvalue) not_false
  -- the topic is read, so that only the event and the options can fail
  have hdecode : PublishInput.fromJson deserialize (.object entries) =
      (EventEnvelopeInput.fromJson deserialize eventValue).bind fun event =>
        (optionalField PublishOptions.fromJson (entries.lookup "options")).map fun options =>
          { topic, event, options } := by
    simp only [PublishInput.fromJson, Json.structFields, Option.bind_eq_bind, Option.bind_some,
      requiredField, htopic, hevent, Json.asStr, Option.map_eq_bind]
    rfl
  have hget (key : String) : Json.get key (.object entries) = entries.lookup key := rfl
  have hboth : (PublishInput.fromJson deserialize (.object entries)).isSome = true ↔
      (EventEnvelopeInput.fromJson deserialize eventValue).isSome = true ∧
        (optionalField PublishOptions.fromJson (entries.lookup "options")).isSome = true := by
    rw [hdecode, Option.isSome_bind]
    cases EventEnvelopeInput.fromJson deserialize eventValue with
    | none => simp
    | some event => simp
  have hread : (optionalField PublishOptions.fromJson (entries.lookup "options")).isSome = true ↔
      ∀ options ∈ entries.lookup "options", ReadableTtl options := by
    rw [optionalField_isSome hnull]
    exact forall₂_congr fun options ho => (optionsFromJson_iff (hoptions options ho)).1
  constructor
  · rw [hboth, hread, (eventFromJson_iff hvalid).1, hget, hget, hevent]
    simp [and_comm]
  · intro input hinput
    rw [hdecode] at hinput
    obtain ⟨event, hread, hinput⟩ := Option.bind_eq_some_iff.mp hinput
    obtain ⟨options, hread', rfl⟩ := Option.map_eq_some_iff.mp hinput
    refine ⟨topicText, (eventFromJson_iff hvalid).2 event hread, ?_⟩
    intro o ho
    obtain ⟨value, hvalue, ho⟩ := optionalField_source hread' ho
    exact (optionsFromJson_iff (hoptions value hvalue)).2 o ho

end Decoding

/-- The texts that the validator asks not to be blank, but for the event's topic and id. -/
def PublishInput.checkedTexts (input : PublishInput) : List String :=
  input.topic :: (input.event.type.toList ++ input.event.source.toList ++
    input.event.subject.toList ++ input.event.eventMeta.tenant.toList ++
    input.event.eventMeta.tags ++ (input.options.bind PublishOptions.dedupeKey).toList)

/-- What the validator asks beyond the schema. -/
structure PublishInput.Tidy (isRfc3339 : String → Bool) (input : PublishInput) : Prop where
  texts : ∀ t ∈ input.checkedTexts, isBlank t = false
  eventTopic : ∀ t ∈ input.event.topic, t = input.topic
  times : ∀ t ∈ input.event.ts.toList ++ input.event.time.toList, isRfc3339 t = true
  sameTime : ∀ t ∈ input.event.ts, ∀ u ∈ input.event.time, t = u

theorem not_isWhitespace_of_isIdChar {c : Char} (h : isIdChar c = true) :
    isWhitespace c = false := by
  have hle (d e : Char) : d ≤ e ↔ d.toNat ≤ e.toNat := Iff.rfl
  have heq (d : Char) : c = d ↔ c.toNat = d.toNat := Char.toNat_inj.symm
  rw [isIdChar_iff] at h
  simp only [hle, heq, Char.reduceToNat] at h
  simp only [isWhitespace, Bool.or_eq_false_iff, Bool.and_eq_false_iff, beq_eq_false_iff_ne,
    decide_eq_false_iff_not]
  omega

/-- An id of the schema is never blank. -/
theorem not_isBlank_id {t : String} (hne : t ≠ "") (hchars : t.toList.all isIdChar = true) :
    isBlank t = false := by
  have hlist : t.toList ≠ [] := fun h => hne (String.toList_eq_nil_iff.mp h)
  obtain ⟨c, cs, hcs⟩ := List.exists_cons_of_ne_nil hlist
  have hc : isIdChar c = true := List.all_eq_true.mp hchars c (by simp [hcs])
  rw [isBlank, hcs, List.all_cons, not_isWhitespace_of_isIdChar hc, Bool.false_and]

theorem PublishInput.Schematic.valid_iff {input : PublishInput} (h : input.Schematic)
    {isRfc3339 : String → Bool} : input.Valid isRfc3339 ↔ input.Tidy isRfc3339 := by
  have hid : ∀ t ∈ input.event.id, isBlank t = false :=
    fun t ht => not_isBlank_id (h.event.id t ht).1 (h.event.id t ht).2
  have hdedupe : (∀ t ∈ input.options.bind PublishOptions.dedupeKey, isBlank t = false) ↔
      ∀ options ∈ input.options, ∀ t ∈ options.dedupeKey, isBlank t = false := by
    cases input.options with
    | none => simp
    | some options => simp
  have htexts : (∀ t ∈ input.checkedTexts, isBlank t = false) ↔
      isBlank input.topic = false ∧ (∀ t ∈ input.event.type, isBlank t = false) ∧
        (∀ t ∈ input.event.source, isBlank t = false) ∧
        (∀ t ∈ input.event.subject, isBlank t = false) ∧
        (∀ t ∈ input.event.eventMeta.tenant, isBlank t = false) ∧
        (∀ t ∈ input.event.eventMeta.tags, isBlank t = false) ∧
        ∀ options ∈ input.options, ∀ t ∈ options.dedupeKey, isBlank t = false := by
    rw [← hdedupe]
    simp only [checkedTexts, List.forall_mem_cons, List.forall_mem_append, Option.mem_toList,
      Option.mem_def, and_assoc]
  constructor
  · intro hvalid
    refine ⟨htexts.mpr ⟨hvalid.topic, hvalid.type, hvalid.source, hvalid.subject,
      hvalid.metaTenant, hvalid.tags, hvalid.dedupeKey⟩, hvalid.eventTopic, ?_, hvalid.sameTime⟩
    rw [List.forall_mem_append]
    exact ⟨fun t ht => hvalid.ts t (Option.mem_toList.mp ht),
      fun t ht => hvalid.time t (Option.mem_toList.mp ht)⟩
  · intro htidy
    obtain ⟨topic, type, source, subject, metaTenant, tags, dedupeKey⟩ := htexts.mp htidy.texts
    obtain ⟨ts, time⟩ := List.forall_mem_append.mp htidy.times
    exact { topic, eventTopic := htidy.eventTopic, id := hid, type, source, subject,
            ts := fun t ht => ts t (Option.mem_toList.mpr ht),
            time := fun t ht => time t (Option.mem_toList.mpr ht),
            sameTime := htidy.sameTime, metaTenant, tags, dedupeKey }

/-- A document that meets the schema decodes unless its time to live is no unsigned integer of 64
bits or its tenant is not readable; the validator then refuses it only for blank texts, topics
that differ or its times.  An input whose tenant is encoded under the schema is encoded under it
exactly when it is `Schematic`: topic, event topic, type, source, subject, correlation id,
`meta.tenant`, tags and dedupe key are not empty, nor is the id, and its characters are those of
ids. -/
theorem input_schema_decodes (codec : TenantCodec) (isRfc3339 : String → Bool) :
    (∀ doc, publishInputSchema.Valid Json.view doc →
      ((PublishInput.fromJson codec.deserialize doc).isSome = true ↔
        (∀ options ∈ doc.get "options", ReadableTtl options) ∧
          ∀ event ∈ doc.get "event", ReadableTenant codec.deserialize event) ∧
      ∀ input, PublishInput.fromJson codec.deserialize doc = some input →
        input.Schematic ∧
          (validatePublishInput isRfc3339 input = .ok () ↔ input.Tidy isRfc3339)) ∧
    ∀ input : PublishInput, input.event.eventMeta.Separate →
      (∀ t ∈ input.event.tenant, tenantSchema.Valid Json.view (codec.serialize t)) →
      (publishInputSchema.Valid Json.view (input.toJson codec.serialize) ↔ input.Schematic) := by
  constructor
  · intro doc hdoc
    obtain ⟨hreads, hschematic⟩ := inputFromJson_iff hdoc
    refine ⟨hreads, fun input hinput => ⟨hschematic input hinput, ?_⟩⟩
    rw [validatePublishInput_ok]
    exact (hschematic input hinput).valid_iff
  · intro input hseparate htenant
    exact valid_input_iff hseparate htenant

def untenantedOrder : PublishInput :=
  { orderInput with event := { orderInput.event with tenant := none } }

theorem input_schema_decodes_order :
    publishInputSchema.Valid Json.view (untenantedOrder.toJson attributedTenant.serialize) ∧
      untenantedOrder.Tidy (· == "2024-01-02T03:04:05Z") := by
  obtain ⟨hdecodes, hencodes⟩ :=
    input_schema_decodes attributedTenant (· == "2024-01-02T03:04:05Z")
  have hschematic : untenantedOrder.Schematic := by
    have htext {s : String} (hs : s ≠ "") : ∀ t ∈ some s, t ≠ "" := by simpa using hs
    refine ⟨by decide, ⟨?_, nofun, htext (by decide), nofun, nofun, htext (by decide),
      htext (by decide), ?_⟩, ?_⟩
    · rintro t ⟨⟩
      exact ⟨by decide, by decide⟩
    · show ∀ t ∈ ["orders", "created"], t ≠ ""
      simp
    · rintro options ⟨⟩
      exact htext (by decide)
  have hvalid := (hencodes untenantedOrder ⟨rfl, rfl⟩ nofun).mpr hschematic
  have hcodec : FieldReadsBack attributedTenant.deserialize attributedTenant.serialize :=
    readsBack_attributedTenant
  have hread := PublishInput.fromJson_toJson hcodec
    (show untenantedOrder.event.eventMeta.Separate from ⟨rfl, rfl⟩)
  exact ⟨hvalid, ((hdecodes _ hvalid).2 untenantedOrder hread).2.mp rfl⟩

end GreenticEvents
