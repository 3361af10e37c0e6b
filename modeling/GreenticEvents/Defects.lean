import GreenticEvents.Validators

namespace GreenticEvents

theorem between_injective (before after : String) :
    Function.Injective fun subject => before ++ subject ++ after := by
  intro a b h
  have hlist := congrArg String.toList h
  simp only [String.toList_append, List.append_cancel_right_eq, List.append_cancel_left_eq] at hlist
  exact String.toList_injective hlist

variable {types : GreenticTypes} {manifest : PackManifest}

namespace Native

inductive DefectKind where
  | providerSchema
  | providerOps
  | topic
  | type
  | entryFlow
  | handlerFlow
  | handlerSchema
  deriving DecidableEq

namespace DefectKind

def severity : DefectKind → Severity
  | providerSchema | topic | entryFlow | handlerFlow | handlerSchema => .error
  | providerOps | type => .warn

def code : DefectKind → String
  | providerSchema => "EVT_PROVIDER_SCHEMA_EMPTY"
  | providerOps => "EVT_PROVIDER_NO_OPS"
  | topic => "EVT_INVALID_TOPIC"
  | type => "EVT_SUSPECT_TYPE_FORMAT"
  | entryFlow => "EVT_ENTRY_FLOW_MISSING"
  | handlerFlow | handlerSchema => "EVT_HANDLER_FLOW_MISSING"

def hint : DefectKind → String
  | providerSchema => "Set config_schema_ref to a schema path or URL."
  | providerOps => "Declare at least one operation when the provider is implemented."
  | topic => "Use lowercase dot-separated segments, e.g. 'events.order.created'."
  | type => "Prefer reverse-DNS identifiers such as 'com.example.events.created'."
  | entryFlow => "Add the flow entry or update the entry_flows list."
  | handlerFlow => "Add the handler flow entry to the manifest."
  | handlerSchema => "Ensure the flow schema_version is 'flow-v1'."

def ofFlow : DefectKind → Bool
  | entryFlow | handlerFlow | handlerSchema => true
  | providerSchema | providerOps | topic | type => false

theorem hint_injective : Function.Injective hint := by
  intro k k'
  cases k <;> cases k' <;> decide

theorem code_handler {k : DefectKind} :
    k.code = "EVT_HANDLER_FLOW_MISSING" ↔ k = handlerFlow ∨ k = handlerSchema := by
  cases k <;> decide

end DefectKind

/-- A provider type, an annotation or a flow id, and what is wrong with it. -/
structure Defect where
  kind : DefectKind
  subject : String

namespace Defect

def message : Defect → String
  | ⟨.providerSchema, providerType⟩ =>
    s!"Provider '{providerType}' must declare a non-empty config schema reference."
  | ⟨.providerOps, providerType⟩ => s!"Provider '{providerType}' declares no operations."
  | ⟨.topic, value⟩ => invalidTopic value
  | ⟨.type, value⟩ =>
    "Event type '" ++ value ++ "' should be non-empty and reverse-DNS (com., org., ai.greentic.)."
  | ⟨.entryFlow, flowId⟩ => missingEntryFlow flowId
  | ⟨.handlerFlow, flowId⟩ => s!"Handler flow '{flowId}' is missing."
  | ⟨.handlerSchema, flowId⟩ => s!"Handler flow '{flowId}' must be a flow-v1 schema."

variable (types) in
def path : Defect → String
  | ⟨.providerSchema, providerType⟩ =>
    s!"extensions.{types.providerExtensionId}.providers." ++ s!"{providerType}.config_schema_ref"
  | ⟨.providerOps, providerType⟩ =>
    s!"extensions.{types.providerExtensionId}.providers.{providerType}.ops"
  | ⟨.topic, _⟩ => "extensions.*.annotations.event.topic"
  | ⟨.type, _⟩ => "extensions.*.annotations.event.type"
  | ⟨.entryFlow, _⟩ => "meta.entry_flows"
  | ⟨.handlerFlow, flowId⟩ => s!"flows.{flowId}"
  | ⟨.handlerSchema, flowId⟩ => s!"flows.{flowId}.schema_version"

variable (types) in
def report (d : Defect) : Diagnostic :=
  diagnostic d.kind.severity d.kind.code d.message (some (d.path types)) (some d.kind.hint)

/-- The hint of a diagnostic tells the kind, its message the subject. -/
theorem report_injective : Function.Injective (report types) := by
  rintro ⟨k, a⟩ ⟨k', b⟩ h
  have hhint : some k.hint = some k'.hint := congrArg Diagnostic.hint h
  obtain rfl : k = k' := DefectKind.hint_injective (Option.some.inj hhint)
  have hmessage : message ⟨k, a⟩ = message ⟨k, b⟩ := congrArg Diagnostic.message h
  have hsubject : a = b := by
    cases k <;> exact between_injective _ _ hmessage
  rw [hsubject]

end Defect

def providerDefects (provider : ProviderDecl) : List Defect :=
  (if isBlank provider.configSchemaRef then [⟨.providerSchema, provider.providerType⟩] else []) ++
    if provider.ops.isEmpty then [⟨.providerOps, provider.providerType⟩] else []

def annotationDefects (kind : DefectKind) (bad : String → Bool) : Option String → List Defect
  | some value => if bad value then [⟨kind, value⟩] else []
  | none => []

def formatDefects (manifest : PackManifest) : List Defect :=
  annotationDefects .topic (fun value => !isValidEventTopic value)
      (manifestAnnotationValue manifest topicAnnotationKeys) ++
    annotationDefects .type (fun value => isBlank value || !isReverseDns value)
      (manifestAnnotationValue manifest typeAnnotationKeys)

def entryFlowDefects (manifest : PackManifest) (flowId : String) : List Defect :=
  (if (flowIndex manifest flowId).isSome then [] else [⟨.entryFlow, flowId⟩]) ++
    if startsWith flowId "handle_" then
      match flowIndex manifest flowId with
      | some entry => if entry.schemaVersion ≠ "flow-v1" then [⟨.handlerSchema, flowId⟩] else []
      | none => [⟨.handlerFlow, flowId⟩]
    else []

def flowDefects (entry : PackFlowEntry) : List Defect :=
  if startsWith entry.id "handle_" && entry.schemaVersion != "flow-v1" then
    [⟨.handlerSchema, entry.id⟩]
  else []

def handlerDefects (manifest : PackManifest) : List Defect :=
  (manifestEntryFlows manifest).flatMap (entryFlowDefects manifest) ++
    manifest.flows.flatMap flowDefects

def defects (manifest : PackManifest) : List Defect :=
  manifest.providers.flatMap providerDefects ++ formatDefects manifest ++
    if handlesEvents manifest then handlerDefects manifest else []

theorem validateProvider_eq (provider : ProviderDecl) :
    validateProvider types provider = (providerDefects provider).map (Defect.report types) := by
  unfold validateProvider providerDefects
  split_ifs <;> rfl

variable (types) in
theorem validateTopic_eq : validateTopic manifest =
    (annotationDefects .topic (fun value => !isValidEventTopic value)
      (manifestAnnotationValue manifest topicAnnotationKeys)).map (Defect.report types) := by
  unfold validateTopic
  cases manifestAnnotationValue manifest topicAnnotationKeys with
  | none => rfl
  | some value =>
    cases hvalid : isValidEventTopic value with
    | false => simp only [annotationDefects, hvalid]; rfl
    | true => simp only [annotationDefects, hvalid]; rfl

variable (types) in
theorem validateType_eq : validateType manifest =
    (annotationDefects .type (fun value => isBlank value || !isReverseDns value)
      (manifestAnnotationValue manifest typeAnnotationKeys)).map (Defect.report types) := by
  unfold validateType
  cases manifestAnnotationValue manifest typeAnnotationKeys with
  | none => rfl
  | some value =>
    dsimp only [annotationDefects]
    split_ifs <;> rfl

theorem validateEntryFlow_eq (flowId : String) : validateEntryFlow manifest flowId =
    (entryFlowDefects manifest flowId).map (Defect.report types) := by
  unfold validateEntryFlow entryFlowDefects
  cases flowIndex manifest flowId with
  | none =>
    dsimp only
    split_ifs <;> rfl
  | some entry =>
    dsimp only
    split_ifs <;> rfl

theorem validateFlow_eq (entry : PackFlowEntry) :
    validateFlow entry = (flowDefects entry).map (Defect.report types) := by
  unfold validateFlow flowDefects
  split_ifs <;> rfl

/-- The native validators report the defects of an events pack, and nothing else. -/
theorem runValidators_eq (hpack : isEventsPack manifest = true) :
    runValidators types manifest = (defects manifest).map (Defect.report types) := by
  have hproviders : manifest.providers.flatMap (validateProvider types) =
      (manifest.providers.flatMap providerDefects).map (Defect.report types) := by
    rw [List.map_flatMap]
    exact List.flatMap_congr fun provider _ => validateProvider_eq provider
  have hhandlers : eventsHandlerFlowValidator.validate manifest =
      (handlerDefects manifest).map (Defect.report types) := by
    rw [handlerDefects, List.map_append, List.map_flatMap, List.map_flatMap]
    simp only [← validateEntryFlow_eq, ← validateFlow_eq]
    rfl
  have hrun : runValidators types manifest =
      manifest.providers.flatMap (validateProvider types) ++
        (validateTopic manifest ++ validateType manifest) ++
        if handlesEvents manifest then eventsHandlerFlowValidator.validate manifest else [] := by
    simp [runValidators, eventsValidators, eventsProviderDeclValidator,
      eventsTopicTypeFormatValidator, eventsHandlerFlowValidator, hpack]
  rw [hrun, hproviders, validateTopic_eq types, validateType_eq types,
    hhandlers, defects, formatDefects, List.map_append, List.map_append, List.map_append,
    apply_ite (List.map _)]
  rfl

theorem eq_of_mem_if {α : Type} {c : Prop} [Decidable c] {a d : α}
    (h : d ∈ if c then [a] else []) : d = a := by
  split_ifs at h
  · exact List.mem_singleton.mp h
  · exact absurd h List.not_mem_nil

theorem annotationDefects_kind {kind : DefectKind} {bad : String → Bool} {value : Option String}
    {d : Defect} (h : d ∈ annotationDefects kind bad value) : d.kind = kind := by
  cases value with
  | none => exact absurd h List.not_mem_nil
  | some value => exact congrArg Defect.kind (eq_of_mem_if h)

theorem providerDefects_kind {provider : ProviderDecl} {d : Defect}
    (h : d ∈ providerDefects provider) : d.kind = .providerSchema ∨ d.kind = .providerOps := by
  rcases List.mem_append.mp h with h | h
  · exact .inl (congrArg Defect.kind (eq_of_mem_if h))
  · exact .inr (congrArg Defect.kind (eq_of_mem_if h))

theorem formatDefects_kind {d : Defect} (h : d ∈ formatDefects manifest) :
    d.kind = .topic ∨ d.kind = .type := by
  rcases List.mem_append.mp h with h | h
  · exact .inl (annotationDefects_kind h)
  · exact .inr (annotationDefects_kind h)

/-- An entry of the flow table for a handler of another schema. -/
def WrongHandler (entry : PackFlowEntry) : Prop :=
  startsWith entry.id "handle_" = true ∧ entry.schemaVersion ≠ "flow-v1"

theorem mem_flowDefects {entry : PackFlowEntry} {d : Defect} :
    d ∈ flowDefects entry ↔ WrongHandler entry ∧ d = ⟨.handlerSchema, entry.id⟩ := by
  unfold flowDefects WrongHandler
  split_ifs with h
  · simp only [Bool.and_eq_true, bne_iff_ne] at h
    simp [h]
  · simp only [Bool.and_eq_true, bne_iff_ne] at h
    simp [h]

/-- What the entry loop finds. -/
theorem mem_entryFlowDefects {flowId : String} {d : Defect} :
    d ∈ entryFlowDefects manifest flowId ↔
      d = ⟨.entryFlow, flowId⟩ ∧ flowIndex manifest flowId = none ∨
      startsWith flowId "handle_" = true ∧
        (d = ⟨.handlerFlow, flowId⟩ ∧ flowIndex manifest flowId = none ∨
          d = ⟨.handlerSchema, flowId⟩ ∧ ∃ entry, flowIndex manifest flowId = some entry ∧
            entry.schemaVersion ≠ "flow-v1") := by
  unfold entryFlowDefects
  by_cases hhandle : startsWith flowId "handle_" = true
  · cases flowIndex manifest flowId with
    | none => simp [hhandle]
    | some entry => by_cases hversion : entry.schemaVersion = "flow-v1" <;> simp [hhandle, hversion]
  · cases flowIndex manifest flowId <;> simp [hhandle]

theorem entryFlowDefects_ofFlow {flowId : String} {d : Defect}
    (h : d ∈ entryFlowDefects manifest flowId) : d.kind.ofFlow = true := by
  rcases mem_entryFlowDefects.mp h with ⟨rfl, -⟩ | ⟨-, ⟨rfl, -⟩ | ⟨rfl, -⟩⟩ <;> rfl

theorem handlerDefects_ofFlow {d : Defect} (h : d ∈ handlerDefects manifest) :
    d.kind.ofFlow = true := by
  rcases List.mem_append.mp h with h | h
  · obtain ⟨flowId, -, h⟩ := List.mem_flatMap.mp h
    exact entryFlowDefects_ofFlow h
  · obtain ⟨entry, -, h⟩ := List.mem_flatMap.mp h
    rw [(mem_flowDefects.mp h).2]
    rfl

theorem not_ofFlow {d : Defect}
    (h : d ∈ manifest.providers.flatMap providerDefects ++ formatDefects manifest) :
    ¬ d.kind.ofFlow = true := by
  rcases List.mem_append.mp h with h | h
  · obtain ⟨provider, -, h⟩ := List.mem_flatMap.mp h
    rcases providerDefects_kind h with hk | hk <;> simp [hk, DefectKind.ofFlow]
  · rcases formatDefects_kind h with hk | hk <;> simp [hk, DefectKind.ofFlow]

end Native

end GreenticEvents
