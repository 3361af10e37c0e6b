import Mathlib.Data.Set.Basic
import GreenticEvents.Defects

namespace GreenticEvents

theorem missingEntryFlow_injective : Function.Injective missingEntryFlow :=
  between_injective "Entry flow '" "' is missing from manifest.flows."

variable {types : GreenticTypes} {manifest : PackManifest}

/-- The declared entry flows without an entry in the flow table. -/
def missingFlows (manifest : PackManifest) : Set String :=
  {flowId | flowId ∈ manifestEntryFlows manifest ∧ flowId ∉ Wasm.flowIds manifest}

/-- The topic annotation, if it breaks the grammar. -/
def invalidTopics (manifest : PackManifest) : Set String :=
  {value | manifestAnnotationValue manifest topicAnnotationKeys = some value ∧
    isValidEventTopic value = false}

/-- The values that findings, codes with messages, report in the words of `text`. -/
def reported (code : String) (text : String → String) (findings : List (String × String)) :
    Set String :=
  {value | (code, text value) ∈ findings}

def topicFindings (manifest : PackManifest) : List (String × String) :=
  match manifestAnnotationValue manifest topicAnnotationKeys with
  | some value =>
    if isValidEventTopic value then [] else [("EVT_INVALID_TOPIC", invalidTopic value)]
  | none => []

theorem mem_topicFindings {code message : String} :
    (code, message) ∈ topicFindings manifest ↔
      code = "EVT_INVALID_TOPIC" ∧
        ∃ value ∈ invalidTopics manifest, message = invalidTopic value := by
  unfold topicFindings invalidTopics
  cases manifestAnnotationValue manifest topicAnnotationKeys with
  | none => simp
  | some topic => by_cases hvalid : isValidEventTopic topic = true <;> simp [hvalid]

/-- A list of findings says nothing under a code that none of them has. -/
theorem not_reported {D : Type} {finding : D → String × String} {l : List D}
    {code message : String} (h : ∀ d ∈ l, (finding d).1 ≠ code) :
    (code, message) ∉ l.map finding := by
  intro hmem
  obtain ⟨d, hd, he⟩ := List.mem_map.mp hmem
  exact h d hd (congrArg Prod.fst he)

/-- The findings compared below are under two codes. -/
theorem code_ne {code other : String}
    (hcode : code = "EVT_ENTRY_FLOW_MISSING" ∨ code = "EVT_INVALID_TOPIC")
    (hother : other ∉ ["EVT_ENTRY_FLOW_MISSING", "EVT_INVALID_TOPIC"]) : other ≠ code := by
  rintro rfl
  exact hother (List.mem_pair.mpr hcode)

namespace Native

def finding (d : Diagnostic) : String × String := (d.code, d.message)

theorem flowIndex_isSome (flowId : String) :
    (flowIndex manifest flowId).isSome = true ↔ flowId ∈ Wasm.flowIds manifest := by
  rw [flowIndex, List.find?_isSome, Wasm.flowIds, List.mem_map]
  simp only [List.mem_reverse, decide_eq_true_eq]

theorem finding_validateTopic :
    (validateTopic manifest).map finding = topicFindings manifest := by
  unfold validateTopic topicFindings
  cases manifestAnnotationValue manifest topicAnnotationKeys with
  | none => rfl
  | some topic =>
    dsimp only
    split_ifs <;> rfl

theorem mem_map_finding {l : List Defect} {code message : String} :
    (code, message) ∈ (l.map (Defect.report types)).map finding ↔
      ∃ d ∈ l, d.kind.code = code ∧ d.message = message := by
  rw [List.map_map, List.mem_map]
  exact exists_congr fun d => and_congr_right fun _ => Prod.ext_iff

theorem mem_handlerDefects_entryFlow {flowId : String} :
    ⟨.entryFlow, flowId⟩ ∈ handlerDefects manifest ↔ flowId ∈ missingFlows manifest := by
  have hflows : (⟨.entryFlow, flowId⟩ : Defect) ∉ manifest.flows.flatMap flowDefects := by
    intro h
    obtain ⟨entry, -, h⟩ := List.mem_flatMap.mp h
    cases (mem_flowDefects.mp h).2
  rw [handlerDefects, List.mem_append, or_iff_left hflows, List.mem_flatMap]
  show _ ↔ flowId ∈ manifestEntryFlows manifest ∧ flowId ∉ Wasm.flowIds manifest
  rw [← flowIndex_isSome]
  simp [mem_entryFlowDefects]

/-- What is left of an events pack's findings without those on providers, types and
handlers. -/
theorem mem_findings (hpack : isEventsPack manifest = true) {code message : String}
    (hcode : code = "EVT_ENTRY_FLOW_MISSING" ∨ code = "EVT_INVALID_TOPIC") :
    (code, message) ∈ (runValidators types manifest).map finding ↔
      (code, message) ∈ topicFindings manifest ∨ handlesEvents manifest = true ∧
        code = "EVT_ENTRY_FLOW_MISSING" ∧ ∃ flowId ∈ missingFlows manifest,
          message = missingEntryFlow flowId := by
  have hproviders : (code, message) ∉
      ((manifest.providers.flatMap providerDefects).map (Defect.report types)).map finding := by
    rw [mem_map_finding]
    rintro ⟨d, hd, rfl, -⟩
    obtain ⟨provider, -, hd⟩ := List.mem_flatMap.mp hd
    rcases providerDefects_kind hd with hk | hk <;> simp [hk, DefectKind.code] at hcode
  have hformat : (code, message) ∈
      ((formatDefects manifest).map (Defect.report types)).map finding ↔
      (code, message) ∈ topicFindings manifest := by
    rw [formatDefects, List.map_append, ← validateTopic_eq, List.map_append, finding_validateTopic,
      List.mem_append, or_iff_left]
    rw [mem_map_finding]
    rintro ⟨d, hd, rfl, -⟩
    simp [annotationDefects_kind hd, DefectKind.code] at hcode
  have hhandlers : (code, message) ∈
      ((handlerDefects manifest).map (Defect.report types)).map finding ↔
      code = "EVT_ENTRY_FLOW_MISSING" ∧ ∃ flowId ∈ missingFlows manifest,
        message = missingEntryFlow flowId := by
    rw [mem_map_finding]
    constructor
    · rintro ⟨⟨kind, flowId⟩, hd, rfl, rfl⟩
      have hentry : kind = .entryFlow := by
        have hflow := handlerDefects_ofFlow hd
        cases kind <;> simp [DefectKind.code, DefectKind.ofFlow] at hcode hflow ⊢
      subst hentry
      exact ⟨rfl, flowId, mem_handlerDefects_entryFlow.mp hd, rfl⟩
    · rintro ⟨rfl, flowId, hmissing, rfl⟩
      exact ⟨⟨.entryFlow, flowId⟩, mem_handlerDefects_entryFlow.mpr hmissing, rfl, rfl⟩
  rw [runValidators_eq hpack, defects, List.map_append, List.map_append, List.mem_append,
    List.map_append, List.map_append, List.mem_append, or_iff_right hproviders, hformat]
  apply or_congr_right
  by_cases hhandles : handlesEvents manifest = true
  · rw [if_pos hhandles, hhandlers, and_iff_right hhandles]
  · simp [hhandles]

end Native

namespace Wasm

def finding (d : Diagnostic) : String × String := (d.code, d.message)

theorem validateSchemaRef_code {fileIndex : List String} {providerType field value : String}
    {d : Diagnostic} (h : d ∈ validateSchemaRef types fileIndex providerType field value) :
    d.code = "EVT_SCHEMA_MISSING" := by
  unfold validateSchemaRef at h
  cases hpath : extractSchemaPath value with
  | none =>
    rw [hpath] at h
    exact absurd h List.not_mem_nil
  | some schemaPath =>
    rw [hpath] at h
    dsimp only at h
    split_ifs at h with hindexed
    · exact absurd h List.not_mem_nil
    · rw [List.mem_singleton.mp h]

theorem finding_validateTopics :
    (validateTopics manifest).map finding = topicFindings manifest := by
  unfold validateTopics topicFindings
  cases manifestAnnotationValue manifest topicAnnotationKeys with
  | none => rfl
  | some topic =>
    dsimp only
    split_ifs <;> rfl

theorem finding_validateEntryFlow {flowId code message : String}
    (hcode : "EVT_HANDLER_FLOW_MISSING" ≠ code) :
    (code, message) ∈ (validateEntryFlow manifest flowId).map finding ↔
      code = "EVT_ENTRY_FLOW_MISSING" ∧ message = missingEntryFlow flowId ∧
        flowId ∉ flowIds manifest := by
  unfold validateEntryFlow
  by_cases hmem : flowId ∈ flowIds manifest
  · simp [hmem]
  · by_cases hhandle : startsWith flowId "handle_" = true
    · simp [hmem, hhandle, finding, hcode.symm]
    · simp [hmem, hhandle, finding]

theorem mem_findings {inputs : PackInputs}
    (hdecode : types.decodePackManifest inputs.manifestCbor = some manifest)
    (hpack : isEventsPack manifest inputs.fileIndex = true) {code message : String}
    (hcode : code = "EVT_ENTRY_FLOW_MISSING" ∨ code = "EVT_INVALID_TOPIC") :
    (code, message) ∈ (validate types inputs).map finding ↔
      (code, message) ∈ topicFindings manifest ∨ code = "EVT_ENTRY_FLOW_MISSING" ∧
        ∃ flowId ∈ missingFlows manifest, message = missingEntryFlow flowId := by
  have hhandler : "EVT_HANDLER_FLOW_MISSING" ≠ code := code_ne hcode (by decide)
  have hschema :
      (code, message) ∉ (validateSchemaRefs types manifest inputs.fileIndex).map finding := by
    apply not_reported
    intro d hd
    obtain ⟨provider, -, hd⟩ := List.mem_flatMap.mp hd
    have hmissing : d.code = "EVT_SCHEMA_MISSING" := by
      rcases List.mem_append.mp hd with hd | hd
      · exact validateSchemaRef_code hd
      · cases hstate : provider.stateSchemaRef with
        | none =>
          rw [hstate] at hd
          exact absurd hd List.not_mem_nil
        | some stateRef =>
          rw [hstate] at hd
          exact validateSchemaRef_code hd
    show d.code ≠ code
    rw [hmissing]
    exact code_ne hcode (by decide)
  have hentries : (code, message) ∈ (validateEntryFlows manifest).map finding ↔
      code = "EVT_ENTRY_FLOW_MISSING" ∧ ∃ flowId ∈ missingFlows manifest,
        message = missingEntryFlow flowId := by
    rw [validateEntryFlows, List.map_flatMap, List.mem_flatMap]
    simp only [finding_validateEntryFlow hhandler, missingFlows, Set.mem_ofPred_eq]
    tauto
  rw [validate, hdecode]
  dsimp only
  rw [if_pos hpack, List.map_append, List.map_append, List.mem_append, List.mem_append,
    or_iff_right hschema, finding_validateTopics, hentries]

end Wasm

/-- On an events pack both validators report the same topics.  The WASM validator reports
every declared entry flow without a flow; the native ones do so if the handler validator
applies, and report no entry flow otherwise. -/
theorem validators_agree {inputs : Wasm.PackInputs}
    (hdecode : types.decodePackManifest inputs.manifestCbor = some manifest)
    (hnative : Native.isEventsPack manifest = true)
    (hwasm : Wasm.isEventsPack manifest inputs.fileIndex = true) :
    let native := (Native.runValidators types manifest).map Native.finding
    let wasm := (Wasm.validate types inputs).map Wasm.finding
    reported "EVT_INVALID_TOPIC" invalidTopic native =
        reported "EVT_INVALID_TOPIC" invalidTopic wasm ∧
      reported "EVT_ENTRY_FLOW_MISSING" missingEntryFlow wasm = missingFlows manifest ∧
      reported "EVT_ENTRY_FLOW_MISSING" missingEntryFlow native =
        if Native.eventsHandlerFlowValidator.applies manifest = true then missingFlows manifest
        else ∅ := by
  intro native wasm
  have htopic (message : String) :
      ("EVT_ENTRY_FLOW_MISSING", message) ∉ topicFindings manifest := by
    rw [mem_topicFindings]
    simp
  have hmissing (flowId : String) :
      (∃ flowId' ∈ missingFlows manifest, missingEntryFlow flowId = missingEntryFlow flowId') ↔
        flowId ∈ missingFlows manifest := by
    simp [missingEntryFlow_injective.eq_iff]
  refine ⟨?_, ?_, ?_⟩
  · ext value
    show _ ∈ native ↔ _ ∈ wasm
    rw [Native.mem_findings hnative (.inr rfl), Wasm.mem_findings hdecode hwasm (.inr rfl)]
    simp
  · ext flowId
    show _ ∈ wasm ↔ _
    rw [Wasm.mem_findings hdecode hwasm (.inl rfl), or_iff_right (htopic _), hmissing]
    simp
  · ext flowId
    show _ ∈ native ↔ _
    rw [Native.mem_findings hnative (.inl rfl), or_iff_right (htopic _), hmissing]
    simp only [Native.eventsHandlerFlowValidator, hnative, Bool.true_and, true_and]
    split_ifs with hhandles
    · simp [hhandles]
    · simp [hhandles]

/-- A pack that declares the entry flow `start` and has no flows. -/
def startPack : PackManifest where
  packId := "events-orders"
  flows := []
  extensions := some (.insert .empty "greentic.events-meta.v1"
    ⟨some (.other (.object [("entry_flows", .array [.string "start"])]))⟩)
  providerExtensionInline := none

def startTypes : GreenticTypes := ⟨"greentic.provider-extension.v1", fun _ => some startPack⟩

def startInputs : Wasm.PackInputs := ⟨[], []⟩

theorem startPack_missing : missingFlows startPack = {"start"} := by
  ext flowId
  show flowId ∈ ["start"] ∧ flowId ∉ [] ↔ _
  simp

theorem validators_agree_startPack :
    reported "EVT_ENTRY_FLOW_MISSING" missingEntryFlow
      ((Wasm.validate startTypes startInputs).map Wasm.finding) = {"start"} := by
  have hdecode : startTypes.decodePackManifest startInputs.manifestCbor = some startPack := rfl
  have hagree := validators_agree hdecode (by decide) (by decide)
  rw [hagree.2.1, startPack_missing]

/-- The native validators do not report the missing entry flow `start`. -/
theorem validators_disagree :
    ¬ ∀ (types : GreenticTypes) (manifest : PackManifest) (inputs : Wasm.PackInputs),
      types.decodePackManifest inputs.manifestCbor = some manifest →
      Native.isEventsPack manifest = true →
      Wasm.isEventsPack manifest inputs.fileIndex = true →
      reported "EVT_ENTRY_FLOW_MISSING" missingEntryFlow
          ((Native.runValidators types manifest).map Native.finding) =
        reported "EVT_ENTRY_FLOW_MISSING" missingEntryFlow
          ((Wasm.validate types inputs).map Wasm.finding) := by
  intro hall
  have hsame := hall startTypes startPack startInputs rfl (by decide) (by decide)
  have hnative : reported "EVT_ENTRY_FLOW_MISSING" missingEntryFlow
      ((Native.runValidators startTypes startPack).map Native.finding) = ∅ := by
    ext flowId
    show _ ∈ [] ↔ _
    simp
  have hwasm : "start" ∈ reported "EVT_ENTRY_FLOW_MISSING" missingEntryFlow
      ((Wasm.validate startTypes startInputs).map Wasm.finding) := by
    show _ ∈ [("EVT_ENTRY_FLOW_MISSING", missingEntryFlow "start")]
    exact List.mem_cons_self
  rw [← hsame, hnative] at hwasm
  exact hwasm

end GreenticEvents
