import GreenticEvents.Agreement
import GreenticEvents.Data.JsonSchema

namespace GreenticEvents
open Data JsonSchema

/-- `[a-z0-9]` -/
def firstClass : List Char := ('a'...= 'z').toList ++ ('0'...= '9').toList

/-- `[a-z0-9_-]` -/
def segmentClass : List Char := firstClass ++ ['_', '-']

/-- `^[a-z0-9]+(\.[a-z0-9_-]+)+$` -/
def topicPattern : Pattern where
  atStart := true
  body := oneOrMore (oneOf firstClass) * oneOrMore (.char '.' * oneOrMore (oneOf segmentClass))
  atEnd := true

theorem mem_firstClass {c : Char} : c ∈ firstClass ↔ isLowerOrDigit c = true := by
  simp only [firstClass, isLowerOrDigit, List.mem_append, Std.Rcc.mem_toList_iff_mem,
    Std.Rcc.mem_iff, Bool.or_eq_true, isLower_iff, isDigit_iff]

theorem mem_segmentClass {c : Char} : c ∈ segmentClass ↔ isSegmentChar c = true := by
  simp only [segmentClass, isSegmentChar, List.mem_append, mem_firstClass, Bool.or_eq_true,
    beq_iff_eq, List.mem_cons, List.not_mem_nil, or_false]
  tauto

theorem mem_firstPart {part : List Char} :
    part ∈ (oneOrMore (oneOf firstClass)).matches' ↔
      part ≠ [] ∧ ∀ c ∈ part, isLowerOrDigit c = true := by
  simp only [mem_oneOrMore_oneOf, mem_firstClass]

theorem mem_segmentPart {part : List Char} :
    part ∈ (oneOrMore (oneOf segmentClass)).matches' ↔
      part ≠ [] ∧ ∀ c ∈ part, isSegmentChar c = true := by
  simp only [mem_oneOrMore_oneOf, mem_segmentClass]

/-- A text matches if it has two parts or more, which match. -/
theorem topicPattern_iff {value : String} :
    topicPattern.Matches value ↔
      ∃ first segments, value.toList.splitOn '.' = first :: segments ∧
        (first ≠ [] ∧ ∀ c ∈ first, isLowerOrDigit c = true) ∧ segments ≠ [] ∧
        ∀ segment ∈ segments, segment ≠ [] ∧ ∀ c ∈ segment, isSegmentChar c = true := by
  have hfirst (part : List Char) (hpart : part ∈ (oneOrMore (oneOf firstClass)).matches') :
      '.' ∉ part := by
    intro hdot
    exact absurd ((mem_firstPart.mp hpart).2 _ hdot) (by decide)
  have hsegment (part : List Char) (hpart : part ∈ (oneOrMore (oneOf segmentClass)).matches') :
      '.' ∉ part := by
    intro hdot
    exact absurd ((mem_segmentPart.mp hpart).2 _ hdot) (by decide)
  rw [topicPattern, Pattern.matches_anchored, mem_separated hfirst hsegment]
  simp only [mem_firstPart, mem_segmentPart]

/-- The check accepts exactly the language of the pattern. -/
theorem isValidEventTopic_pattern (value : String) :
    isValidEventTopic value = true ↔ topicPattern.Matches value := by
  rw [isValidEventTopic_iff, topicPattern_iff]

/-- Some extension's annotations have a topic outside the grammar. -/
def DeclaresInvalidTopic (manifest : PackManifest) : Prop :=
  ∃ value ∈ manifest.freeForm, ∃ annotations,
    value.get "annotations" = some (.object annotations) ∧ ∃ key ∈ topicAnnotationKeys,
      ∃ topic, annotations.lookup key = some (.string topic) ∧ ¬ topicPattern.Matches topic

/-- The topics of one extension, `event.topic` first. -/
def annotatedTopics (value : Json) : List String :=
  match value.get "annotations" with
  | some (.object annotations) =>
    topicAnnotationKeys.filterMap fun key => (annotations.lookup key).bind Json.asStr
  | _ => []

/-- The topics of all extensions, in key order. -/
def declaredTopics (manifest : PackManifest) : List String :=
  manifest.freeForm.flatMap annotatedTopics

theorem asStr_eq_some {value : Json} {text : String} :
    value.asStr = some text ↔ value = .string text := by
  cases value <;> simp [Json.asStr]

theorem mem_annotatedTopics {value : Json} {topic : String} :
    topic ∈ annotatedTopics value ↔ ∃ annotations,
      value.get "annotations" = some (.object annotations) ∧ ∃ key ∈ topicAnnotationKeys,
        annotations.lookup key = some (.string topic) := by
  unfold annotatedTopics
  split
  · next annotations hget =>
    simp only [List.mem_filterMap, Option.bind_eq_some_iff, asStr_eq_some, hget, Option.some.injEq,
      Json.object.injEq, exists_eq_left', exists_eq_right]
  · next hother =>
    refine iff_of_false List.not_mem_nil ?_
    rintro ⟨annotations, hget, -⟩
    exact hother annotations hget

theorem declaresInvalidTopic_iff {manifest : PackManifest} :
    DeclaresInvalidTopic manifest ↔
      ∃ topic ∈ declaredTopics manifest, isValidEventTopic topic = false := by
  simp only [DeclaresInvalidTopic, declaredTopics, List.mem_flatMap, mem_annotatedTopics,
    topicPattern_iff, ← isValidEventTopic_iff, Bool.not_eq_true]
  constructor
  · rintro ⟨value, hmem, annotations, hget, key, hkey, topic, hlookup, hinvalid⟩
    exact ⟨topic, ⟨value, hmem, annotations, hget, key, hkey, hlookup⟩, hinvalid⟩
  · rintro ⟨topic, ⟨value, hmem, annotations, hget, key, hkey, hlookup⟩, hinvalid⟩
    exact ⟨value, hmem, annotations, hget, key, hkey, topic, hlookup, hinvalid⟩

/-- The validators look at the first declared topic only. -/
theorem manifestAnnotationValue_topic (manifest : PackManifest) :
    manifestAnnotationValue manifest topicAnnotationKeys = (declaredTopics manifest).head? := by
  rw [declaredTopics, List.head?_flatMap, manifestAnnotationValue]
  congr 1
  funext value
  unfold annotatedTopics
  cases hget : value.get "annotations" with
  | none => rfl
  | some annotations =>
    cases annotations with
    | object entries => exact List.head?_filterMap.symm
    | _ => rfl

theorem mem_invalidTopics {manifest : PackManifest} {value : String} :
    value ∈ invalidTopics manifest ↔
      (declaredTopics manifest).head? = some value ∧ isValidEventTopic value = false := by
  rw [← manifestAnnotationValue_topic]
  exact Iff.rfl

/-- An invalid topic is reported exactly when one is declared. -/
def ReportsInvalidTopic (manifest : PackManifest) (findings : List (String × String)) : Prop :=
  (∃ message, ("EVT_INVALID_TOPIC", message) ∈ findings) ↔ DeclaresInvalidTopic manifest

/-- The first declared topic is invalid, or every declared topic is valid. -/
def FirstTopicDecides (manifest : PackManifest) : Prop :=
  ∀ first ∈ (declaredTopics manifest).head?, topicPattern.Matches first →
    ∀ topic ∈ declaredTopics manifest, topicPattern.Matches topic

variable {manifest : PackManifest} {findings : List (String × String)}

theorem reportsInvalidTopic_iff
    (h : ∀ message, ("EVT_INVALID_TOPIC", message) ∈ findings ↔
      ∃ value ∈ invalidTopics manifest, message = invalidTopic value) :
    ReportsInvalidTopic manifest findings ↔ FirstTopicDecides manifest := by
  have hreported : (∃ message, ("EVT_INVALID_TOPIC", message) ∈ findings) ↔
      ∃ value, (declaredTopics manifest).head? = some value ∧ isValidEventTopic value = false := by
    simp only [h, mem_invalidTopics]
    constructor
    · rintro ⟨_, value, hvalue, -⟩
      exact ⟨value, hvalue⟩
    · rintro ⟨value, hvalue⟩
      exact ⟨_, value, hvalue, rfl⟩
  rw [ReportsInvalidTopic, hreported, declaresInvalidTopic_iff, FirstTopicDecides]
  simp only [topicPattern_iff, ← isValidEventTopic_iff]
  cases declaredTopics manifest with
  | nil => simp
  | cons first rest =>
    simp only [List.head?_cons, Option.some.injEq, Option.mem_def, forall_eq', exists_eq_left',
      List.exists_mem_cons_iff, List.forall_mem_cons]
    cases hfirst : isValidEventTopic first with
    | false => simp
    | true => simp

/-- On an events pack either validator reports the invalid topics rightly exactly when the
first declared topic is invalid or every declared topic is valid. -/
theorem invalidTopics_reported_iff (types : GreenticTypes) (manifest : PackManifest) :
    (Native.isEventsPack manifest = true →
      (ReportsInvalidTopic manifest ((Native.runValidators types manifest).map Native.finding) ↔
        FirstTopicDecides manifest)) ∧
    ∀ inputs : Wasm.PackInputs, types.decodePackManifest inputs.manifestCbor = some manifest →
      Wasm.isEventsPack manifest inputs.fileIndex = true →
      (ReportsInvalidTopic manifest ((Wasm.validate types inputs).map Wasm.finding) ↔
        FirstTopicDecides manifest) := by
  constructor
  · intro hpack
    -- either validator looks at the topic that `manifest_annotation_value` finds
    apply reportsInvalidTopic_iff
    intro message
    rw [Native.mem_findings hpack (.inr rfl), mem_topicFindings]
    simp
  · intro inputs hdecode hpack
    apply reportsInvalidTopic_iff
    intro message
    rw [Wasm.mem_findings hdecode hpack (.inr rfl), mem_topicFindings]
    simp

def annotationsOf (topic : String) : ExtensionRef :=
  ⟨some (.other (.object [("annotations", .object [("event.topic", .string topic)])]))⟩

/-- Two extensions with a topic each. -/
def topicPack (first second : String) : PackManifest where
  packId := "events-orders"
  flows := []
  extensions := some ⟨[("a", annotationsOf first), ("b", annotationsOf second)], by
    have hkeys : "a" < "b" := by decide
    simpa using hkeys⟩
  providerExtensionInline := none

def topicTypes (first second : String) : GreenticTypes :=
  ⟨"greentic.provider-extension.v1", fun _ => some (topicPack first second)⟩

theorem topicPack_declares (first second : String) :
    declaredTopics (topicPack first second) = [first, second] := rfl

theorem invalidTopics_reported_iff_orders :
    ReportsInvalidTopic (topicPack "orders" "orders.created")
      ((Wasm.validate (topicTypes "orders" "orders.created") startInputs).map Wasm.finding) := by
  have hiff := (invalidTopics_reported_iff (topicTypes "orders" "orders.created") _).2 startInputs
    rfl (by decide)
  refine hiff.mpr ?_
  -- the first topic has one segment only
  intro first hfirst hmatches
  cases hfirst
  rw [topicPattern_iff, ← isValidEventTopic_iff] at hmatches
  exact absurd hmatches (by decide)

/-- A valid topic hides an invalid one in a later extension. -/
theorem invalid_topic_unreported :
    ¬ ∀ (types : GreenticTypes) (manifest : PackManifest) (inputs : Wasm.PackInputs),
      types.decodePackManifest inputs.manifestCbor = some manifest →
      Native.isEventsPack manifest = true →
      Wasm.isEventsPack manifest inputs.fileIndex = true →
      ReportsInvalidTopic manifest ((Native.runValidators types manifest).map Native.finding) ∧
      ReportsInvalidTopic manifest ((Wasm.validate types inputs).map Wasm.finding) := by
  intro hall
  have hreports := (hall (topicTypes "orders.created" "Orders") _ startInputs rfl (by decide)
    (by decide)).1
  have hdeclared : DeclaresInvalidTopic (topicPack "orders.created" "Orders") :=
    declaresInvalidTopic_iff.mpr ⟨"Orders", by simp [topicPack_declares], by decide⟩
  obtain ⟨message, hmem⟩ := hreports.mpr hdeclared
  have hnone : Native.runValidators (topicTypes "orders.created" "Orders")
      (topicPack "orders.created" "Orders") = [] := by
    decide
  rw [hnone] at hmem
  exact absurd hmem List.not_mem_nil

end GreenticEvents
