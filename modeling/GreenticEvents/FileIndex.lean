import GreenticEvents.Agreement

namespace GreenticEvents

variable {types : GreenticTypes} {manifest : PackManifest}

/-- The schema references of a provider, each with the name of its field. -/
def ProviderDecl.schemaRefs (provider : ProviderDecl) : List (String × String) :=
  ("config_schema_ref", provider.configSchemaRef) ::
    provider.stateSchemaRef.toList.map fun stateRef => ("state_schema_ref", stateRef)

def schemaMissing (types : GreenticTypes) (providerType field schemaPath : String) :
    Wasm.Diagnostic where
  severity := "error"
  code := "EVT_SCHEMA_MISSING"
  message :=
    s!"Schema reference '{schemaPath}' for provider '{providerType}' is missing from the pack."
  path := some s!"extensions.{types.providerExtensionId}.providers.{providerType}.{field}"
  hint := some "Add the schema file to the pack or update the reference."

theorem mem_validateSchemaRef {fileIndex : List String} {providerType field value : String}
    {d : Wasm.Diagnostic} :
    d ∈ Wasm.validateSchemaRef types fileIndex providerType field value ↔
      ∃ path, Wasm.extractSchemaPath value = some path ∧ path ∉ fileIndex ∧
        d = schemaMissing types providerType field path := by
  have hcontains (path : String) :
      Wasm.fileIndexContains fileIndex path = true ↔ path ∈ fileIndex := by
    simp [Wasm.fileIndexContains]
  unfold Wasm.validateSchemaRef
  cases Wasm.extractSchemaPath value with
  | none => simp
  | some path =>
    dsimp only
    by_cases hmem : path ∈ fileIndex
    · simp [(hcontains path).mpr hmem, hmem]
    · simp [mt (hcontains path).mp hmem, hmem, schemaMissing]

theorem mem_validateSchemaRefs {fileIndex : List String} {d : Wasm.Diagnostic} :
    d ∈ Wasm.validateSchemaRefs types manifest fileIndex ↔
      ∃ provider ∈ manifest.providers, ∃ field value, (field, value) ∈ provider.schemaRefs ∧
        ∃ path, Wasm.extractSchemaPath value = some path ∧ path ∉ fileIndex ∧
          d = schemaMissing types provider.providerType field path := by
  rw [Wasm.validateSchemaRefs, List.mem_flatMap]
  apply exists_congr
  intro provider
  apply and_congr_right
  intro _
  rw [List.mem_append, mem_validateSchemaRef]
  cases hstate : provider.stateSchemaRef with
  | none => simp [ProviderDecl.schemaRefs, hstate]
  | some stateRef =>
    dsimp only
    rw [mem_validateSchemaRef]
    simp [ProviderDecl.schemaRefs, hstate, or_and_right, exists_or]

/-- On an events pack every provider's missing schema is among the findings. -/
theorem mem_validate {inputs : Wasm.PackInputs}
    (hdecode : types.decodePackManifest inputs.manifestCbor = some manifest)
    {d : Wasm.Diagnostic} :
    d ∈ Wasm.validate types inputs ↔ Wasm.isEventsPack manifest inputs.fileIndex = true ∧
      (d ∈ Wasm.validateSchemaRefs types manifest inputs.fileIndex ∨
        d ∈ Wasm.validateTopics manifest ∨ d ∈ Wasm.validateEntryFlows manifest) := by
  rw [Wasm.validate, hdecode]
  dsimp only
  by_cases hpack : Wasm.isEventsPack manifest inputs.fileIndex = true
  · rw [if_pos hpack, List.mem_append, List.mem_append, or_assoc]
    exact (and_iff_right hpack).symm
  · rw [if_neg hpack]
    exact iff_of_false List.not_mem_nil fun h => hpack h.1

theorem validateTopics_code {d : Wasm.Diagnostic} (h : d ∈ Wasm.validateTopics manifest) :
    d.code = "EVT_INVALID_TOPIC" := by
  have hfinding : Wasm.finding d ∈ topicFindings manifest :=
    Wasm.finding_validateTopics ▸ List.mem_map_of_mem h
  exact (mem_topicFindings.mp hfinding).1

theorem validateEntryFlows_code {d : Wasm.Diagnostic} (h : d ∈ Wasm.validateEntryFlows manifest) :
    d.code = "EVT_ENTRY_FLOW_MISSING" ∨ d.code = "EVT_HANDLER_FLOW_MISSING" := by
  obtain ⟨flowId, -, hd⟩ := List.mem_flatMap.mp h
  unfold Wasm.validateEntryFlow at hd
  split_ifs at hd
  · exact absurd hd List.not_mem_nil
  · rcases List.mem_cons.mp hd with rfl | hd
    · exact .inl rfl
    · rw [List.mem_singleton.mp hd]
      exact .inr rfl
  · rw [List.mem_singleton.mp hd]
    exact .inl rfl

def schemaFields : List String := ["config_schema_ref", "state_schema_ref"]

theorem schemaRefs_field {provider : ProviderDecl} {field value : String}
    (h : (field, value) ∈ provider.schemaRefs) : field ∈ schemaFields := by
  rcases List.mem_cons.mp h with h | h
  · cases h
    exact List.mem_cons_self
  · obtain ⟨stateRef, -, hstate⟩ := List.mem_map.mp h
    cases hstate
    exact List.mem_cons_of_mem _ List.mem_cons_self

/-- Neither field name ends in the other. -/
theorem schemaFields_suffix : ∀ field ∈ schemaFields, ∀ field' ∈ schemaFields,
    field.toList <:+ field'.toList → field = field' := by
  decide

theorem field_append_inj {a b field field' : String} (hfield : field ∈ schemaFields)
    (hfield' : field' ∈ schemaFields) (h : a ++ field = b ++ field') : a = b := by
  have hlist : a.toList ++ field.toList = b.toList ++ field'.toList := by
    rw [← String.toList_append, h, String.toList_append]
  have hsame : field = field' := by
    rcases List.suffix_or_suffix_of_suffix (List.suffix_append a.toList field.toList)
      (hlist ▸ List.suffix_append b.toList field'.toList) with hsuffix | hsuffix
    · exact schemaFields_suffix field hfield field' hfield' hsuffix
    · exact (schemaFields_suffix field' hfield' field hfield hsuffix).symm
  subst hsame
  exact (String.append_left_inj field).mp h

/-- The diagnostic shows the path that was looked up. -/
theorem schemaMissing_path {providerType providerType' field field' path path' : String}
    (hfield : field ∈ schemaFields) (hfield' : field' ∈ schemaFields)
    (h : schemaMissing types providerType field path =
      schemaMissing types providerType' field' path') : path = path' := by
  have hwhere := Option.some.inj (congrArg Wasm.Diagnostic.path h)
  have hbeg := (String.append_left_inj _).mp (field_append_inj hfield hfield' hwhere)
  obtain rfl : providerType = providerType' := (String.append_right_inj _).mp hbeg
  have hmessage := congrArg Wasm.Diagnostic.message h
  simpa only [schemaMissing, String.append_left_inj, String.append_right_inj, toString]
    using hmessage

/-- The schema path of the reference is reported as missing. -/
def SchemaAlarm (types : GreenticTypes) (inputs : Wasm.PackInputs)
    (providerType field value : String) : Prop :=
  ∃ path, Wasm.extractSchemaPath value = some path ∧
    schemaMissing types providerType field path ∈ Wasm.validate types inputs

theorem schemaAlarm_iff {inputs : Wasm.PackInputs}
    (hdecode : types.decodePackManifest inputs.manifestCbor = some manifest)
    {provider : ProviderDecl} (hprovider : provider ∈ manifest.providers) {field value : String}
    (hfield : (field, value) ∈ provider.schemaRefs) :
    SchemaAlarm types inputs provider.providerType field value ↔
      Wasm.isEventsPack manifest inputs.fileIndex = true ∧
        ∃ path, Wasm.extractSchemaPath value = some path ∧ path ∉ inputs.fileIndex := by
  constructor
  · rintro ⟨path, hpath, hmem⟩
    obtain ⟨hpack, hmem | hmem | hmem⟩ := (mem_validate hdecode).mp hmem
    · obtain ⟨_, -, field', value', hfield', path', -, hmissing, hsame⟩ :=
        mem_validateSchemaRefs.mp hmem
      obtain rfl :=
        schemaMissing_path (schemaRefs_field hfield) (schemaRefs_field hfield') hsame
      exact ⟨hpack, path, hpath, hmissing⟩
    · exact absurd (validateTopics_code hmem) (by simp [schemaMissing])
    · exact absurd (validateEntryFlows_code hmem) (by simp [schemaMissing])
  · rintro ⟨hpack, path, hpath, hmissing⟩
    refine ⟨path, hpath, (mem_validate hdecode).mpr ⟨hpack, .inl ?_⟩⟩
    exact mem_validateSchemaRefs.mpr
      ⟨provider, hprovider, field, value, hfield, path, hpath, hmissing, rfl⟩

/-- No reference that is itself in the index is reported as missing. -/
def NoFalseAlarm (types : GreenticTypes) (manifest : PackManifest) (inputs : Wasm.PackInputs) :
    Prop :=
  ∀ provider ∈ manifest.providers, ∀ field value, (field, value) ∈ provider.schemaRefs →
    value ∈ inputs.fileIndex → ¬ SchemaAlarm types inputs provider.providerType field value

/-- There is no false alarm exactly when the pack is no events pack, or each reference in the
index has no `schemas/` in it or is in the index from the first one on. -/
theorem noFalseAlarm_iff {inputs : Wasm.PackInputs}
    (hdecode : types.decodePackManifest inputs.manifestCbor = some manifest) :
    NoFalseAlarm types manifest inputs ↔
      (Wasm.isEventsPack manifest inputs.fileIndex = true →
        ∀ provider ∈ manifest.providers, ∀ field value, (field, value) ∈ provider.schemaRefs →
          value ∈ inputs.fileIndex → ∀ before path,
            FirstOccurrence "schemas/" value before path → path ∈ inputs.fileIndex) := by
  constructor
  · intro hnone hpack provider hprovider field value hfield hvalue before path hfirst
    by_contra hmissing
    have hpath : Wasm.extractSchemaPath value = some path := findFrom_eq_some.mpr ⟨before, hfirst⟩
    refine hnone provider hprovider field value hfield hvalue ?_
    exact (schemaAlarm_iff hdecode hprovider hfield).mpr ⟨hpack, path, hpath, hmissing⟩
  · intro hcond provider hprovider field value hfield hvalue halarm
    obtain ⟨hpack, path, hpath, hmissing⟩ :=
      (schemaAlarm_iff hdecode hprovider hfield).mp halarm
    obtain ⟨before, hfirst⟩ := findFrom_eq_some.mp hpath
    exact hmissing
      (hcond hpack provider hprovider field value hfield hvalue before path hfirst)

def schemaPack (value : String) : PackManifest where
  packId := "events-orders"
  flows := []
  extensions := none
  providerExtensionInline := some ⟨[⟨"events.orders", value, none, []⟩]⟩

def schemaTypes (value : String) : GreenticTypes :=
  ⟨"greentic.provider-extension.v1", fun _ => some (schemaPack value)⟩

def listedInputs (value : String) : Wasm.PackInputs := ⟨[], [value]⟩

theorem noFalseAlarm_iff_orders : NoFalseAlarm (schemaTypes "schemas/events/orders.json")
    (schemaPack "schemas/events/orders.json") (listedInputs "schemas/events/orders.json") := by
  have hdecode : (schemaTypes "schemas/events/orders.json").decodePackManifest
      (listedInputs "schemas/events/orders.json").manifestCbor =
        some (schemaPack "schemas/events/orders.json") := rfl
  refine (noFalseAlarm_iff hdecode).mpr ?_
  intro _ provider _ field value _ hvalue before path hfirst
  obtain rfl := List.mem_singleton.mp hvalue
  rw [hfirst.of_startsWith (by decide)]
  exact hvalue

/-- A schema under another folder is reported as missing although the index has it. -/
theorem listed_schema_reported :
    ¬ ∀ (types : GreenticTypes) (manifest : PackManifest) (inputs : Wasm.PackInputs),
      types.decodePackManifest inputs.manifestCbor = some manifest →
      NoFalseAlarm types manifest inputs := by
  intro hall
  have hdecode : (schemaTypes "my/schemas/x.json").decodePackManifest
      (listedInputs "my/schemas/x.json").manifestCbor = some (schemaPack "my/schemas/x.json") := rfl
  have hnone := hall _ _ _ hdecode ⟨"events.orders", "my/schemas/x.json", none, []⟩
    List.mem_cons_self "config_schema_ref" "my/schemas/x.json" List.mem_cons_self
    List.mem_cons_self
  apply hnone
  apply (schemaAlarm_iff hdecode List.mem_cons_self List.mem_cons_self).mpr
  exact ⟨by decide, "schemas/x.json", by decide, by simp [listedInputs]⟩

theorem validate_of_subset {cbor : List UInt8} {files files' : List String}
    (hdecode : types.decodePackManifest cbor = some manifest)
    (hsub : ∀ path ∈ files, path ∈ files')
    (hpack : Wasm.isEventsPack manifest files = true) {d : Wasm.Diagnostic}
    (hd : d ∈ Wasm.validate types ⟨cbor, files'⟩) : d ∈ Wasm.validate types ⟨cbor, files⟩ := by
  rw [mem_validate hdecode] at hd ⊢
  refine ⟨hpack, hd.2.imp_left ?_⟩
  intro hschema
  obtain ⟨provider, hprovider, field, value, hfield, path, hpath, hmissing, rfl⟩ :=
    mem_validateSchemaRefs.mp hschema
  -- what the larger index lacks, the smaller one lacks too
  exact mem_validateSchemaRefs.mpr ⟨provider, hprovider, field, value, hfield, path, hpath,
    fun hmem => hmissing (hsub path hmem), rfl⟩

/-- Every error that is reported with the second file index is reported with the first. -/
def ErrorsKept (types : GreenticTypes) (cbor : List UInt8) (files files' : List String) : Prop :=
  ∀ d ∈ Wasm.validate types ⟨cbor, files'⟩, d.severity = "error" →
    d ∈ Wasm.validate types ⟨cbor, files⟩

/-- Without some of the files every error is still reported exactly when the pack is still
taken for an events pack, or there was no error. -/
theorem errors_kept_iff {cbor : List UInt8} {files files' : List String}
    (hdecode : types.decodePackManifest cbor = some manifest)
    (hsub : ∀ path ∈ files, path ∈ files') :
    ErrorsKept types cbor files files' ↔
      Wasm.isEventsPack manifest files = true ∨
        ∀ d ∈ Wasm.validate types ⟨cbor, files'⟩, d.severity ≠ "error" := by
  constructor
  · intro hkept
    by_cases hpack : Wasm.isEventsPack manifest files = true
    · exact .inl hpack
    · right
      intro d hd herror
      have hmem := hkept d hd herror
      exact hpack ((mem_validate hdecode).mp hmem).1
  · rintro (hpack | hnone) d hd herror
    · exact validate_of_subset hdecode hsub hpack hd
    · exact absurd herror (hnone d hd)

def startMissing : Wasm.Diagnostic :=
  ⟨"error", "EVT_ENTRY_FLOW_MISSING", missingEntryFlow "start", some "meta.entry_flows",
    some "Add the flow entry or update the entry_flows list."⟩

/-- The missing flow is reported with and without the schema. -/
theorem errors_kept_iff_start :
    startMissing ∈ Wasm.validate startTypes ⟨[], ["schemas/events/orders.json"]⟩ ∧
      startMissing ∈ Wasm.validate startTypes ⟨[], []⟩ := by
  have hdecode : startTypes.decodePackManifest [] = some startPack := rfl
  have hkept : ErrorsKept startTypes [] [] ["schemas/events/orders.json"] :=
    (errors_kept_iff hdecode (by simp)).mpr (.inl (by decide))
  have hmem : startMissing ∈ Wasm.validate startTypes ⟨[], ["schemas/events/orders.json"]⟩ :=
    List.mem_cons_self
  exact ⟨hmem, hkept startMissing hmem rfl⟩

/-- A pack that only its files mark as an events pack. -/
def unmarkedPack : PackManifest := { startPack with packId := "orders" }

def unmarkedTypes : GreenticTypes :=
  ⟨"greentic.provider-extension.v1", fun _ => some unmarkedPack⟩

/-- Without its schema the pack is no events pack, and its missing flow no error. -/
theorem removed_file_hides_error :
    ¬ ∀ (types : GreenticTypes) (cbor : List UInt8) (files files' : List String),
      (∀ path ∈ files, path ∈ files') → ErrorsKept types cbor files files' := by
  intro hall
  have hsub : ∀ path ∈ ([] : List String), path ∈ ["schemas/events/orders.json"] := by simp
  have hmem := hall unmarkedTypes [] [] _ hsub startMissing List.mem_cons_self rfl
  exact absurd hmem List.not_mem_nil

end GreenticEvents
