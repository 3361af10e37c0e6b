import GreenticEvents.Agreement
import GreenticEvents.EntryFlows

namespace GreenticEvents

variable {types : GreenticTypes} {manifest : PackManifest}

namespace Native

theorem flowIndex_some {flowId : String} {entry : PackFlowEntry}
    (h : flowIndex manifest flowId = some entry) : entry ∈ manifest.flows ∧ entry.id = flowId :=
  ⟨List.mem_reverse.mp (List.mem_of_find?_eq_some h), by simpa using List.find?_some h⟩

/-- A handler that an `entry_flows` array names and the flow table lacks. -/
def MissingHandler (manifest : PackManifest) (flowId : String) : Prop :=
  flowId ∈ manifestEntryFlows manifest ∧ startsWith flowId "handle_" = true ∧
    ∀ entry ∈ manifest.flows, entry.id ≠ flowId

/-- What the entry loop finds wrong with a handler. -/
theorem mem_entryFlowDefects_handler {flowId : String} {d : Defect} (hd : d.kind ≠ .entryFlow) :
    d ∈ entryFlowDefects manifest flowId ↔ startsWith flowId "handle_" = true ∧
      (d = ⟨.handlerFlow, flowId⟩ ∧ flowIndex manifest flowId = none ∨
        d = ⟨.handlerSchema, flowId⟩ ∧ ∃ entry, flowIndex manifest flowId = some entry ∧
          entry.schemaVersion ≠ "flow-v1") := by
  rw [mem_entryFlowDefects, or_iff_right]
  rintro ⟨rfl, -⟩
  exact hd rfl

theorem mem_handlerDefects {d : Defect} (hd : d.kind ≠ .entryFlow) :
    d ∈ handlerDefects manifest ↔
      (∃ flowId, MissingHandler manifest flowId ∧ d = ⟨.handlerFlow, flowId⟩) ∨
        ∃ entry ∈ manifest.flows, WrongHandler entry ∧ d = ⟨.handlerSchema, entry.id⟩ := by
  have hmissing (flowId : String) :
      flowIndex manifest flowId = none ↔ ∀ entry ∈ manifest.flows, entry.id ≠ flowId := by
    simp [flowIndex, List.find?_eq_none]
  simp only [handlerDefects, List.mem_append, List.mem_flatMap, mem_flowDefects]
  constructor
  · rintro (⟨flowId, hdeclared, hmem⟩ | hflow)
    · obtain ⟨hhandle, ⟨rfl, hnone⟩ | ⟨rfl, entry, hentry, hversion⟩⟩ :=
        (mem_entryFlowDefects_handler hd).mp hmem
      · exact .inl ⟨flowId, ⟨hdeclared, hhandle, (hmissing flowId).mp hnone⟩, rfl⟩
      · -- the loop over the flows finds the entry as well
        obtain ⟨hflow, rfl⟩ := flowIndex_some hentry
        exact .inr ⟨entry, hflow, ⟨hhandle, hversion⟩, rfl⟩
    · exact .inr hflow
  · rintro (⟨flowId, ⟨hdeclared, hhandle, habsent⟩, rfl⟩ | hflow)
    · refine .inl ⟨flowId, hdeclared, (mem_entryFlowDefects_handler hd).mpr ⟨hhandle, .inl ?_⟩⟩
      exact ⟨rfl, (hmissing flowId).mpr habsent⟩
    · exact .inr hflow

/-- The gate of the validator is open wherever there is something to say on a handler. -/
theorem handlesEvents_of_handler {d : Defect} (hd : d.kind ≠ .entryFlow)
    (h : d ∈ handlerDefects manifest) : handlesEvents manifest = true := by
  rw [handlesEvents, Bool.or_eq_true, List.any_eq_true, List.any_eq_true]
  rcases (mem_handlerDefects hd).mp h with ⟨flowId, ⟨hdeclared, hhandle, -⟩, -⟩ |
    ⟨entry, hmem, ⟨hhandle, -⟩, -⟩
  · exact .inl ⟨flowId, hdeclared, by simp [isHandlerName, hhandle]⟩
  · exact .inr ⟨entry, hmem, by simp [isHandlerName, hhandle]⟩

/-- A defect of a handler is found by the handler validator. -/
theorem mem_defects_handler {d : Defect} (hd : d.kind = .handlerFlow ∨ d.kind = .handlerSchema) :
    d ∈ defects manifest ↔ d ∈ handlerDefects manifest := by
  have hflow : d.kind.ofFlow = true := by
    rcases hd with hd | hd <;> simp [hd, DefectKind.ofFlow]
  have hentry : d.kind ≠ .entryFlow := by
    rcases hd with hd | hd <;> simp [hd]
  rw [defects, List.mem_append, or_iff_right fun h => not_ofFlow h hflow]
  constructor
  · intro h
    split_ifs at h
    · exact h
    · exact absurd h List.not_mem_nil
  · intro h
    rw [if_pos (handlesEvents_of_handler hentry h)]
    exact h

/-- On an events pack the validators report a handler exactly when a declared one is not in
the flow table or an entry for one has another schema. -/
theorem handlerFlow_reported_iff (hpack : isEventsPack manifest = true) :
    (∃ d ∈ runValidators types manifest, d.code = "EVT_HANDLER_FLOW_MISSING") ↔
      (∃ flowId ∈ manifestEntryFlows manifest, startsWith flowId "handle_" = true ∧
          ∀ entry ∈ manifest.flows, entry.id ≠ flowId) ∨
        ∃ entry ∈ manifest.flows, startsWith entry.id "handle_" = true ∧
          entry.schemaVersion ≠ "flow-v1" := by
  have hdefects : (∃ d ∈ runValidators types manifest, d.code = "EVT_HANDLER_FLOW_MISSING") ↔
      ∃ d ∈ handlerDefects manifest, d.kind = .handlerFlow ∨ d.kind = .handlerSchema := by
    rw [runValidators_eq hpack]
    constructor
    · rintro ⟨_, hreport, hcode⟩
      obtain ⟨d, hmem, rfl⟩ := List.mem_map.mp hreport
      have hkind := DefectKind.code_handler.mp hcode
      exact ⟨d, (mem_defects_handler hkind).mp hmem, hkind⟩
    · rintro ⟨d, hmem, hkind⟩
      exact ⟨d.report types, List.mem_map_of_mem ((mem_defects_handler hkind).mpr hmem),
        DefectKind.code_handler.mpr hkind⟩
  -- only the two kinds of defects of a handler have that code
  rw [hdefects]
  constructor
  · rintro ⟨d, hmem, hkind⟩
    have hentry : d.kind ≠ .entryFlow := by
      rcases hkind with hkind | hkind <;> simp [hkind]
    rcases (mem_handlerDefects hentry).mp hmem with ⟨flowId, hmissing, -⟩ | ⟨entry, hmem, hwrong, -⟩
    · exact .inl ⟨flowId, hmissing⟩
    · exact .inr ⟨entry, hmem, hwrong⟩
  · rintro (⟨flowId, hmissing⟩ | ⟨entry, hmem, hwrong⟩)
    · exact ⟨⟨.handlerFlow, flowId⟩,
        (mem_handlerDefects (by simp)).mpr (.inl ⟨flowId, hmissing, rfl⟩), .inl rfl⟩
    · exact ⟨⟨.handlerSchema, entry.id⟩,
        (mem_handlerDefects (by simp)).mpr (.inr ⟨entry, hmem, hwrong, rfl⟩), .inr rfl⟩

theorem nodup_flatMap_subject {β : Type} {l : List β} {key : β → String} {f : β → List Defect}
    (hkeys : (l.map key).Nodup) (hsubject : ∀ b, ∀ d ∈ f b, d.subject = key b)
    (hnodup : ∀ b, (f b).Nodup) : (l.flatMap f).Nodup := by
  refine List.nodup_flatMap.mpr ⟨fun b _ => hnodup b, (List.pairwise_map.mp hkeys).imp ?_⟩
  intro b b' hne d hd hd'
  exact hne ((hsubject b d hd).symm.trans (hsubject b' d hd'))

theorem disjoint_of_kind {l l' : List Defect} {p : DefectKind → Prop} (hl : ∀ d ∈ l, p d.kind)
    (hl' : ∀ d ∈ l', ¬ p d.kind) : l.Disjoint l' :=
  fun d hd hd' => hl' d hd' (hl d hd)

theorem providerDefects_nodup (provider : ProviderDecl) : (providerDefects provider).Nodup := by
  unfold providerDefects
  split_ifs <;> simp

theorem providerDefects_subject (provider : ProviderDecl) :
    ∀ d ∈ providerDefects provider, d.subject = provider.providerType := by
  intro d hd
  rcases List.mem_append.mp hd with hd | hd <;> rw [eq_of_mem_if hd]

theorem annotationDefects_nodup (kind : DefectKind) (bad : String → Bool) (value : Option String) :
    (annotationDefects kind bad value).Nodup := by
  cases value with
  | none => exact .nil
  | some value =>
    dsimp only [annotationDefects]
    split_ifs <;> simp

theorem formatDefects_nodup : (formatDefects manifest).Nodup := by
  refine List.nodup_append'.mpr
    ⟨annotationDefects_nodup _ _ _, annotationDefects_nodup _ _ _, ?_⟩
  refine disjoint_of_kind (p := (· = .topic)) (fun d hd => annotationDefects_kind hd) ?_
  intro d hd
  simp [annotationDefects_kind hd]

theorem entryFlowDefects_nodup (flowId : String) : (entryFlowDefects manifest flowId).Nodup := by
  unfold entryFlowDefects
  cases flowIndex manifest flowId <;> dsimp only <;> split_ifs <;> simp

theorem entryFlowDefects_subject (flowId : String) :
    ∀ d ∈ entryFlowDefects manifest flowId, d.subject = flowId := by
  unfold entryFlowDefects
  cases flowIndex manifest flowId <;> dsimp only <;> split_ifs <;> simp

theorem flowDefects_nodup (entry : PackFlowEntry) : (flowDefects entry).Nodup := by
  unfold flowDefects
  split_ifs <;> simp

/-- No declared handler has an entry of another schema. -/
def DeclaredHandlersValid (manifest : PackManifest) : Prop :=
  ∀ flowId ∈ manifestEntryFlows manifest, startsWith flowId "handle_" = true →
    ∀ entry ∈ manifest.flows, entry.id = flowId → entry.schemaVersion = "flow-v1"

section Distinct

variable (hflows : (manifest.flows.map PackFlowEntry.id).Nodup)

include hflows

theorem flowIndex_of_mem {entry : PackFlowEntry} (h : entry ∈ manifest.flows) :
    flowIndex manifest entry.id = some entry := by
  have hsome : (flowIndex manifest entry.id).isSome = true :=
    (flowIndex_isSome entry.id).mpr (List.mem_map_of_mem h)
  obtain ⟨found, hfound⟩ := Option.isSome_iff_exists.mp hsome
  obtain ⟨hmem, hid⟩ := flowIndex_some hfound
  rw [hfound, List.inj_on_of_nodup_map hflows hmem h hid]

/-- Both loops find a declared handler whose entry has another schema. -/
theorem handlerDefects_nodup_iff :
    (handlerDefects manifest).Nodup ↔ DeclaredHandlersValid manifest := by
  have hentries : ((manifestEntryFlows manifest).flatMap (entryFlowDefects manifest)).Nodup := by
    have hkeys : ((manifestEntryFlows manifest).map id).Nodup := by
      rw [List.map_id]
      exact manifestEntryFlows_nodup manifest
    exact nodup_flatMap_subject hkeys entryFlowDefects_subject entryFlowDefects_nodup
  have htable : (manifest.flows.flatMap flowDefects).Nodup := by
    refine nodup_flatMap_subject hflows (fun entry d hd => ?_) flowDefects_nodup
    rw [(mem_flowDefects.mp hd).2]
  rw [handlerDefects, List.nodup_append', and_iff_right hentries, and_iff_right htable]
  constructor
  · intro hdisjoint flowId hdeclared hhandle entry hmem hid
    by_contra hversion
    subst hid
    have hindex := flowIndex_of_mem hflows hmem
    apply hdisjoint (a := ⟨.handlerSchema, entry.id⟩)
    · refine List.mem_flatMap.mpr ⟨entry.id, hdeclared, ?_⟩
      rw [mem_entryFlowDefects_handler (by simp)]
      exact ⟨hhandle, .inr ⟨rfl, entry, hindex, hversion⟩⟩
    · exact List.mem_flatMap.mpr ⟨entry, hmem, mem_flowDefects.mpr ⟨⟨hhandle, hversion⟩, rfl⟩⟩
  · intro hvalid d hd hd'
    obtain ⟨flowId, hdeclared, hd⟩ := List.mem_flatMap.mp hd
    obtain ⟨entry, hmem, hd'⟩ := List.mem_flatMap.mp hd'
    obtain ⟨⟨hhandle, hversion⟩, rfl⟩ := mem_flowDefects.mp hd'
    have hid : entry.id = flowId := entryFlowDefects_subject flowId _ hd
    exact hversion (hvalid flowId hdeclared (hid ▸ hhandle) entry hmem hid)

theorem defects_nodup_iff (hproviders : (manifest.providers.map ProviderDecl.providerType).Nodup) :
    (defects manifest).Nodup ↔ DeclaredHandlersValid manifest := by
  have hhead : (manifest.providers.flatMap providerDefects ++ formatDefects manifest).Nodup := by
    refine List.nodup_append'.mpr ⟨nodup_flatMap_subject hproviders providerDefects_subject
      providerDefects_nodup, formatDefects_nodup, ?_⟩
    refine disjoint_of_kind (p := fun k => k = .providerSchema ∨ k = .providerOps) ?_ ?_
    · intro d hd
      obtain ⟨provider, -, hd⟩ := List.mem_flatMap.mp hd
      exact providerDefects_kind hd
    · intro d hd
      rcases formatDefects_kind hd with hk | hk <;> simp [hk]
  have hdisjoint : (handlerDefects manifest).Disjoint
      (manifest.providers.flatMap providerDefects ++ formatDefects manifest) :=
    disjoint_of_kind (p := (·.ofFlow = true)) (fun _ hd => handlerDefects_ofFlow hd)
      fun _ hd => not_ofFlow hd
  rw [defects]
  by_cases hhandles : handlesEvents manifest = true
  · rw [if_pos hhandles, List.nodup_append', and_iff_right hhead, and_iff_left hdisjoint.symm]
    exact handlerDefects_nodup_iff hflows
  · -- with the gate closed no handler is declared
    rw [if_neg hhandles, List.append_nil]
    refine iff_of_true hhead fun flowId hdeclared hhandle => absurd ?_ hhandles
    rw [handlesEvents, Bool.or_eq_true, List.any_eq_true]
    exact .inl ⟨flowId, hdeclared, by simp [isHandlerName, hhandle]⟩

/-- With distinct flow ids and provider types an events pack gets no diagnostic twice exactly
when no declared handler has an entry of another schema. -/
theorem runValidators_nodup_iff (hpack : isEventsPack manifest = true)
    (hproviders : (manifest.providers.map ProviderDecl.providerType).Nodup) :
    (runValidators types manifest).Nodup ↔
      ∀ flowId ∈ manifestEntryFlows manifest, startsWith flowId "handle_" = true →
        ∀ entry ∈ manifest.flows, entry.id = flowId → entry.schemaVersion = "flow-v1" := by
  rw [runValidators_eq hpack, List.nodup_map_iff Defect.report_injective]
  exact defects_nodup_iff hflows hproviders

end Distinct

def orderPack (schemaVersion : String) : PackManifest where
  packId := "events-orders"
  flows := [⟨"handle_order", schemaVersion⟩]
  extensions := some (.insert .empty "greentic.events-meta.v1"
    ⟨some (.other (.object [("entry_flows", .array [.string "handle_order"])]))⟩)
  providerExtensionInline := none

theorem handlerFlow_reported_orderPack :
    ∃ d ∈ runValidators startTypes (orderPack "flow-v2"), d.code = "EVT_HANDLER_FLOW_MISSING" :=
  (handlerFlow_reported_iff (by decide)).mpr (.inr ⟨_, List.mem_cons_self, by decide, by decide⟩)

theorem runValidators_nodup_orderPack : (runValidators startTypes (orderPack "flow-v1")).Nodup := by
  refine (runValidators_nodup_iff (by decide) (by decide) (by decide)).mpr ?_
  intro flowId _ _ entry hentry _
  rw [List.mem_singleton.mp hentry]

/-- Both loops report the schema of `handle_order`. -/
theorem runValidators_repeat :
    ¬ ∀ (types : GreenticTypes) (manifest : PackManifest), isEventsPack manifest = true →
      (manifest.flows.map PackFlowEntry.id).Nodup →
      (manifest.providers.map ProviderDecl.providerType).Nodup →
      (runValidators types manifest).Nodup := by
  intro hall
  have hnodup := hall startTypes (orderPack "flow-v2") (by decide) (by decide) (by decide)
  have htwice : runValidators startTypes (orderPack "flow-v2") =
      [wrongSchemaVersion "handle_order", wrongSchemaVersion "handle_order"] := by rfl
  rw [htwice] at hnodup
  simp at hnodup

end Native

end GreenticEvents
