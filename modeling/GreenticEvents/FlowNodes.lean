import GreenticEvents.ConfigFlow

namespace GreenticEvents
open Data

/-- What ends the loop before a template node. -/
def FlowError.Stops : FlowError → Prop
  | payload | render _ | traversalLimit => False
  | _ => True

/-- `σ'` has every answer of `σ`, unchanged. -/
def Extends (σ σ' : BTreeMap String Json) : Prop :=
  ∀ key value, σ.get key = some value → σ'.get key = some value

theorem Extends.refl (σ : BTreeMap String Json) : Extends σ σ := fun _ _ h => h

theorem Extends.trans {σ σ' σ'' : BTreeMap String Json} (h : Extends σ σ') (h' : Extends σ' σ'') :
    Extends σ σ'' :=
  fun key value hget => h' key value (h key value hget)

theorem Extends.isSome {σ σ' : BTreeMap String Json} (h : Extends σ σ') {id : String}
    (hsome : (σ.get id).isSome = true) : (σ'.get id).isSome = true := by
  obtain ⟨value, hvalue⟩ := Option.isSome_iff_exists.mp hsome
  rw [h id value hvalue]
  rfl

theorem extends_insert {σ : BTreeMap String Json} {id : String} (hnone : σ.get id = none)
    (value : Json) : Extends σ (σ.insert id value) := by
  intro key old hold
  have hne : key ≠ id := by
    rintro rfl
    rw [hnone] at hold
    cases hold
  rw [BTreeMap.get_insert_of_ne σ hne, hold]

/-- Each field has an id and an answer in the state so far, or a default that becomes its
answer; `σ'` is the state after the last one. -/
inductive Answered : BTreeMap String Json → List Json → BTreeMap String Json → Prop
  | nil (σ : BTreeMap String Json) : Answered σ [] σ
  | known {σ σ' : BTreeMap String Json} {field : Json} {fields : List Json} {id : String}
      (hid : field.get "id" = some (.string id)) (hanswer : (σ.get id).isSome = true)
      (rest : Answered σ fields σ') : Answered σ (field :: fields) σ'
  | default {σ σ' : BTreeMap String Json} {field value : Json} {fields : List Json} {id : String}
      (hid : field.get "id" = some (.string id)) (hnone : σ.get id = none)
      (hdefault : field.get "default" = some value)
      (rest : Answered (σ.insert id value) fields σ') : Answered σ (field :: fields) σ'

theorem bind_asStr {value : Option Json} {s : String} :
    value.bind Json.asStr = some s ↔ value = some (.string s) := by
  rcases value with _ | value
  · simp
  · cases value <;> simp [Json.asStr]

theorem bind_asArray {value : Option Json} {items : List Json} :
    value.bind Json.asArray = some items ↔ value = some (.array items) := by
  rcases value with _ | value
  · simp
  · cases value <;> simp [Json.asArray]

theorem applyField_ok {σ τ : BTreeMap String Json} {field : Json} :
    applyField σ field = .ok τ ↔ ∃ id, field.get "id" = some (.string id) ∧
      ((σ.get id).isSome = true ∧ τ = σ ∨ σ.get id = none ∧
        ∃ value, field.get "default" = some value ∧ τ = σ.insert id value) := by
  unfold applyField
  cases hid : (field.get "id").bind Json.asStr with
  | none =>
    refine iff_of_false (by simp) ?_
    rintro ⟨id, hstring, -⟩
    rw [bind_asStr.mpr hstring] at hid
    cases hid
  | some id =>
    rw [bind_asStr] at hid
    simp only [hid, Option.some.injEq, Json.string.injEq, exists_eq_left']
    cases hknown : σ.get id with
    | some old => simp [eq_comm]
    | none => cases field.get "default" <;> simp [eq_comm]

theorem applyField_error {σ : BTreeMap String Json} {field : Json} {err : FlowError}
    (h : applyField σ field = .error err) : err.Stops := by
  unfold applyField at h
  cases hid : (field.get "id").bind Json.asStr with
  | none =>
    rw [hid] at h
    cases h
    trivial
  | some id =>
    rw [hid] at h
    dsimp only at h
    split_ifs at h
    cases hdefault : field.get "default" with
    | none =>
      rw [hdefault] at h
      cases h
      trivial
    | some value =>
      rw [hdefault] at h
      cases h

theorem foldlM_applyField_ok {fields : List Json} {σ σ' : BTreeMap String Json} :
    fields.foldlM applyField σ = .ok σ' ↔ Answered σ fields σ' := by
  induction fields generalizing σ with
  | nil =>
    rw [List.foldlM_nil]
    constructor
    · intro h
      cases h
      exact .nil _
    · intro h
      cases h
      rfl
  | cons field fields ih =>
    rw [List.foldlM_cons, except_bind_ok]
    simp only [ih, applyField_ok]
    constructor
    · rintro ⟨τ, ⟨id, hid, ⟨hknown, rfl⟩ | ⟨hnone, value, hdefault, rfl⟩⟩, hrest⟩
      · exact .known hid hknown hrest
      · exact .default hid hnone hdefault hrest
    · intro h
      cases h with
      | known hid hanswer rest => exact ⟨_, ⟨_, hid, .inl ⟨hanswer, rfl⟩⟩, rest⟩
      | default hid hnone hdefault rest =>
        exact ⟨_, ⟨_, hid, .inr ⟨hnone, _, hdefault, rfl⟩⟩, rest⟩

theorem foldlM_applyField_error {fields : List Json} {σ : BTreeMap String Json} {err : FlowError}
    (h : fields.foldlM applyField σ = .error err) : err.Stops := by
  induction fields generalizing σ with
  | nil => cases h
  | cons field fields ih =>
    rw [List.foldlM_cons] at h
    rcases except_bind_error.mp h with h | ⟨τ, -, h⟩
    · exact applyField_error h
    · exact ih h

theorem applyQuestions_ok {payload : Json} {σ σ' : BTreeMap String Json} :
    applyQuestions payload σ = .ok σ' ↔
      ∃ fields, payload.get "fields" = some (.array fields) ∧ Answered σ fields σ' := by
  unfold applyQuestions
  cases hfields : (payload.get "fields").bind Json.asArray with
  | none =>
    refine iff_of_false (by simp) ?_
    rintro ⟨fields, harray, -⟩
    rw [bind_asArray.mpr harray] at hfields
    cases hfields
  | some fields =>
    rw [bind_asArray] at hfields
    simp only [hfields, Option.some.injEq, Json.array.injEq, exists_eq_left']
    exact foldlM_applyField_ok

theorem applyQuestions_error {payload : Json} {σ : BTreeMap String Json} {err : FlowError}
    (h : applyQuestions payload σ = .error err) : err.Stops := by
  unfold applyQuestions at h
  cases hfields : (payload.get "fields").bind Json.asArray with
  | none =>
    rw [hfields] at h
    cases h
    trivial
  | some fields =>
    rw [hfields] at h
    exact foldlM_applyField_error h

theorem Answered.extends {σ σ' : BTreeMap String Json} {fields : List Json}
    (h : Answered σ fields σ') : Extends σ σ' := by
  induction h with
  | nil σ => exact .refl σ
  | known _ _ _ ih => exact ih
  | default _ hnone _ _ ih => exact (extends_insert hnone _).trans ih

/-- Every field has an id with an answer in `σ`. -/
def AllKnown (σ : BTreeMap String Json) (fields : List Json) : Prop :=
  ∀ field ∈ fields, ∃ id, field.get "id" = some (.string id) ∧ (σ.get id).isSome = true

theorem Answered.allKnown {σ σ' : BTreeMap String Json} {fields : List Json}
    (h : Answered σ fields σ') : AllKnown σ' fields := by
  induction h with
  | nil σ => simp [AllKnown]
  | known hid hanswer rest ih =>
    exact List.forall_mem_cons.mpr ⟨⟨_, hid, rest.extends.isSome hanswer⟩, ih⟩
  | default hid _ _ rest ih =>
    exact List.forall_mem_cons.mpr ⟨⟨_, hid, rest.extends.isSome (by simp)⟩, ih⟩

/-- A questions node met again asks nothing. -/
theorem AllKnown.answered {σ : BTreeMap String Json} {fields : List Json}
    (h : AllKnown σ fields) : Answered σ fields σ := by
  induction fields with
  | nil => exact .nil σ
  | cons field fields ih =>
    obtain ⟨⟨id, hid, hanswer⟩, hrest⟩ := List.forall_mem_cons.mp h
    exact .known hid hanswer (ih hrest)

theorem AllKnown.mono {σ σ' : BTreeMap String Json} {fields : List Json} (h : AllKnown σ fields)
    (hext : Extends σ σ') : AllKnown σ' fields := by
  intro field hmem
  obtain ⟨id, hid, hanswer⟩ := h field hmem
  exact ⟨id, hid, hext.isSome hanswer⟩

def Flow.NodeAt {nodeIdError : String → Option String} (flow : Flow nodeIdError) (current : String)
    (node : FlowNode nodeIdError) : Prop :=
  ∃ nodeId, nodeId.raw = current ∧ (nodeId, node) ∈ flow.nodes

section Nodes

variable {nodeIdError : String → Option String} {flow : Flow nodeIdError} {current : String}
  {node : FlowNode nodeIdError}

theorem NodeId.new_ok {raw : String} {nodeId : NodeId nodeIdError} :
    NodeId.new raw = .ok nodeId ↔ nodeId.raw = raw := by
  unfold NodeId.new
  constructor
  · intro h
    split at h
    · cases h
      rfl
    · cases h
  · rintro rfl
    split
    · rfl
    · next err herr => exact absurd (nodeId.valid.symm.trans herr) (by simp)

theorem findNode_ok : findNode flow current = .ok node ↔ flow.NodeAt current node := by
  unfold findNode Flow.NodeAt
  rw [except_bind_ok]
  simp only [mapError_ok, NodeId.new_ok, ← lookup_eq_some_iff_mem flow.distinct]
  refine exists_congr fun nodeId => and_congr_right fun _ => ?_
  cases flow.nodes.lookup nodeId <;> simp

theorem findNode_error {err : FlowError} (h : findNode flow current = .error err) :
    err.Stops := by
  rcases except_bind_error.mp h with h | ⟨nodeId, -, h⟩
  · cases hnew : (NodeId.new current : Except String (NodeId nodeIdError)) with
    | ok nodeId =>
      rw [hnew] at h
      cases h
    | error err =>
      rw [hnew] at h
      cases h
      trivial
  · cases hlookup : flow.nodes.lookup nodeId with
    | none =>
      rw [hlookup] at h
      cases h
      trivial
    | some node =>
      rw [hlookup] at h
      cases h

theorem followRouting_ok {routing : Routing nodeIdError} :
    followRouting routing = .ok current ↔
      ∃ nodeId, routing = .next nodeId ∧ nodeId.raw = current := by
  cases routing <;> simp [followRouting]

theorem followRouting_error {routing : Routing nodeIdError} {err : FlowError}
    (h : followRouting routing = .error err) : err.Stops := by
  cases routing <;> cases h <;> trivial

end Nodes

end GreenticEvents
