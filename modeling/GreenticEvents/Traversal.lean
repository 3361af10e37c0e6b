import GreenticEvents.FlowNodes

namespace GreenticEvents
open Data

section Chain

variable {nodeIdError : String → Option String}

/-- `s` is at a questions node with an answer to each field, and that leads to the node of
`s'`. -/
def LeadsTo (flow : Flow nodeIdError) (s s' : FlowState) : Prop :=
  ∃ node fields nodeId, flow.NodeAt s.current node ∧ node.component = "questions" ∧
    node.mapping.get "fields" = some (.array fields) ∧ Answered s.state fields s'.state ∧
    node.routing = .next nodeId ∧ s'.current = nodeId.raw

/-- The chain from `s` comes to `s'`. -/
def Reaches (flow : Flow nodeIdError) : FlowState → FlowState → Prop :=
  Relation.ReflTransGen (LeadsTo flow)

def TemplateAt (flow : Flow nodeIdError) (current : String) (payload : Json) : Prop :=
  ∃ node, flow.NodeAt current node ∧ node.component = "template" ∧ node.mapping = payload

theorem LeadsTo.extends {flow : Flow nodeIdError} {s s' : FlowState} (h : LeadsTo flow s s') :
    Extends s.state s'.state := by
  obtain ⟨_, _, _, -, -, -, hanswered, -, -⟩ := h
  exact hanswered.extends

theorem Reaches.extends {flow : Flow nodeIdError} {s s' : FlowState} (h : Reaches flow s s') :
    Extends s.state s'.state := by
  induction h with
  | refl => exact .refl _
  | tail _ hstep ih => exact ih.trans hstep.extends

end Chain

section Passes

variable {host : FlowHost} {packId : String} {flow : Flow host.nodeIdError} {s s' : FlowState}

variable (packId) in
theorem visitNode_next : visitNode host packId flow s = .ok (.inl s') ↔ LeadsTo flow s s' := by
  unfold visitNode
  rw [except_bind_ok]
  simp only [findNode_ok]
  constructor
  · rintro ⟨node, hnode, h⟩
    split_ifs at h with hquestions
    · obtain ⟨σ, hσ, h⟩ := except_bind_ok.mp h
      obtain ⟨current, hcurrent, h⟩ := except_bind_ok.mp h
      cases h
      obtain ⟨fields, hfields, hanswered⟩ := applyQuestions_ok.mp hσ
      obtain ⟨nodeId, hrouting, rfl⟩ := followRouting_ok.mp hcurrent
      exact ⟨node, fields, nodeId, hnode, hquestions, hfields, hanswered, hrouting, rfl⟩
    · obtain ⟨payload, -, h⟩ := except_bind_ok.mp h
      cases h
  · rintro ⟨node, fields, nodeId, hnode, hquestions, hfields, hanswered, hrouting, hcurrent⟩
    refine ⟨node, hnode, ?_⟩
    rw [if_pos hquestions, except_bind_ok]
    refine ⟨s'.state, applyQuestions_ok.mpr ⟨fields, hfields, hanswered⟩, ?_⟩
    rw [except_bind_ok]
    exact ⟨s'.current, followRouting_ok.mpr ⟨nodeId, hrouting, hcurrent.symm⟩, rfl⟩

theorem goesOn_eq : GoesOn (flowPass host packId flow) = LeadsTo flow := by
  funext s s'
  rw [← visitNode_next packId, GoesOn, flowPass]
  cases visitNode host packId flow s with
  | error err => simp
  | ok result => cases result <;> simp

theorem flowPass_template {payload : Json} (h : TemplateAt flow s.current payload) :
    flowPass host packId flow s = .inr (renderTemplate host packId payload s.state s.current) := by
  obtain ⟨node, hnode, htemplate, rfl⟩ := h
  have hvisit : visitNode host packId flow s =
      (renderTemplate host packId node.mapping s.state s.current >>= fun payload =>
        .ok (.inr payload)) := by
    unfold visitNode
    rw [findNode_ok.mpr hnode]
    simp [bind, Except.bind, htemplate, pure, Except.pure]
  rw [flowPass, hvisit]
  cases renderTemplate host packId node.mapping s.state s.current <;> rfl

/-- A node of the chain met again leads to the same node: its answers are known by then. -/
theorem flowPass_retraces (s : FlowState) :
    Retraces (flowPass host packId flow) FlowState.current s := by
  intro u u' v _ hnext hlater hplace
  rw [goesOn_eq] at hnext hlater ⊢
  obtain ⟨node, fields, nodeId, hnode, hquestions, hfields, hanswered, hrouting, hcurrent⟩ := hnext
  have hknown : AllKnown v.state fields := hanswered.allKnown.mono (Reaches.extends hlater)
  exact ⟨⟨nodeId.raw, v.state⟩, ⟨node, fields, nodeId, hplace ▸ hnode, hquestions, hfields,
    hknown.answered, hrouting, rfl⟩, hcurrent.symm⟩

theorem flowPass_places (u u' : FlowState) (h : GoesOn (flowPass host packId flow) u u') :
    u.current ∈ flow.nodes.map fun entry => entry.1.raw := by
  rw [goesOn_eq] at h
  obtain ⟨node, _, _, ⟨nodeId, hraw, hmem⟩, -⟩ := h
  exact List.mem_map.mpr ⟨(nodeId, node), hmem, hraw⟩

theorem visitNode_value {value : Json} (h : visitNode host packId flow s = .ok (.inr value)) :
    ∃ payload, TemplateAt flow s.current payload ∧
      renderTemplate host packId payload s.state s.current = .ok value := by
  obtain ⟨node, hnode, h⟩ := except_bind_ok.mp h
  split_ifs at h with hquestions htemplate
  · obtain ⟨σ, -, h⟩ := except_bind_ok.mp h
    obtain ⟨current, -, h⟩ := except_bind_ok.mp h
    cases h
  · obtain ⟨rendered, hrender, h⟩ := except_bind_ok.mp h
    cases h
    exact ⟨node.mapping, ⟨node, findNode_ok.mp hnode, htemplate, rfl⟩, hrender⟩

theorem visitNode_error {err : FlowError} (h : visitNode host packId flow s = .error err) :
    err.Stops ∨ ∃ payload, TemplateAt flow s.current payload ∧
      renderTemplate host packId payload s.state s.current = .error err := by
  rcases except_bind_error.mp h with h | ⟨node, hnode, h⟩
  · exact .inl (findNode_error h)
  · split_ifs at h with hquestions htemplate
    · left
      rcases except_bind_error.mp h with h | ⟨σ, -, h⟩
      · exact applyQuestions_error h
      · rcases except_bind_error.mp h with h | ⟨current, -, h⟩
        · exact followRouting_error h
        · cases h
    · rcases except_bind_error.mp h with h | ⟨rendered, -, h⟩
      · exact .inr ⟨node.mapping, ⟨node, findNode_ok.mp hnode, htemplate, rfl⟩, h⟩
      · cases h
    · cases h
      exact .inl trivial

/-- A pass that ends the loop was stopped, or is at a template node. -/
theorem flowPass_done {result : Except FlowError Json}
    (h : flowPass host packId flow s = .inr result) :
    (∃ err, err.Stops ∧ result = .error err) ∨ ∃ payload, TemplateAt flow s.current payload ∧
      result = renderTemplate host packId payload s.state s.current := by
  rw [flowPass] at h
  cases hvisit : visitNode host packId flow s with
  | ok next =>
    rw [hvisit] at h
    cases next with
    | inl s' => cases h
    | inr value =>
      cases h
      obtain ⟨payload, hat, hrender⟩ := visitNode_value hvisit
      exact .inr ⟨payload, hat, hrender.symm⟩
  | error err =>
    rw [hvisit] at h
    cases h
    rcases visitNode_error hvisit with hstops | ⟨payload, hat, hrender⟩
    · exact .inl ⟨err, hstops, rfl⟩
    · exact .inr ⟨payload, hat, hrender.symm⟩

/-- The renderer was called: there is a value, or an error of the renderer or about what it
returned. -/
def Rendered : Except FlowError Json → Prop
  | .ok _ => True
  | .error (.render _) => True
  | .error _ => False

theorem FlowError.Stops.not_rendered {err : FlowError} (h : err.Stops) :
    ¬ Rendered (.error err) := by
  cases err with
  | render err => exact absurd h id
  | _ => exact id

theorem renderTemplate_rendered {payload : Json} {σ : BTreeMap String Json} {current : String} :
    Rendered (renderTemplate host packId payload σ current) ↔ ∃ text, payload = .string text := by
  cases payload with
  | string text =>
    refine iff_of_true ?_ ⟨text, rfl⟩
    show Rendered ((host.renderJson packId text σ current).mapError (.render ∘ .renderer) >>=
      fun value => (extractConfigOutput value).mapError .render)
    cases host.renderJson packId text σ current with
    | error err => trivial
    | ok value =>
      show Rendered ((extractConfigOutput value).mapError .render)
      cases extractConfigOutput value <;> trivial
  | null | bool | number | array | object => exact iff_of_false id (by simp)

theorem renderTemplate_ne_limit (payload : Json) (σ : BTreeMap String Json) (current : String) :
    renderTemplate host packId payload σ current ≠ .error .traversalLimit := by
  by_cases hrendered : Rendered (renderTemplate host packId payload σ current)
  · intro h
    rw [h] at hrendered
    exact hrendered
  · cases payload with
    | string text => exact absurd (renderTemplate_rendered.mpr ⟨text, rfl⟩) hrendered
    | null | bool | number | array | object => simp [renderTemplate, Json.asStr]

variable (flow) in
theorem places_lt_passes :
    (flow.nodes.map fun entry => entry.1.raw).length < flow.nodes.length + 4 := by
  rw [List.length_map]
  omega

variable (packId) in
theorem walk_flowPass_none :
    walk (flowPass host packId flow) (flow.nodes.length + 4) s = none ↔
      (∀ t, Reaches flow s t → ∃ t', LeadsTo flow t t') ∧
        ∃ t t', Reaches flow s t ∧ Relation.TransGen (LeadsTo flow) t t' ∧
          t'.current = t.current := by
  rw [walk_eq_none_iff flowPass_places (flowPass_retraces s) (places_lt_passes flow),
    goesOn_eq]
  rfl

theorem walk_flowPass_some {result : Except FlowError Json} :
    walk (flowPass host packId flow) (flow.nodes.length + 4) s = some result ↔
      ∃ t, Reaches flow s t ∧ flowPass host packId flow t = .inr result := by
  rw [walk_eq_some_iff flowPass_places (flowPass_retraces s) (places_lt_passes flow),
    goesOn_eq]
  rfl

theorem traverseFlow_template {t : FlowState} {payload : Json} (ht : Reaches flow s t)
    (hat : TemplateAt flow t.current payload) :
    traverseFlow host packId flow s = renderTemplate host packId payload t.state t.current := by
  rw [traverseFlow, walk_flowPass_some.mpr ⟨t, ht, flowPass_template hat⟩, Option.getD_some]

theorem traverseFlow_rendered : Rendered (traverseFlow host packId flow s) ↔
    ∃ t text, Reaches flow s t ∧ TemplateAt flow t.current (.string text) := by
  constructor
  · intro h
    unfold traverseFlow at h
    cases hwalk : walk (flowPass host packId flow) (flow.nodes.length + 4) s with
    | none =>
      rw [hwalk] at h
      exact absurd h id
    | some result =>
      rw [hwalk, Option.getD_some] at h
      obtain ⟨t, ht, hpass⟩ := walk_flowPass_some.mp hwalk
      rcases flowPass_done hpass with ⟨err, hstops, rfl⟩ | ⟨payload, hat, rfl⟩
      · exact absurd h hstops.not_rendered
      · obtain ⟨text, rfl⟩ := renderTemplate_rendered.mp h
        exact ⟨t, text, ht, hat⟩
  · rintro ⟨t, text, ht, hat⟩
    rw [traverseFlow_template ht hat]
    exact renderTemplate_rendered.mpr ⟨text, rfl⟩

/-- The counter of the loop lets every chain without a cycle come to its end. -/
theorem traverseFlow_limit : traverseFlow host packId flow s = .error .traversalLimit ↔
    (∀ t, Reaches flow s t → ∃ t', LeadsTo flow t t') ∧
      ∃ t t', Reaches flow s t ∧ Relation.TransGen (LeadsTo flow) t t' ∧
        t'.current = t.current := by
  rw [← walk_flowPass_none packId, traverseFlow]
  cases hwalk : walk (flowPass host packId flow) (flow.nodes.length + 4) s with
  | none => simp
  | some result =>
    rw [Option.getD_some]
    refine iff_of_false ?_ (by simp)
    rintro rfl
    obtain ⟨t, -, hpass⟩ := walk_flowPass_some.mp hwalk
    rcases flowPass_done hpass with ⟨err, hstops, herr⟩ | ⟨payload, -, hlimit⟩
    · cases herr
      exact hstops
    · exact renderTemplate_ne_limit payload t.state t.current hlimit.symm

end Passes

/-- A flow of the pack is rendered exactly when the chain from its entry reaches a template
node whose payload is a text, with the state of the chain, which keeps every initial answer.
It runs into the limit exactly when the chain goes on for ever, in a cycle. -/
theorem configFlow_traversal {host : FlowHost} {pack : PackLoad} {flowId : String} {doc : FlowDoc}
    {flow : Flow host.nodeIdError}
    (hprepare : prepareConfigFlow host pack flowId = .ok (some (doc, flow)))
    (answers : Option Json) :
    let start : FlowState := ⟨resolveEntry doc, initialState answers⟩
    ∃ result, runConfigFlowFromPack host pack flowId answers = result.map some ∧
      (Rendered result ↔
        ∃ s text, Reaches flow start s ∧ TemplateAt flow s.current (.string text)) ∧
      (∀ s text, Reaches flow start s → TemplateAt flow s.current (.string text) →
        Extends start.state s.state ∧ result =
          renderTemplate host pack.manifestMeta.packId (.string text) s.state s.current) ∧
      (result = .error .traversalLimit ↔
        (∀ s, Reaches flow start s → ∃ s', LeadsTo flow s s') ∧
          ∃ s s', Reaches flow start s ∧ Relation.TransGen (LeadsTo flow) s s' ∧
            s'.current = s.current) := by
  intro start
  -- the loop decides everything once the flow is prepared
  refine ⟨traverseFlow host pack.manifestMeta.packId flow start, ?_, traverseFlow_rendered, ?_,
    traverseFlow_limit⟩
  · rw [runConfigFlowFromPack, hprepare]
    show (traverseFlow host pack.manifestMeta.packId flow start >>= fun payload =>
      .ok (some payload)) = _
    cases traverseFlow host pack.manifestMeta.packId flow start <;> rfl
  · intro s text hs hat
    exact ⟨hs.extends, traverseFlow_template hs hat⟩

/-- The YAML of the flow, with what is written for its template. -/
def setupYaml (template : String) : String :=
  "id: setup\nnodes:\n  ask:\n    questions:\n      fields:\n" ++
    "      - default: https://shop.test\n        id: url\n    routing:\n    - to: done\n" ++
    "  done:\n    template: " ++ template ++ "\nstart: ask\ntype: component-config\n"

def setupQuestions : Json :=
  .object [("fields", .array [.object [("default", .string "https://shop.test"),
    ("id", .string "url")]])]

def setupNodes (payload : Json) : Json :=
  .object [
    ("ask", .object [("questions", setupQuestions),
      ("routing", .array [.object [("to", .string "done")]])]),
    ("done", .object [("template", payload)])]

def setupDoc (payload : Json) : FlowDoc := ⟨some "ask", ["ask", "done"], setupNodes payload⟩

def setupFlow (payload : Json) : Flow fun _ => none where
  nodes := [
    (⟨"ask", rfl⟩, ⟨"questions", setupQuestions, .next ⟨"done", rfl⟩⟩),
    (⟨"done", rfl⟩, ⟨"template", payload, .end⟩)]
  distinct := by simp

/-- What a template makes of no answers: a node `done`. -/
def setupTemplate : String := "\x7b\"node\":[],\"node_id\":\"done\"\x7d"

/-- The flow with that template. -/
def setupText : String := setupYaml ("'" ++ setupTemplate ++ "'")

def setupHost (yaml : String) (payload : Json) : FlowHost where
  nodeIdError _ := none
  yamlFromStr text :=
    if text = yaml then
      .ok (.object [("id", .string "setup"), ("nodes", setupNodes payload),
        ("start", .string "ask"), ("type", .string "component-config")])
    else .error "another text"
  yamlToString _ := .ok yaml
  loadYgtcFromStr text := if text = yaml then .ok (setupDoc payload) else .error "another text"
  compileFlow _ := .ok (setupFlow payload)
  renderJson _ template _ _ :=
    if template = setupTemplate then
      .ok (.object [("node", .array []), ("node_id", .string "done")])
    else .error "another template"

def setupPack (yaml : String) : PackLoad where
  manifestMeta := ⟨"events-setup", "0.1.0", none, ["setup"]⟩
  flows := [⟨"setup", "flows/setup.ygtc"⟩]
  files := BTreeMap.empty.insert "flows/setup.ygtc" (asBytes yaml)

theorem fromUtf8_asBytes (s : String) : String.fromUTF8? ⟨(asBytes s).toArray⟩ = some s := by
  have hbytes : (⟨(asBytes s).toArray⟩ : ByteArray) = s.toByteArray := by
    apply ByteArray.ext
    exact Array.toArray_toList
  rw [hbytes, String.fromUTF8?, dif_pos s.isValidUTF8]
  rfl

theorem setup_prepared (yaml : String) (payload : Json) :
    prepareConfigFlow (setupHost yaml payload) (setupPack yaml) "setup" =
      .ok (some (setupDoc payload, setupFlow payload)) := by
  have hentry : (setupPack yaml).flows.find? (fun flow => flow.id = "setup") =
      some ⟨"setup", "flows/setup.ygtc"⟩ := rfl
  have hfile : (setupPack yaml).files.get "flows/setup.ygtc" = some (asBytes yaml) :=
    BTreeMap.get_insert_self ..
  rw [prepareConfigFlow, hentry]
  dsimp only
  rw [hfile]
  dsimp only
  rw [fromUtf8_asBytes]
  simp [normalizeConfigFlowYaml, setupHost, Except.mapError, bind, Except.bind, pure, Except.pure]

def setupAnswered : BTreeMap String Json :=
  BTreeMap.empty.insert "url" (.string "https://shop.test")

theorem setup_template (payload : Json) : TemplateAt (setupFlow payload) "done" payload :=
  ⟨_, ⟨⟨"done", rfl⟩, rfl, List.mem_cons_of_mem _ List.mem_cons_self⟩, rfl, rfl⟩

theorem setup_reaches (payload : Json) :
    Reaches (setupFlow payload) ⟨"ask", .empty⟩ ⟨"done", setupAnswered⟩ :=
  .single ⟨_, _, _, ⟨⟨"ask", rfl⟩, rfl, List.mem_cons_self⟩, rfl, rfl,
    .default rfl rfl rfl (.nil _), rfl, rfl⟩

theorem configFlow_traversal_setup :
    runConfigFlowFromPack (setupHost setupText (.string setupTemplate)) (setupPack setupText)
      "setup" (some (.object [])) = .ok (some (.array [])) := by
  obtain ⟨result, hrun, -, hrender, -⟩ := configFlow_traversal
    (setup_prepared setupText (.string setupTemplate)) (some (.object []))
  rw [hrun, (hrender _ setupTemplate (setup_reaches _) (setup_template _)).2]
  rfl

/-- The nodes are questions and templates, linked by `Next`, `End` and `Reply`. -/
def Flow.Plain {nodeIdError : String → Option String} (flow : Flow nodeIdError) : Prop :=
  ∀ entry ∈ flow.nodes, entry.2.component ∈ ["questions", "template"] ∧
    match entry.2.routing with
    | .next _ | .end | .reply => True
    | .branch | .custom => False

/-- The chain may reach a template node whose payload cannot be rendered. -/
theorem template_unrendered :
    ¬ ∀ (host : FlowHost) (pack : PackLoad) (flowId : String) (doc : FlowDoc)
        (flow : Flow host.nodeIdError) (answers : BTreeMap String Json)
        (result : Except FlowError Json),
      prepareConfigFlow host pack flowId = .ok (some (doc, flow)) → flow.Plain →
      runConfigFlowFromPack host pack flowId (some (.object answers.entries)) = result.map some →
      (Rendered result ↔ ∃ s payload, Reaches flow ⟨resolveEntry doc, answers⟩ s ∧
        TemplateAt flow s.current payload) := by
  intro hall
  have hplain : (setupFlow (.array [])).Plain := by
    intro entry hentry
    rcases List.mem_pair.mp hentry with rfl | rfl
    · exact ⟨by simp, trivial⟩
    · exact ⟨by simp, trivial⟩
  have hrun : runConfigFlowFromPack (setupHost (setupYaml "[]") (.array []))
      (setupPack (setupYaml "[]")) "setup" (some (.object [])) =
        (Except.error FlowError.payload : Except FlowError Json).map some := by
    rw [runConfigFlowFromPack, setup_prepared]
    rfl
  exact (hall _ _ _ _ _ .empty _ (setup_prepared (setupYaml "[]") (.array [])) hplain hrun).mpr
    ⟨_, _, setup_reaches _, setup_template _⟩

end GreenticEvents
