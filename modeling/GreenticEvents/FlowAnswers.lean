import GreenticEvents.Traversal

namespace GreenticEvents
open Data

/-- Whoever answered `given` finds every answer in `given'` too, the same or another. -/
def Covers (given given' : BTreeMap String Json) : Prop :=
  ∀ id, (given.get id).isSome = true → (given'.get id).isSome = true

/-- `σ'` is `σ` with the answers `given` put over it. -/
def Overlaid (given σ σ' : BTreeMap String Json) : Prop :=
  ∀ key, σ'.get key = (given.get key).or (σ.get key)

theorem Covers.overlaid {given given' : BTreeMap String Json} (h : Covers given given') :
    Overlaid given' given given' := by
  intro key
  cases hget : given'.get key with
  | some value => rfl
  | none =>
    cases hold : given.get key with
    | none => rfl
    | some value =>
      have hsome := h key (hold ▸ rfl)
      rw [hget] at hsome
      cases hsome

/-- How one step ends under the first answers and under `given`: the first lack an answer that
`given` has, or both steps fail alike, or both succeed with related values. -/
inductive Agree {α β : Type} (given : BTreeMap String Json) (R : α → β → Prop) :
    Except FlowError α → Except FlowError β → Prop
  | lacking {id : String} (hgiven : (given.get id).isSome = true) (x : Except FlowError β) :
      Agree given R (.error (.missingAnswer id)) x
  | failed {err : FlowError} (h : err.Stops) : Agree given R (.error err) (.error err)
  | related {a : α} {b : β} (h : R a b) : Agree given R (.ok a) (.ok b)

theorem Agree.bind {α β α' β' : Type} {given : BTreeMap String Json} {R : α → β → Prop}
    {R' : α' → β' → Prop} {x : Except FlowError α} {y : Except FlowError β}
    {f : α → Except FlowError α'} {g : β → Except FlowError β'} (h : Agree given R x y)
    (hf : ∀ a b, R a b → Agree given R' (f a) (g b)) : Agree given R' (x >>= f) (y >>= g) := by
  cases h with
  | lacking hgiven => exact .lacking hgiven _
  | failed hstops => exact .failed hstops
  | related hab => exact hf _ _ hab

section Questions

variable {given σ σ' : BTreeMap String Json} {id : String}

/-- Both take a default. -/
theorem Overlaid.insert_both (h : Overlaid given σ σ') (hgiven : given.get id = none)
    (value : Json) : Overlaid given (σ.insert id value) (σ'.insert id value) := by
  intro key
  by_cases hkey : key = id
  · rw [hkey, BTreeMap.get_insert_self, BTreeMap.get_insert_self, hgiven, Option.none_or]
  · rw [BTreeMap.get_insert_of_ne σ hkey, BTreeMap.get_insert_of_ne σ' hkey]
    exact h key

/-- The first takes a default where the second has an answer. -/
theorem Overlaid.insert_left (h : Overlaid given σ σ') (hgiven : (given.get id).isSome = true)
    (value : Json) : Overlaid given (σ.insert id value) σ' := by
  intro key
  by_cases hkey : key = id
  · obtain ⟨answer, hanswer⟩ := Option.isSome_iff_exists.mp hgiven
    rw [h key, hkey, hanswer, Option.some_or, Option.some_or]
  · rw [BTreeMap.get_insert_of_ne σ hkey]
    exact h key

theorem Overlaid.isSome (h : Overlaid given σ σ') :
    (σ'.get id).isSome = ((given.get id).isSome || (σ.get id).isSome) := by
  rw [h id, Option.isSome_or]

theorem applyField_agree (h : Overlaid given σ σ') (field : Json) :
    Agree given (Overlaid given) (applyField σ field) (applyField σ' field) := by
  unfold applyField
  cases (field.get "id").bind Json.asStr with
  | none => exact .failed trivial
  | some id =>
    have hid := (h.isSome : (σ'.get id).isSome = _)
    dsimp only
    by_cases hknown : (σ.get id).isSome = true
    · rw [if_pos hknown, if_pos (by rw [hid, hknown, Bool.or_true])]
      exact .related h
    · rw [if_neg hknown]
      cases hgiven : (given.get id).isSome with
      | true =>
        rw [if_pos (by rw [hid, hgiven, Bool.true_or])]
        cases field.get "default" with
        | none => exact .lacking hgiven _
        | some value => exact .related (h.insert_left hgiven value)
      | false =>
        rw [if_neg (by rw [hid, hgiven, Bool.false_or]; exact hknown)]
        cases field.get "default" with
        | none => exact .failed trivial
        | some value =>
          exact .related (h.insert_both (Option.not_isSome_iff_eq_none.mp (by simp [hgiven])) value)

theorem applyQuestions_agree (h : Overlaid given σ σ') (payload : Json) :
    Agree given (Overlaid given) (applyQuestions payload σ) (applyQuestions payload σ') := by
  unfold applyQuestions
  cases (payload.get "fields").bind Json.asArray with
  | none => exact .failed trivial
  | some fields =>
    dsimp only
    induction fields generalizing σ σ' with
    | nil => exact .related h
    | cons field fields ih =>
      rw [List.foldlM_cons, List.foldlM_cons]
      exact (applyField_agree h field).bind fun τ τ' hτ => ih hτ

end Questions

section Passes

variable {host : FlowHost} {packId : String} {flow : Flow host.nodeIdError} {s s' : FlowState}
  {given : BTreeMap String Json}

/-- Both are at the same node. -/
structure Beside (given : BTreeMap String Json) (s s' : FlowState) : Prop where
  current : s'.current = s.current
  state : Overlaid given s.state s'.state

/-- Both fail alike, or render the same template. -/
inductive SameEnd (host : FlowHost) (packId : String) (flow : Flow host.nodeIdError)
    (given : BTreeMap String Json) : Except FlowError Json → Except FlowError Json → Prop
  | failed {err : FlowError} (h : ¬ Rendered (.error err)) :
      SameEnd host packId flow given (.error err) (.error err)
  | template {current : String} {payload : Json} {σ σ' : BTreeMap String Json}
      (hat : TemplateAt flow current payload) (hstate : Overlaid given σ σ') :
      SameEnd host packId flow given (renderTemplate host packId payload σ current)
        (renderTemplate host packId payload σ' current)

/-- The first run misses an answer that `given` has. -/
def Lacks (given : BTreeMap String Json) (result : Except FlowError Json) : Prop :=
  ∃ id, (given.get id).isSome = true ∧ result = .error (.missingAnswer id)

theorem visitNode_questions {node : FlowNode host.nodeIdError}
    (hnode : findNode flow s.current = .ok node) (hquestions : node.component = "questions") :
    visitNode host packId flow s = (applyQuestions node.mapping s.state >>= fun σ =>
      followRouting node.routing >>= fun current => .ok (.inl ⟨current, σ⟩)) := by
  unfold visitNode
  rw [hnode]
  simp [bind, Except.bind, hquestions, pure, Except.pure]

theorem visitNode_unsupported {node : FlowNode host.nodeIdError}
    (hnode : findNode flow s.current = .ok node) (hquestions : node.component ≠ "questions")
    (htemplate : node.component ≠ "template") :
    visitNode host packId flow s = .error (.unsupportedComponent node.component) := by
  unfold visitNode
  rw [hnode]
  simp [bind, Except.bind, hquestions, htemplate]

variable (packId) in
/-- Both at a node that is no template. -/
theorem visitNode_agree (h : Beside given s s')
    (hno : ∀ payload, ¬ TemplateAt flow s.current payload) :
    Agree given (fun next next' => ∃ t t', next = .inl t ∧ next' = .inl t' ∧ Beside given t t')
      (visitNode host packId flow s) (visitNode host packId flow s') := by
  cases hnode : findNode flow s.current with
  | error err =>
    have hnode' : findNode flow s'.current = .error err := h.current ▸ hnode
    rw [visitNode, visitNode, hnode, hnode']
    exact .failed (findNode_error hnode)
  | ok node =>
    have hnode' : findNode flow s'.current = .ok node := h.current ▸ hnode
    by_cases hquestions : node.component = "questions"
    · rw [visitNode_questions hnode hquestions, visitNode_questions hnode' hquestions]
      refine (applyQuestions_agree h.state node.mapping).bind fun σ σ' hσ => ?_
      cases hrouting : followRouting node.routing with
      | error err => exact .failed (followRouting_error hrouting)
      | ok current => exact .related ⟨_, _, rfl, rfl, rfl, hσ⟩
    · have htemplate : node.component ≠ "template" :=
        fun htemplate => hno _ ⟨node, findNode_ok.mp hnode, htemplate, rfl⟩
      rw [visitNode_unsupported hnode hquestions htemplate,
        visitNode_unsupported hnode' hquestions htemplate]
      exact .failed trivial

theorem flowPass_beside (h : Beside given s s') :
    (∃ r, flowPass host packId flow s = .inr r ∧ Lacks given r) ∨
      Sum.LiftRel (Beside given) (SameEnd host packId flow given)
        (flowPass host packId flow s) (flowPass host packId flow s') := by
  by_cases hat : ∃ payload, TemplateAt flow s.current payload
  · obtain ⟨payload, hat⟩ := hat
    rw [flowPass_template hat, flowPass_template (h.current ▸ hat), h.current]
    exact .inr (.inr (.template hat h.state))
  · have hagree := visitNode_agree packId h fun payload hp => hat ⟨payload, hp⟩
    unfold flowPass
    generalize visitNode host packId flow s = x at hagree ⊢
    generalize visitNode host packId flow s' = x' at hagree ⊢
    cases hagree with
    | lacking hgiven => exact .inl ⟨_, rfl, _, hgiven, rfl⟩
    | failed hstops => exact .inr (.inr (.failed hstops.not_rendered))
    | related hnext =>
      obtain ⟨t, t', rfl, rfl, hbeside⟩ := hnext
      exact .inr (.inl hbeside)

theorem traverseFlow_beside (h : Beside given s s') :
    Lacks given (traverseFlow host packId flow s) ∨
      SameEnd host packId flow given (traverseFlow host packId flow s)
        (traverseFlow host packId flow s') := by
  unfold traverseFlow
  rcases walk_related (fun _ _ => flowPass_beside) h with ⟨r, hr, hlacks⟩ | hrel
  · rw [hr]
    exact .inl hlacks
  · right
    generalize walk (flowPass host packId flow) (flow.nodes.length + 4) s = x at hrel ⊢
    generalize walk (flowPass host packId flow) (flow.nodes.length + 4) s' = x' at hrel ⊢
    cases hrel with
    | none => exact .failed id
    | some hend => exact hend

end Passes

theorem runConfigFlowFromPack_eq {host : FlowHost} {pack : PackLoad} {flowId : String}
    {doc : FlowDoc} {flow : Flow host.nodeIdError}
    (hprepare : prepareConfigFlow host pack flowId = .ok (some (doc, flow)))
    (answers : Option Json) : runConfigFlowFromPack host pack flowId answers =
      (traverseFlow host pack.manifestMeta.packId flow
        ⟨resolveEntry doc, initialState answers⟩).map some := by
  rw [runConfigFlowFromPack, hprepare]
  rfl

/-- The answers do not decide which nodes are visited: run again with an answer to whatever was
answered before, a flow ends the same way, or renders the same template with the new answers put
over the state of the first run.  Only a missing answer can be made up for. -/
theorem configFlow_answers {host : FlowHost} {pack : PackLoad} {flowId : String} {doc : FlowDoc}
    {flow : Flow host.nodeIdError}
    (hprepare : prepareConfigFlow host pack flowId = .ok (some (doc, flow)))
    {answers answers' : Option Json}
    (hcovers : Covers (initialState answers) (initialState answers')) :
    ∃ result result', runConfigFlowFromPack host pack flowId answers = result.map some ∧
      runConfigFlowFromPack host pack flowId answers' = result'.map some ∧
      (Lacks (initialState answers') result ∨
        SameEnd host pack.manifestMeta.packId flow (initialState answers') result result') :=
  ⟨_, _, runConfigFlowFromPack_eq hprepare answers, runConfigFlowFromPack_eq hprepare answers',
    traverseFlow_beside ⟨rfl, hcovers.overlaid⟩⟩

def otherShop : Option Json := some (.object [("url", .string "https://other.test")])

theorem configFlow_answers_setup : ∃ result,
    runConfigFlowFromPack (setupHost setupText (.string setupTemplate)) (setupPack setupText)
      "setup" otherShop = result.map some ∧
    SameEnd (setupHost setupText (.string setupTemplate)) "events-setup"
      (setupFlow (.string setupTemplate)) (initialState otherShop) (.ok (.array [])) result := by
  have hprepare := setup_prepared setupText (.string setupTemplate)
  have hdefault : runConfigFlowFromPack (setupHost setupText (.string setupTemplate))
      (setupPack setupText) "setup" none = .ok (some (.array [])) := by
    let host := setupHost setupText (.string setupTemplate)
    let flow : Flow host.nodeIdError := setupFlow (.string setupTemplate)
    have hreaches : Reaches flow ⟨"ask", .empty⟩ ⟨"done", setupAnswered⟩ := setup_reaches _
    have hat : TemplateAt flow "done" (.string setupTemplate) := setup_template _
    have hrun : traverseFlow host "events-setup" flow ⟨"ask", .empty⟩ = .ok (.array []) :=
      (traverseFlow_template hreaches hat).trans rfl
    rw [runConfigFlowFromPack_eq hprepare]
    exact congrArg (Except.map some) hrun
  have hcovers : Covers (initialState none) (initialState otherShop) := fun id h => by cases h
  obtain ⟨result, result', hresult, hresult', hends⟩ := configFlow_answers hprepare hcovers
  have hok : result = .ok (.array []) := by
    rw [hdefault] at hresult
    cases result with
    | error err => cases hresult
    | ok value => rw [Option.some.inj (Except.ok.inj hresult)]
  rw [hok] at hends
  rcases hends with ⟨id, -, hlacks⟩ | hsame
  · cases hlacks
  · exact ⟨result', hresult', hsame⟩

end GreenticEvents
