import GreenticEvents.Data.Walk
import GreenticEvents.E2e

/-!
# Config flows (`run_config_flow_from_pack` in `e2e.rs`)

The harness runs a flow of the pack itself: questions nodes fill a state with
answers, the first template node is rendered with it.
-/

namespace GreenticEvents
open Data

/-- `greentic_types::NodeId`: a text that `NodeId::new` takes. -/
structure NodeId (nodeIdError : String → Option String) where
  raw : String
  valid : nodeIdError raw = none
  deriving DecidableEq

variable {nodeIdError : String → Option String}

def NodeId.new (raw : String) : Except String (NodeId nodeIdError) :=
  match h : nodeIdError raw with
  | none => .ok ⟨raw, h⟩
  | some err => .error err

inductive Routing (nodeIdError : String → Option String) where
  | next (nodeId : NodeId nodeIdError)
  | «end»
  | reply
  | branch
  | custom

/-- `component` is the id of the component, `mapping` that of the input. -/
structure FlowNode (nodeIdError : String → Option String) where
  component : String
  mapping : Json
  routing : Routing nodeIdError

/-- A compiled flow; the nodes are the entries of a map. -/
structure Flow (nodeIdError : String → Option String) where
  nodes : List (NodeId nodeIdError × FlowNode nodeIdError)
  distinct : (nodes.map Prod.fst).Nodup

/-- A loaded flow; `nodeIds` are the keys of its nodes, in their order.  Only the compiler
reads the `rest`. -/
structure FlowDoc where
  start : Option String
  nodeIds : List String
  rest : Json

/-- What the interpreter takes from elsewhere: the check of node ids, YAML, the loader and
the compiler of `greentic_flow` and its `TemplateRenderer`. -/
structure FlowHost where
  nodeIdError : String → Option String
  yamlFromStr : String → Except String Json
  yamlToString : Json → Except String String
  loadYgtcFromStr : String → Except String FlowDoc
  compileFlow : FlowDoc → Except String (Flow nodeIdError)
  renderJson : (packId template : String) → BTreeMap String Json → (nodeId : String) →
    Except String Json

/-- What can go wrong once the renderer is called. -/
inductive RenderError where
  | renderer (err : String)
  | missingNodeId
  | emptyNodeId
  | missingNode

inductive FlowError where
  | missingFile (path : String)
  | invalidUtf8 (path : String)
  | yaml (err : String)
  | normalize (err : String)
  | load (flowId : String)
  | compile (flowId : String)
  | invalidNodeId (current err : String)
  | missingNode (current : String)
  | missingFields
  | missingFieldId
  | missingAnswer (id : String)
  | payload
  | render (err : RenderError)
  | unsupportedComponent (component : String)
  | terminated
  | unsupportedRouting
  | traversalLimit

def RenderError.message : RenderError → String
  | renderer err => err
  | missingNodeId => "config flow output missing node_id"
  | emptyNodeId => "config flow output node_id is empty"
  | missingNode => "config flow output missing node"

def FlowError.message : FlowError → String
  | missingFile path => s!"missing flow file {path}"
  | invalidUtf8 path => s!"flow yaml {path} invalid utf-8"
  | yaml err => s!"config flow yaml: {err}"
  | normalize err => s!"normalize config flow: {err}"
  | load flowId => s!"load flow {flowId}"
  | compile flowId => s!"compile flow {flowId}"
  | invalidNodeId current err => s!"invalid node id {current}: {err}"
  | missingNode current => s!"node '{current}' missing during config flow execution"
  | missingFields => "questions node missing fields array"
  | missingFieldId => "questions field missing id"
  | missingAnswer id => s!"missing answer for '{id}'"
  | payload => "template node payload must be a string"
  | render err => err.message
  | unsupportedComponent component => s!"unsupported component '{component}' in config flow"
  | terminated => "config flow terminated without reaching template node"
  | unsupportedRouting => "unsupported routing shape in config flow"
  | traversalLimit => "config flow exceeded traversal limit"

/-- The update that `normalize_config_flow_yaml` makes. -/
def setFlowType : Json → Json
  | .object entries =>
    match entries.lookup "type" with
    | some (.string _) => .object entries
    | _ => .object (insertEntry "type" (.string "component-config") entries)
  | value => value

def normalizeConfigFlowYaml (host : FlowHost) (yaml : String) : Except FlowError String := do
  let value ← (host.yamlFromStr yaml).mapError .yaml
  (host.yamlToString (setFlowType value)).mapError .normalize

/-- The flow of the pack, as loaded and as compiled; nothing if the pack has none of the id. -/
def prepareConfigFlow (host : FlowHost) (pack : PackLoad) (flowId : String) :
    Except FlowError (Option (FlowDoc × Flow host.nodeIdError)) :=
  match pack.flows.find? fun flow => flow.id = flowId with
  | none => .ok none
  | some entry =>
    match pack.files.get entry.fileYaml with
    | none => .error (.missingFile entry.fileYaml)
    | some yamlBytes =>
      match String.fromUTF8? ⟨yamlBytes.toArray⟩ with
      | none => .error (.invalidUtf8 entry.fileYaml)
      | some yaml => do
        let normalized ← normalizeConfigFlowYaml host yaml
        let doc ← (host.loadYgtcFromStr normalized).mapError fun _ => .load flowId
        let flow ← (host.compileFlow doc).mapError fun _ => .compile flowId
        return some (doc, flow)

def resolveEntry (doc : FlowDoc) : String :=
  match doc.start with
  | some start => start
  | none => if "in" ∈ doc.nodeIds then "in" else doc.nodeIds.head?.getD "in"

/-- The state at first: the answers, if they are an object. -/
def initialState : Option Json → BTreeMap String Json
  | some (.object entries) => .ofEntries entries
  | _ => .empty

/-- One pass of the loop over the fields. -/
def applyField (state : BTreeMap String Json) (field : Json) :
    Except FlowError (BTreeMap String Json) :=
  match (field.get "id").bind Json.asStr with
  | none => .error .missingFieldId
  | some id =>
    if (state.get id).isSome then .ok state
    else
      match field.get "default" with
      | some default => .ok (state.insert id default)
      | none => .error (.missingAnswer id)

def applyQuestions (payload : Json) (state : BTreeMap String Json) :
    Except FlowError (BTreeMap String Json) :=
  match (payload.get "fields").bind Json.asArray with
  | none => .error .missingFields
  | some fields => fields.foldlM applyField state

def extractConfigOutput (value : Json) : Except RenderError Json :=
  match (value.get "node_id").bind Json.asStr with
  | none => .error .missingNodeId
  | some nodeId =>
    if isBlank nodeId then .error .emptyNodeId
    else
      match value.get "node" with
      | none => .error .missingNode
      | some node => .ok node

def renderTemplate (host : FlowHost) (packId : String) (payload : Json)
    (state : BTreeMap String Json) (nodeId : String) : Except FlowError Json :=
  match payload.asStr with
  | none => .error .payload
  | some template => do
    let value ← (host.renderJson packId template state nodeId).mapError (.render ∘ .renderer)
    (extractConfigOutput value).mapError .render

/-- The locals of the loop. -/
structure FlowState where
  current : String
  state : BTreeMap String Json

def findNode (flow : Flow nodeIdError) (current : String) :
    Except FlowError (FlowNode nodeIdError) := do
  let nodeId ← (NodeId.new current).mapError (.invalidNodeId current)
  match flow.nodes.lookup nodeId with
  | some node => .ok node
  | none => .error (.missingNode current)

def followRouting : Routing nodeIdError → Except FlowError String
  | .next nodeId => .ok nodeId.raw
  | .end | .reply => .error .terminated
  | .branch | .custom => .error .unsupportedRouting

/-- The body of the loop: it goes on from another node, or has a value to return. -/
def visitNode (host : FlowHost) (packId : String) (flow : Flow host.nodeIdError) (s : FlowState) :
    Except FlowError (FlowState ⊕ Json) := do
  let node ← findNode flow s.current
  if node.component = "questions" then
    let state ← applyQuestions node.mapping s.state
    let current ← followRouting node.routing
    return .inl ⟨current, state⟩
  else if node.component = "template" then
    let payload ← renderTemplate host packId node.mapping s.state s.current
    return .inr payload
  else .error (.unsupportedComponent node.component)

/-- As `visitNode`; an error ends the loop too. -/
def flowPass (host : FlowHost) (packId : String) (flow : Flow host.nodeIdError) (s : FlowState) :
    FlowState ⊕ Except FlowError Json :=
  match visitNode host packId flow s with
  | .ok (.inl s') => .inl s'
  | .ok (.inr payload) => .inr (.ok payload)
  | .error err => .inr (.error err)

/-- The loop: it makes as many passes as the flow has nodes, and four more. -/
def traverseFlow (host : FlowHost) (packId : String) (flow : Flow host.nodeIdError)
    (s : FlowState) : Except FlowError Json :=
  (walk (flowPass host packId flow) (flow.nodes.length + 4) s).getD (.error .traversalLimit)

def runConfigFlowFromPack (host : FlowHost) (pack : PackLoad) (flowId : String)
    (answers : Option Json) : Except FlowError (Option Json) := do
  match ← prepareConfigFlow host pack flowId with
  | none => return none
  | some (doc, flow) =>
    let payload ← traverseFlow host pack.manifestMeta.packId flow
      ⟨resolveEntry doc, initialState answers⟩
    return some payload

end GreenticEvents
