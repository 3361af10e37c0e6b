import GreenticEvents.Types
import GreenticEvents.Backoff
import GreenticEvents.Text
import GreenticEvents.Topic

/-!
# Pack manifests as the validators read them

The data of `greentic_types::pack_manifest`, and the readers that the native
validators (`greentic-events-validate`) and the WASM validator
(`greentic-events-pack-validator`) have a copy of each.
-/

namespace GreenticEvents
open Data RetryPolicy

structure ProviderDecl where
  providerType : String
  configSchemaRef : String
  stateSchemaRef : Option String
  ops : List String

structure ProviderExtensionInline where
  providers : List ProviderDecl

inductive ExtensionInline where
  | provider (inline : ProviderExtensionInline)
  | other (value : Json)

/-- The `inline` field of an `ExtensionRef`. -/
structure ExtensionRef where
  inline : Option ExtensionInline

structure PackFlowEntry where
  id : String
  schemaVersion : String

/-- `providerExtensionInline` is what the method of that name finds. -/
structure PackManifest where
  packId : String
  flows : List PackFlowEntry
  extensions : Option (BTreeMap String ExtensionRef)
  providerExtensionInline : Option ProviderExtensionInline

/-- The providers of the inline provider extension, if there is one. -/
def PackManifest.providers (manifest : PackManifest) : List ProviderDecl :=
  (manifest.providerExtensionInline.map ProviderExtensionInline.providers).getD []

/-- `ExtensionInline::Other` of each extension, in key order. -/
def PackManifest.freeForm (manifest : PackManifest) : List Json :=
  ((manifest.extensions.map BTreeMap.entries).getD []).filterMap fun e =>
    match e.2.inline with
    | some (.other value) => some value
    | _ => none

def schemaRefContainsEvents (value : String) : Bool := contains value "schemas/events/"

def isReverseDns (value : String) : Bool :=
  if value.isEmpty then false
  else startsWith value "com." || startsWith value "org." || startsWith value "ai.greentic."

/-- One item of an `entry_flows` array; the `seen` set holds the entries so far. -/
def collectEntryFlow (entries : List String) (item : Json) : List String :=
  match item.asStr with
  | some flowId => if flowId ∈ entries then entries else entries ++ [flowId]
  | none => entries

def collectEntryFlows (value : Option Json) (entries : List String) : List String :=
  match value with
  | some (.array items) => items.foldl collectEntryFlow entries
  | _ => entries

/-- One extension: first its `meta` object, then the value itself. -/
def collectExtension (entries : List String) (value : Json) : List String :=
  let entries :=
    match value.get "meta" with
    | some (.object fields) => collectEntryFlows (fields.lookup "entry_flows") entries
    | _ => entries
  collectEntryFlows (value.get "entry_flows") entries

def manifestEntryFlows (manifest : PackManifest) : List String :=
  manifest.freeForm.foldl collectExtension []

def topicAnnotationKeys : List String := ["event.topic", "events.topic"]

def typeAnnotationKeys : List String := ["event.type", "events.type"]

/-- The first string under one of the keys, in the first extension that has one. -/
def manifestAnnotationValue (manifest : PackManifest) (keys : List String) : Option String :=
  manifest.freeForm.findSome? fun value =>
    match value.get "annotations" with
    | some (.object annotations) =>
      keys.findSome? fun key => (annotations.lookup key).bind Json.asStr
    | _ => none

end GreenticEvents
