import GreenticEvents.Data.Distinct
import GreenticEvents.Manifest

namespace GreenticEvents
open Data

namespace EntryFlows

def collectEntryFlow (s : Collected String) (item : Json) : Collected String :=
  match item.asStr with
  | some flowId => s.insert flowId
  | none => s

def collectEntryFlows (value : Option Json) (s : Collected String) : Collected String :=
  match value with
  | some (.array items) => items.foldl collectEntryFlow s
  | _ => s

def collectExtension (s : Collected String) (value : Json) : Collected String :=
  let s :=
    match value.get "meta" with
    | some (.object fields) => collectEntryFlows (fields.lookup "entry_flows") s
    | _ => s
  collectEntryFlows (value.get "entry_flows") s

def manifestEntryFlows (manifest : PackManifest) : List String :=
  (manifest.freeForm.foldl collectExtension .empty).entries

end EntryFlows

/-- The strings of an `entry_flows` array; no other value has any. -/
def flowStrings : Option Json → List String
  | some (.array items) => items.filterMap Json.asStr
  | _ => []

def metaEntryFlows (value : Json) : Option Json :=
  match value.get "meta" with
  | some (.object fields) => fields.lookup "entry_flows"
  | _ => none

/-- Every string of every `entry_flows` array, repetitions included. -/
def declaredEntryFlows (manifest : PackManifest) : List String :=
  manifest.freeForm.flatMap fun value =>
    flowStrings (metaEntryFlows value) ++ flowStrings (value.get "entry_flows")

/-- `flowId` is in the `entry_flows` array of the value or of its `meta` object. -/
def Declares (value : Json) (flowId : String) : Prop :=
  ∃ items, .string flowId ∈ items ∧ (value.get "entry_flows" = some (.array items) ∨
    ∃ fields, value.get "meta" = some (.object fields) ∧
      fields.lookup "entry_flows" = some (.array items))

theorem mem_flowStrings {value : Option Json} {flowId : String} :
    flowId ∈ flowStrings value ↔ ∃ items, value = some (.array items) ∧ .string flowId ∈ items := by
  have hstr (item : Json) : item.asStr = some flowId ↔ item = .string flowId := by
    cases item <;> simp [Json.asStr]
  unfold flowStrings
  split
  · next items =>
    rw [List.mem_filterMap]
    simp [hstr]
  · next hne =>
    refine iff_of_false List.not_mem_nil ?_
    rintro ⟨items, rfl, -⟩
    exact hne items rfl

theorem metaEntryFlows_eq {value flows : Json} :
    metaEntryFlows value = some flows ↔
      ∃ fields, value.get "meta" = some (.object fields) ∧
        fields.lookup "entry_flows" = some flows := by
  unfold metaEntryFlows
  split
  · next fields hmeta => simp [hmeta]
  · next hne =>
    refine iff_of_false (by simp) ?_
    rintro ⟨fields, hmeta, -⟩
    exact hne fields hmeta

theorem mem_declaredEntryFlows {manifest : PackManifest} {flowId : String} :
    flowId ∈ declaredEntryFlows manifest ↔ ∃ value ∈ manifest.freeForm, Declares value flowId := by
  rw [declaredEntryFlows, List.mem_flatMap]
  refine exists_congr fun value => and_congr_right fun _ => ?_
  rw [List.mem_append, mem_flowStrings, mem_flowStrings]
  constructor
  · rintro (⟨items, hmeta, hmem⟩ | ⟨items, htop, hmem⟩)
    · exact ⟨items, hmem, .inr (metaEntryFlows_eq.mp hmeta)⟩
    · exact ⟨items, hmem, .inl htop⟩
  · rintro ⟨items, hmem, htop | hmeta⟩
    · exact .inr ⟨items, htop, hmem⟩
    · exact .inl ⟨items, metaEntryFlows_eq.mpr hmeta, hmem⟩

namespace EntryFlows
open Collected (after foldl_insert_after after_nil)

theorem collectEntryFlows_after (value : Option Json) (l : List String) :
    collectEntryFlows value (after l) = after (l ++ flowStrings value) := by
  unfold collectEntryFlows flowStrings
  split
  · next items =>
    rw [← foldl_insert_after, List.foldl_filterMap]
    refine congrArg (fun f => items.foldl f (after l)) ?_
    funext s item
    unfold collectEntryFlow
    cases item.asStr <;> rfl
  · rw [List.append_nil]

theorem collectExtension_eq (s : Collected String) (value : Json) :
    collectExtension s value =
      collectEntryFlows (value.get "entry_flows") (collectEntryFlows (metaEntryFlows value) s) := by
  unfold collectExtension metaEntryFlows
  cases value.get "meta" with
  | none => rfl
  | some inner => cases inner <;> rfl

theorem collectExtension_after (value : Json) (l : List String) :
    collectExtension (after l) value = after (l ++
      (flowStrings (metaEntryFlows value) ++ flowStrings (value.get "entry_flows"))) := by
  rw [collectExtension_eq, collectEntryFlows_after, collectEntryFlows_after, List.append_assoc]

theorem foldl_collectExtension_after (values : List Json) (l : List String) :
    values.foldl collectExtension (after l) = after (l ++ values.flatMap fun value =>
      flowStrings (metaEntryFlows value) ++ flowStrings (value.get "entry_flows")) := by
  induction values generalizing l with
  | nil => rw [List.flatMap_nil, List.append_nil, List.foldl_nil]
  | cons value values ih =>
    rw [List.foldl_cons, collectExtension_after, ih, List.flatMap_cons, List.append_assoc]

theorem manifestEntryFlows_eq_eraseDups (manifest : PackManifest) :
    manifestEntryFlows manifest = (declaredEntryFlows manifest).eraseDups := by
  rw [manifestEntryFlows, ← after_nil, foldl_collectExtension_after, List.nil_append]
  rfl

end EntryFlows

/-- `entries` is the list in `s`, and the set has the same ids. -/
structure Collects (s : Collected String) (entries : List String) : Prop where
  entries_eq : s.entries = entries
  mem_seen : ∀ flowId, flowId ∈ s.seen ↔ flowId ∈ entries

theorem collectExtension_eq (entries : List String) (value : Json) :
    collectExtension entries value = collectEntryFlows (value.get "entry_flows")
      (collectEntryFlows (metaEntryFlows value) entries) := by
  unfold collectExtension metaEntryFlows
  cases value.get "meta" with
  | none => rfl
  | some inner => cases inner <;> rfl

namespace Collects

variable {s : Collected String} {entries : List String}

theorem collectEntryFlow (h : Collects s entries) (item : Json) :
    Collects (EntryFlows.collectEntryFlow s item) (collectEntryFlow entries item) := by
  unfold EntryFlows.collectEntryFlow GreenticEvents.collectEntryFlow
  cases item.asStr with
  | none => exact h
  | some flowId =>
    simp only [Collected.insert, h.mem_seen]
    split_ifs
    · exact h
    · refine ⟨congrArg (· ++ [flowId]) h.entries_eq, fun other => ?_⟩
      rw [Finset.mem_insert, h.mem_seen, List.mem_append, List.mem_singleton, or_comm]

theorem collectEntryFlows (h : Collects s entries) (value : Option Json) :
    Collects (EntryFlows.collectEntryFlows value s) (collectEntryFlows value entries) := by
  cases value with
  | none => exact h
  | some value =>
    cases value with
    | array items => exact List.foldl_rel h fun item _ _ _ hs => hs.collectEntryFlow item
    | null | bool | number | string | object => exact h

theorem collectExtension (h : Collects s entries) (value : Json) :
    Collects (EntryFlows.collectExtension s value) (collectExtension entries value) := by
  rw [EntryFlows.collectExtension_eq, collectExtension_eq]
  exact (h.collectEntryFlows (metaEntryFlows value)).collectEntryFlows (value.get "entry_flows")

end Collects

theorem manifestEntryFlows_eq (manifest : PackManifest) :
    manifestEntryFlows manifest = EntryFlows.manifestEntryFlows manifest := by
  have hempty : Collects .empty [] := ⟨rfl, by simp [Collected.empty]⟩
  have hcollects : Collects (manifest.freeForm.foldl EntryFlows.collectExtension .empty)
      (manifestEntryFlows manifest) :=
    List.foldl_rel hempty fun value _ _ _ hs => hs.collectExtension value
  exact hcollects.entries_eq.symm

theorem mem_manifestEntryFlows {manifest : PackManifest} {flowId : String} :
    flowId ∈ manifestEntryFlows manifest ↔ ∃ value ∈ manifest.freeForm, Declares value flowId := by
  rw [manifestEntryFlows_eq, EntryFlows.manifestEntryFlows_eq_eraseDups,
    List.mem_eraseDups, mem_declaredEntryFlows]

theorem manifestEntryFlows_nodup (manifest : PackManifest) :
    (manifestEntryFlows manifest).Nodup := by
  rw [manifestEntryFlows_eq, EntryFlows.manifestEntryFlows_eq_eraseDups]
  exact eraseDups_nodup _

/-- Every declared id once, in the order of the first declarations, and no other. -/
theorem entryFlows_once_in_order (manifest : PackManifest) :
    let flows := EntryFlows.manifestEntryFlows manifest
    let declared := declaredEntryFlows manifest
    flows.Nodup ∧
      (∀ flowId, flowId ∈ flows ↔ ∃ value ∈ manifest.freeForm, Declares value flowId) ∧
      (flows.Pairwise fun a b => declared.idxOf a < declared.idxOf b) ∧
      manifestEntryFlows manifest = flows := by
  intro flows declared
  have hflows : flows = declared.eraseDups := EntryFlows.manifestEntryFlows_eq_eraseDups manifest
  have hlist : manifestEntryFlows manifest = flows := manifestEntryFlows_eq manifest
  refine ⟨?_, ?_, ?_, hlist⟩
  · rw [← hlist]
    exact manifestEntryFlows_nodup manifest
  · intro flowId
    rw [← hlist, mem_manifestEntryFlows]
  · rw [hflows]
    exact eraseDups_pairwise_idxOf declared

end GreenticEvents
