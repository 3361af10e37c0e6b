import Mathlib.Data.List.Perm.Basic
import GreenticEvents.Effects.Interleaving
import GreenticEvents.Provider

/-!
# Provider installs (`install.rs` of `greentic-events-runtime`)

Install records, the in-memory store, and the worker that keeps the
subscriptions of each install in sync.
-/

namespace GreenticEvents
open Data Effects

structure ProviderInstallKey where
  providerId : String
  installId : String
  deriving DecidableEq

structure ProviderInstallRecord where
  tenant : TenantCtx
  providerId : String
  installId : String
  packId : String
  packVersion : String
  createdAt : DateTime
  updatedAt : DateTime
  configRefs : BTreeMap String String
  secretRefs : BTreeMap String String
  webhookState : Json
  subscriptionsState : Json
  metadata : Json

def ProviderInstallRecord.key (record : ProviderInstallRecord) : ProviderInstallKey :=
  ⟨record.providerId, record.installId⟩

structure ResolvedInstall where
  record : ProviderInstallRecord
  config : BTreeMap String Json
  secrets : BTreeMap String Json

/-- A hash map from the key of each record to the record, in no order. -/
structure InMemoryInstallStore where
  installs : List ProviderInstallRecord
  distinct : (installs.map ProviderInstallRecord.key).Nodup

namespace InMemoryInstallStore

def empty : InMemoryInstallStore := ⟨[], List.nodup_nil⟩

def get (s : InMemoryInstallStore) (key : ProviderInstallKey) : Option ProviderInstallRecord :=
  s.installs.find? fun record => record.key = key

/-- Also what `update_install` does. -/
def insert (s : InMemoryInstallStore) (record : ProviderInstallRecord) : InMemoryInstallStore where
  installs := record :: s.installs.filter fun r => r.key ≠ record.key
  distinct := by
    rw [List.map_cons, List.nodup_cons]
    constructor
    · intro hmem
      obtain ⟨r, hr, hkey⟩ := List.mem_map.mp hmem
      exact absurd hkey (by simpa using (List.mem_filter.mp hr).2)
    · exact s.distinct.sublist (List.filter_sublist.map _)

/-- The records of one provider, in the order the hash map has them. -/
def Lists (s : InMemoryInstallStore) (providerId : String) (l : List ProviderInstallRecord) :
    Prop :=
  l.Perm (s.installs.filter fun record => record.providerId = providerId)

@[simp] theorem get_insert_self (s : InMemoryInstallStore) (record : ProviderInstallRecord) :
    (s.insert record).get record.key = some record := by
  simp [get, insert]

theorem get_insert_of_ne (s : InMemoryInstallStore) {record : ProviderInstallRecord}
    {key : ProviderInstallKey} (h : key ≠ record.key) :
    (s.insert record).get key = s.get key := by
  have hrest (l : List ProviderInstallRecord) :
      (l.filter fun r => decide (r.key ≠ record.key)).find? (fun r => decide (r.key = key)) =
        l.find? fun r => decide (r.key = key) := by
    rw [List.find?_filter]
    congr 1
    funext r
    by_cases hr : r.key = key
    · simp [hr, h]
    · simp [hr]
  rw [get, insert, List.find?_cons_of_neg (by simpa using h.symm), hrest]
  rfl

theorem get_key {s : InMemoryInstallStore} {key : ProviderInstallKey}
    {record : ProviderInstallRecord} (h : s.get key = some record) : record.key = key := by
  simpa using List.find?_some h

theorem mem_iff_get {s : InMemoryInstallStore} {record : ProviderInstallRecord} :
    record ∈ s.installs ↔ s.get record.key = some record := by
  constructor
  · intro hmem
    have hsome : (s.get record.key).isSome = true :=
      List.find?_isSome.mpr ⟨record, hmem, by simp⟩
    obtain ⟨r, hr⟩ := Option.isSome_iff_exists.mp hsome
    have hsame :=
      List.inj_on_of_nodup_map s.distinct (List.mem_of_find?_eq_some hr) hmem (get_key hr)
    rw [hr, hsame]
  · exact List.mem_of_find?_eq_some

theorem Lists.distinct {s : InMemoryInstallStore} {providerId : String}
    {l : List ProviderInstallRecord} (h : s.Lists providerId l) :
    (l.map ProviderInstallRecord.key).Nodup :=
  (h.map _).nodup_iff.mpr (s.distinct.sublist (List.filter_sublist.map _))

theorem Lists.stored {s : InMemoryInstallStore} {providerId : String}
    {l : List ProviderInstallRecord} (h : s.Lists providerId l) {record : ProviderInstallRecord}
    (hmem : record ∈ l) : s.get record.key = some record :=
  mem_iff_get.mp (List.mem_filter.mp (h.mem_iff.mp hmem)).1

end InMemoryInstallStore

def saturatingAdd (a b : UInt32) : UInt32 :=
  .ofNat (min (a.toNat + b.toNat) (2 ^ 32 - 1))

def updateSubscriptionMetadata (metadata : Json) (lastSync : String) (failures : UInt32)
    (degraded : Bool) : Json :=
  let root :=
    match metadata with
    | .object entries => entries
    | _ => [] -- any other value is dropped
  let subs := insertEntry "last_sync" (.string lastSync) []
  let subs := insertEntry "failures" (.number (.posInt failures.toUInt64)) subs
  let subs := insertEntry "degraded" (.bool degraded) subs
  .object (insertEntry "subscriptions" (.object subs) root)

/-- The counter and the flag in the metadata; the counter is cut to 32 bits. -/
def failureState (metadata : Json) : UInt32 × Bool :=
  match metadata with
  | .object root =>
    match (root.lookup "subscriptions").getD .null with
    | .object subs =>
      let failures := ((subs.lookup "failures").bind Json.asU64).getD 0
      let degraded := ((subs.lookup "degraded").bind Json.asBool).getD false
      (failures.toUInt32, degraded)
    | _ => (0, false)
  | _ => (0, false)

/-- The record written after the driver succeeded. -/
def ProviderInstallRecord.synced (record : ProviderInstallRecord) (state : Json) (now : String) :
    ProviderInstallRecord :=
  { record with
    subscriptionsState := state
    metadata := updateSubscriptionMetadata record.metadata now 0 false }

/-- The record written by `increment_failure_metadata`. -/
def ProviderInstallRecord.failed (record : ProviderInstallRecord) (maxFailures : UInt32) :
    ProviderInstallRecord :=
  let failures := saturatingAdd (failureState record.metadata).1 1
  let degraded := (failureState record.metadata).2 || decide (maxFailures ≤ failures)
  { record with
    metadata := updateSubscriptionMetadata record.metadata "unknown" failures degraded }

/-- The two value stores. -/
inductive RefKind where
  | config
  | secret
  deriving DecidableEq

def RefKind.text : RefKind → String
  | config => "config"
  | secret => "secret"

inductive InstallOp where
  | read (kind : RefKind) (reference : String)
  | syncSubscriptions (spec : EventProviderSpec) (install : ResolvedInstall)
  | now
  | updateInstall (record : ProviderInstallRecord)
  | threadRng
  | sleep (d : Duration)

@[reducible] def InstallOp.Ans : InstallOp → Type
  | read _ _ => Except String Json
  | syncSubscriptions _ _ => Except String Json
  | now => String
  | updateInstall _ => Except String Unit
  | threadRng => Rng
  | sleep _ => Unit

abbrev installInterface : Interface := ⟨InstallOp, InstallOp.Ans⟩

abbrev InstallProg := Prog installInterface

namespace InstallProg

def read (kind : RefKind) (reference : String) : InstallProg (Except String Json) :=
  Prog.perform (I := installInterface) (.read kind reference)

def syncSubscriptions (spec : EventProviderSpec) (install : ResolvedInstall) :
    InstallProg (Except String Json) :=
  Prog.perform (I := installInterface) (.syncSubscriptions spec install)

def now : InstallProg String := Prog.perform (I := installInterface) .now

def updateInstall (record : ProviderInstallRecord) : InstallProg (Except String Unit) :=
  Prog.perform (I := installInterface) (.updateInstall record)

def threadRng : InstallProg Rng := Prog.perform (I := installInterface) .threadRng

def sleep (d : Duration) : InstallProg Unit := Prog.perform (I := installInterface) (.sleep d)

end InstallProg

/-- The loop over the references of one kind; the first unreadable one ends it. -/
def readRefs (kind : RefKind) :
    List (String × String) → BTreeMap String Json →
      InstallProg (Except String (BTreeMap String Json))
  | [], values => return .ok values
  | (key, reference) :: refs, values => do
    match ← InstallProg.read kind reference with
    | .error _ => return .error s!"missing {kind.text} ref {reference}"
    | .ok value => readRefs kind refs (values.insert key value)

def resolve (record : ProviderInstallRecord) : InstallProg (Except String ResolvedInstall) := do
  match ← readRefs .config record.configRefs.entries .empty with
  | .error err => return .error err
  | .ok config =>
    match ← readRefs .secret record.secretRefs.entries .empty with
    | .error err => return .error err
    | .ok secrets => return .ok ⟨record, config, secrets⟩

structure SubscriptionsWorker where
  retry : RetryPolicy
  maxFailures : UInt32

def SubscriptionsWorker.new : SubscriptionsWorker := ⟨.default, 3⟩

/-- After the last attempt: `increment_failure_metadata`, whose own error is dropped. -/
def reportFailure (worker : SubscriptionsWorker) (record : ProviderInstallRecord) (err : String) :
    InstallProg (Except String Unit) := do
  let _ ← InstallProg.updateInstall (record.failed worker.maxFailures)
  return .error err

/-- The `for` loop over the attempts, `left` of them to go. -/
def syncLoop (worker : SubscriptionsWorker) (spec : EventProviderSpec)
    (record : ProviderInstallRecord) (install : ResolvedInstall) :
    (attempt left : ℕ) → Option String → InstallProg (Except String Unit)
  -- not reached: the last attempt leaves the loop by the `break`
  | _, 0, lastErr => reportFailure worker record (lastErr.getD "subscription sync failed")
  | attempt, left + 1, _ => do
    match ← InstallProg.syncSubscriptions spec install with
    | .ok state =>
      let now ← InstallProg.now
      InstallProg.updateInstall (install.record.synced state now)
    | .error err =>
      if attempt = worker.retry.maxRetries.toNat then reportFailure worker record err
      else
        let rng ← InstallProg.threadRng
        InstallProg.sleep (worker.retry.delayForAttempt rng (attempt + 1))
        syncLoop worker spec record install (attempt + 1) left (some err)

def syncInstall (worker : SubscriptionsWorker) (spec : EventProviderSpec)
    (record : ProviderInstallRecord) : InstallProg (Except String Unit) := do
  match ← resolve record with
  | .error err => return .error err
  | .ok install => syncLoop worker spec record install 0 (worker.retry.maxRetries.toNat + 1) none

inductive DiagnosticCode where
  | missingConfig
  | missingSecret
  | malformedInstall
  | providerInitFailed
  | providerNotFound
  | subscriptionSyncFailed
  deriving DecidableEq

structure RuntimeDiagnostic where
  providerId : String
  installId : Option String
  code : DiagnosticCode
  message : String

/-- The calls of a pass; `syncInstall` is one whole run of `sync_install`. -/
inductive PassOp where
  | listInstalls (providerId : String)
  | syncInstall (spec : EventProviderSpec) (record : ProviderInstallRecord)

@[reducible] def PassOp.Ans : PassOp → Type
  | listInstalls _ => Except String (List ProviderInstallRecord)
  | syncInstall _ _ => Except String Unit

abbrev passInterface : Interface := ⟨PassOp, PassOp.Ans⟩

abbrev PassProg := Prog passInterface

namespace PassProg

def listInstalls (providerId : String) : PassProg (Except String (List ProviderInstallRecord)) :=
  Prog.perform (I := passInterface) (.listInstalls providerId)

def syncInstall (spec : EventProviderSpec) (record : ProviderInstallRecord) :
    PassProg (Except String Unit) :=
  Prog.perform (I := passInterface) (.syncInstall spec record)

end PassProg

/-- The inner loop, over the records that were listed. -/
def syncRecords (spec : EventProviderSpec) :
    List ProviderInstallRecord → List RuntimeDiagnostic → PassProg (List RuntimeDiagnostic)
  | [], diagnostics => return diagnostics
  | record :: records, diagnostics => do
    match ← PassProg.syncInstall spec record with
    | .ok () => syncRecords spec records diagnostics
    | .error err =>
      syncRecords spec records (diagnostics ++
        [⟨record.providerId, some record.installId, .subscriptionSyncFailed, err⟩])

/-- The outer loop, over the providers that the filter accepts. -/
def syncProviders : List EventProviderSpec → List RuntimeDiagnostic →
    PassProg (List RuntimeDiagnostic)
  | [], diagnostics => return diagnostics
  | spec :: specs, diagnostics => do
    match ← PassProg.listInstalls spec.name with
    | .error err => syncProviders specs (diagnostics ++ [⟨spec.name, none, .malformedInstall, err⟩])
    | .ok installs =>
      let diagnostics ← syncRecords spec installs diagnostics
      syncProviders specs diagnostics

def syncAll (providers : List EventProviderSpec) (subscriptionFilter : EventProviderSpec → Bool) :
    PassProg (List RuntimeDiagnostic) :=
  syncProviders (providers.filter subscriptionFilter) []

/-- The answers of an in-memory install store and of value stores that can read the
`readable` references; the driver, the clock and the random source answer anything. -/
def InMemoryInstallStore.handle (readable : RefKind → String → Prop) (s : InMemoryInstallStore) :
    Event installInterface → InMemoryInstallStore → Prop
  | ⟨.updateInstall record, answer⟩, s' => answer = .ok () ∧ s' = s.insert record
  | ⟨.read kind reference, answer⟩, s' =>
    (readable kind reference → ∃ value, answer = .ok value) ∧ s' = s
  | _, s' => s' = s

/-- One run of `sync_install`, interleaved with records that others write. -/
def installSystem (readable : RefKind → String → Prop) :
    System Unit installInterface ProviderInstallRecord InMemoryInstallStore
      (InstallProg (Except String Unit)) where
  next := Prog.next
  handle _ := InMemoryInstallStore.handle readable
  react s record s' := s' = s.insert record

end GreenticEvents
