import GreenticEvents.Bus
import GreenticEvents.Install

/-!
# The sink router (`install.rs` of `greentic-events-runtime`)

`build_sink_router` resolves every listed install of every sink and keeps the
provider instances that could be built; `SinkRouter::emit` calls one of them.
-/

namespace GreenticEvents
open Effects Prog

/-- `resolve` is one whole run of `InstallResolver::resolve`. -/
inductive RouterOp where
  | listInstalls (providerId : String)
  | resolve (record : ProviderInstallRecord)
  | buildProvider (spec : EventProviderSpec) (install : ResolvedInstall)

@[reducible] def RouterOp.Ans : RouterOp → Type
  | listInstalls _ => Except String (List ProviderInstallRecord)
  | resolve _ => Except String ResolvedInstall
  | buildProvider _ _ => Except String ProviderInstance

abbrev routerInterface : Interface := ⟨RouterOp, RouterOp.Ans⟩

abbrev RouterProg := Prog routerInterface

namespace RouterProg

def listInstalls (providerId : String) :
    RouterProg (Except String (List ProviderInstallRecord)) :=
  Prog.perform (I := routerInterface) (.listInstalls providerId)

def resolve (record : ProviderInstallRecord) : RouterProg (Except String ResolvedInstall) :=
  Prog.perform (I := routerInterface) (.resolve record)

def buildProvider (spec : EventProviderSpec) (install : ResolvedInstall) :
    RouterProg (Except String ProviderInstance) :=
  Prog.perform (I := routerInterface) (.buildProvider spec install)

end RouterProg

def diagnosticCodeForResolveError (msg : String) : DiagnosticCode :=
  if RetryPolicy.contains msg "secret" then .missingSecret
  else if RetryPolicy.contains msg "config" then .missingConfig
  else .malformedInstall

/-- A hash map from install keys to provider instances. -/
structure SinkRouter where
  providers : ProviderInstallKey → Option ProviderInstance

namespace SinkRouter

def empty : SinkRouter := ⟨fun _ => none⟩

def insert (router : SinkRouter) (key : ProviderInstallKey) (provider : ProviderInstance) :
    SinkRouter :=
  ⟨Function.update router.providers key (some provider)⟩

def emit (router : SinkRouter) (providerId installId : String) (event : EventEnvelope) :
    BusProg (Except String Unit) :=
  match router.providers ⟨providerId, installId⟩ with
  | none => return .error s!"provider install not found: {providerId}:{installId}"
  | some provider => do
    match ← BusProg.publish provider event with
    | .error err => return .error err
    | .ok () => return .ok ()

end SinkRouter

/-- The inner loop, over the records that were listed. -/
def routeRecords (spec : EventProviderSpec) :
    List ProviderInstallRecord → SinkRouter → List RuntimeDiagnostic →
      RouterProg (SinkRouter × List RuntimeDiagnostic)
  | [], router, diagnostics => return (router, diagnostics)
  | record :: records, router, diagnostics => do
    match ← RouterProg.resolve record with
    | .error err =>
      routeRecords spec records router (diagnostics ++
        [⟨record.providerId, some record.installId, diagnosticCodeForResolveError err, err⟩])
    | .ok install =>
      match ← RouterProg.buildProvider spec install with
      | .ok provider => routeRecords spec records (router.insert record.key provider) diagnostics
      | .error err =>
        routeRecords spec records router (diagnostics ++
          [⟨record.providerId, some record.installId, .providerInitFailed, err⟩])

/-- The outer loop, over the sinks. -/
def routeProviders : List EventProviderSpec → SinkRouter → List RuntimeDiagnostic →
    RouterProg (SinkRouter × List RuntimeDiagnostic)
  | [], router, diagnostics => return (router, diagnostics)
  | spec :: specs, router, diagnostics => do
    match ← RouterProg.listInstalls spec.name with
    | .error err =>
      routeProviders specs router (diagnostics ++ [⟨spec.name, none, .malformedInstall, err⟩])
    | .ok installs =>
      let (router, diagnostics) ← routeRecords spec installs router diagnostics
      routeProviders specs router diagnostics

def EventProviderSpec.isSink (spec : EventProviderSpec) : Bool := decide (spec.kind = .sink)

def buildSinkRouter (providers : List EventProviderSpec) :
    RouterProg (SinkRouter × List RuntimeDiagnostic) :=
  routeProviders (providers.filter EventProviderSpec.isSink) .empty []

inductive PairOutcome where
  | unresolved (err : String)
  | notBuilt (install : ResolvedInstall) (err : String)
  | built (install : ResolvedInstall) (provider : ProviderInstance)

structure SinkPair where
  record : ProviderInstallRecord
  outcome : PairOutcome

abbrev RouterHistory := List (Event routerInterface)

namespace SinkPair

def history (spec : EventProviderSpec) (pair : SinkPair) : RouterHistory :=
  match pair.outcome with
  | .unresolved err => [⟨.resolve pair.record, .error err⟩]
  | .notBuilt install err =>
    [⟨.resolve pair.record, .ok install⟩, ⟨.buildProvider spec install, .error err⟩]
  | .built install provider =>
    [⟨.resolve pair.record, .ok install⟩, ⟨.buildProvider spec install, .ok provider⟩]

def diagnostics (pair : SinkPair) : List RuntimeDiagnostic :=
  match pair.outcome with
  | .unresolved err =>
    [⟨pair.record.providerId, some pair.record.installId, diagnosticCodeForResolveError err, err⟩]
  | .notBuilt _ err =>
    [⟨pair.record.providerId, some pair.record.installId, .providerInitFailed, err⟩]
  | .built _ _ => []

def instances (pair : SinkPair) : List (ProviderInstallKey × ProviderInstance) :=
  match pair.outcome with
  | .built _ provider => [(pair.record.key, provider)]
  | _ => []

/-- A pair yields an instance under the record's key, or one diagnostic with its ids. -/
theorem accounted (pair : SinkPair) :
    (∃ provider, pair.instances = [(pair.record.key, provider)] ∧ pair.diagnostics = []) ∨
    ∃ d, pair.instances = [] ∧ pair.diagnostics = [d] ∧ d.providerId = pair.record.providerId ∧
      d.installId = some pair.record.installId := by
  obtain ⟨record, outcome⟩ := pair
  cases outcome with
  | unresolved err => exact .inr ⟨_, rfl, rfl, rfl, rfl⟩
  | notBuilt install err => exact .inr ⟨_, rfl, rfl, rfl, rfl⟩
  | built install provider => exact .inl ⟨provider, rfl, rfl⟩

end SinkPair

/-- The work on one sink: a failed listing, or a pair for each record listed. -/
structure SinkBlock where
  spec : EventProviderSpec
  listing : Except String (List SinkPair)

namespace SinkBlock

def history (block : SinkBlock) : RouterHistory :=
  match block.listing with
  | .error err => [⟨.listInstalls block.spec.name, .error err⟩]
  | .ok pairs => ⟨.listInstalls block.spec.name, .ok (pairs.map SinkPair.record)⟩ ::
      pairs.flatMap (SinkPair.history block.spec)

def diagnostics (block : SinkBlock) : List RuntimeDiagnostic :=
  match block.listing with
  | .error err => [⟨block.spec.name, none, .malformedInstall, err⟩]
  | .ok pairs => pairs.flatMap SinkPair.diagnostics

def instances (block : SinkBlock) : List (ProviderInstallKey × ProviderInstance) :=
  match block.listing with
  | .error _ => []
  | .ok pairs => pairs.flatMap SinkPair.instances

end SinkBlock

def SinkRouter.insertAll (router : SinkRouter)
    (instances : List (ProviderInstallKey × ProviderInstance)) : SinkRouter :=
  instances.foldl (fun router e => router.insert e.1 e.2) router

theorem SinkRouter.insertAll_append (router : SinkRouter)
    (instances instances' : List (ProviderInstallKey × ProviderInstance)) :
    router.insertAll (instances ++ instances') =
      (router.insertAll instances).insertAll instances' :=
  List.foldl_append

/-- A key leads to the last instance inserted under it. -/
theorem SinkRouter.insertAll_get (router : SinkRouter)
    (instances : List (ProviderInstallKey × ProviderInstance)) (key : ProviderInstallKey) :
    (router.insertAll instances).providers key =
      (instances.reverse.lookup key).or (router.providers key) := by
  -- from the end, as a later instance replaces an earlier one
  induction instances using List.reverseRecOn with
  | nil => rfl
  | append_singleton instances e ih =>
    rw [insertAll_append, List.reverse_append]
    show Function.update (router.insertAll instances).providers e.1 (some e.2) key =
      (List.lookup key (e :: instances.reverse)).or _
    rw [List.lookup_cons]
    by_cases hk : key = e.1
    · subst hk
      rw [Function.update_self, beq_self_eq_true]
      rfl
    · rw [Function.update_of_ne hk, ih, beq_false_of_ne hk]

/-- One record of the inner loop. -/
theorem routeRecords_step {spec : EventProviderSpec} {record : ProviderInstallRecord}
    {records : List ProviderInstallRecord} {router : SinkRouter}
    {diagnostics : List RuntimeDiagnostic} {h : RouterHistory}
    {out : SinkRouter × List RuntimeDiagnostic} :
    Runs (routeRecords spec (record :: records) router diagnostics) h (.ret out) ↔
      ∃ pair h', SinkPair.record pair = record ∧ h = pair.history spec ++ h' ∧
        Runs (routeRecords spec records (router.insertAll pair.instances)
          (diagnostics ++ pair.diagnostics)) h' (.ret out) := by
  rw [routeRecords, RouterProg.resolve, perform_bind, runs_ask_ret]
  constructor
  · rintro ⟨resolved, h, rfl, hr⟩
    cases resolved with
    | error err => exact ⟨⟨record, .unresolved err⟩, h, rfl, rfl, hr⟩
    | ok install =>
      dsimp only at hr
      rw [RouterProg.buildProvider, perform_bind, runs_ask_ret] at hr
      obtain ⟨answer, h, rfl, hr⟩ := hr
      cases answer with
      | error err => exact ⟨⟨record, .notBuilt install err⟩, h, rfl, rfl, hr⟩
      | ok provider =>
        -- an instance adds no diagnostic, and the loop goes on with the list as it was
        refine ⟨⟨record, .built install provider⟩, h, rfl, rfl, ?_⟩
        rw [show SinkPair.diagnostics ⟨record, .built install provider⟩ = [] from rfl,
          List.append_nil]
        exact hr
  · rintro ⟨⟨record, outcome⟩, h, rfl, rfl, hr⟩
    cases outcome with
    | unresolved err => exact ⟨.error err, h, rfl, hr⟩
    | notBuilt install err => exact ⟨.ok install, _, rfl, .step rfl hr⟩
    | built install provider =>
      rw [show SinkPair.diagnostics ⟨record, .built install provider⟩ = [] from rfl,
        List.append_nil] at hr
      exact ⟨.ok install, _, rfl, .step rfl hr⟩

/-- What pieces of work add to a router and to the diagnostics, one after the other. -/
theorem foldl_pieces {π : Type} (instances : π → List (ProviderInstallKey × ProviderInstance))
    (diagnostics : π → List RuntimeDiagnostic) (pieces : List π)
    (s : SinkRouter × List RuntimeDiagnostic) :
    pieces.foldl (fun s piece => (s.1.insertAll (instances piece), s.2 ++ diagnostics piece)) s =
      (s.1.insertAll (pieces.flatMap instances), s.2 ++ pieces.flatMap diagnostics) := by
  induction pieces generalizing s with
  | nil => simp [SinkRouter.insertAll]
  | cons piece pieces ih =>
    rw [List.foldl_cons, ih, List.flatMap_cons, List.flatMap_cons, SinkRouter.insertAll_append,
      List.append_assoc]

theorem routeRecords_runs {spec : EventProviderSpec} {records : List ProviderInstallRecord}
    {s : SinkRouter × List RuntimeDiagnostic} {h : RouterHistory}
    {out : SinkRouter × List RuntimeDiagnostic} :
    Runs (routeRecords spec records s.1 s.2) h (.ret out) ↔
      ∃ pairs : List SinkPair, pairs.map SinkPair.record = records ∧
        h = pairs.flatMap (SinkPair.history spec) ∧
        out = (s.1.insertAll (pairs.flatMap SinkPair.instances),
          s.2 ++ pairs.flatMap SinkPair.diagnostics) := by
  simp only [← foldl_pieces SinkPair.instances SinkPair.diagnostics]
  let loop (records : List ProviderInstallRecord) (s : SinkRouter × List RuntimeDiagnostic) :=
    routeRecords spec records s.1 s.2
  exact loop_runs loop (fun _ => rfl) fun _ _ _ _ => routeRecords_step

/-- One sink of the outer loop. -/
theorem routeProviders_step {spec : EventProviderSpec} {specs : List EventProviderSpec}
    {router : SinkRouter} {diagnostics : List RuntimeDiagnostic} {h : RouterHistory}
    {out : SinkRouter × List RuntimeDiagnostic} :
    Runs (routeProviders (spec :: specs) router diagnostics) h (.ret out) ↔
      ∃ block h', SinkBlock.spec block = spec ∧ h = block.history ++ h' ∧
        Runs (routeProviders specs (router.insertAll block.instances)
          (diagnostics ++ block.diagnostics)) h' (.ret out) := by
  rw [routeProviders, RouterProg.listInstalls, perform_bind, runs_ask_ret]
  constructor
  · rintro ⟨listed, h, rfl, hr⟩
    cases listed with
    | error err => exact ⟨⟨spec, .error err⟩, h, rfl, rfl, hr⟩
    | ok installs =>
      -- the inner loop runs to its end before the next sink is listed
      obtain ⟨out', h₁, h₂, rfl, hrecords, hr⟩ := runs_bind_ret hr
      obtain ⟨pairs, rfl, rfl, rfl⟩ := (routeRecords_runs (s := (router, diagnostics))).mp hrecords
      exact ⟨⟨spec, .ok pairs⟩, h₂, rfl, rfl, hr⟩
  · rintro ⟨⟨spec, listing⟩, h, rfl, rfl, hr⟩
    cases listing with
    | error err => exact ⟨.error err, h, rfl, hr⟩
    | ok pairs =>
      refine ⟨.ok (pairs.map SinkPair.record), _, rfl, ?_⟩
      exact bind_runs
        ((routeRecords_runs (s := (router, diagnostics))).mpr ⟨pairs, rfl, rfl, rfl⟩) hr

theorem routeProviders_runs {specs : List EventProviderSpec}
    {s : SinkRouter × List RuntimeDiagnostic} {h : RouterHistory}
    {out : SinkRouter × List RuntimeDiagnostic} :
    Runs (routeProviders specs s.1 s.2) h (.ret out) ↔
      ∃ blocks : List SinkBlock, blocks.map SinkBlock.spec = specs ∧
        h = blocks.flatMap SinkBlock.history ∧
        out = (s.1.insertAll (blocks.flatMap SinkBlock.instances),
          s.2 ++ blocks.flatMap SinkBlock.diagnostics) := by
  simp only [← foldl_pieces SinkBlock.instances SinkBlock.diagnostics]
  let loop (specs : List EventProviderSpec) (s : SinkRouter × List RuntimeDiagnostic) :=
    routeProviders specs s.1 s.2
  exact loop_runs loop (fun _ => rfl) fun _ _ _ _ => routeProviders_step

/-- The runs of `build_sink_router` are those made of one block for each sink. -/
theorem buildSinkRouter_runs {providers : List EventProviderSpec} {h : RouterHistory}
    {router : SinkRouter} {diagnostics : List RuntimeDiagnostic} :
    Runs (buildSinkRouter providers) h (.ret (router, diagnostics)) ↔
      ∃ blocks : List SinkBlock,
        blocks.map SinkBlock.spec = providers.filter EventProviderSpec.isSink ∧
        h = blocks.flatMap SinkBlock.history ∧
        router = SinkRouter.empty.insertAll (blocks.flatMap SinkBlock.instances) ∧
        diagnostics = blocks.flatMap SinkBlock.diagnostics := by
  rw [buildSinkRouter, routeProviders_runs (s := (.empty, []))]
  simp only [Prod.mk.injEq, List.nil_append]

end GreenticEvents
