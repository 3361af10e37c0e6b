import GreenticEvents.Router

/-!
# Starting the sources (`SourceRuntime` of `install.rs`)

`start_sources` resolves every listed install of every source and hands it to
the initializer; nothing is kept of it but the diagnostics.
-/

namespace GreenticEvents
open Effects Prog

/-- `resolve` is one whole run of `InstallResolver::resolve`. -/
inductive SourceOp where
  | listInstalls (providerId : String)
  | resolve (record : ProviderInstallRecord)
  | initSource (spec : EventProviderSpec) (install : ResolvedInstall)

@[reducible] def SourceOp.Ans : SourceOp → Type
  | listInstalls _ => Except String (List ProviderInstallRecord)
  | resolve _ => Except String ResolvedInstall
  | initSource _ _ => Except String Unit

abbrev sourceInterface : Interface := ⟨SourceOp, SourceOp.Ans⟩

abbrev SourceProg := Prog sourceInterface

namespace SourceProg

def listInstalls (providerId : String) :
    SourceProg (Except String (List ProviderInstallRecord)) :=
  Prog.perform (I := sourceInterface) (.listInstalls providerId)

def resolve (record : ProviderInstallRecord) : SourceProg (Except String ResolvedInstall) :=
  Prog.perform (I := sourceInterface) (.resolve record)

def initSource (spec : EventProviderSpec) (install : ResolvedInstall) :
    SourceProg (Except String Unit) :=
  Prog.perform (I := sourceInterface) (.initSource spec install)

end SourceProg

/-- The inner loop, over the records that were listed. -/
def startRecords (spec : EventProviderSpec) :
    List ProviderInstallRecord → List RuntimeDiagnostic → SourceProg (List RuntimeDiagnostic)
  | [], diagnostics => return diagnostics
  | record :: records, diagnostics => do
    match ← SourceProg.resolve record with
    | .error err =>
      startRecords spec records (diagnostics ++
        [⟨record.providerId, some record.installId, diagnosticCodeForResolveError err, err⟩])
    | .ok install =>
      match ← SourceProg.initSource spec install with
      | .ok () => startRecords spec records diagnostics
      | .error err =>
        startRecords spec records (diagnostics ++
          [⟨record.providerId, some record.installId, .providerInitFailed, err⟩])

/-- The outer loop, over the sources. -/
def startProviders : List EventProviderSpec → List RuntimeDiagnostic →
    SourceProg (List RuntimeDiagnostic)
  | [], diagnostics => return diagnostics
  | spec :: specs, diagnostics => do
    match ← SourceProg.listInstalls spec.name with
    | .error err =>
      startProviders specs (diagnostics ++ [⟨spec.name, none, .malformedInstall, err⟩])
    | .ok installs =>
      let diagnostics ← startRecords spec installs diagnostics
      startProviders specs diagnostics

def EventProviderSpec.isSource (spec : EventProviderSpec) : Bool := decide (spec.kind = .source)

def startSources (providers : List EventProviderSpec) : SourceProg (List RuntimeDiagnostic) :=
  startProviders (providers.filter EventProviderSpec.isSource) []

inductive StartOutcome where
  | unresolved (err : String)
  | resolved (install : ResolvedInstall) (answer : Except String Unit)

structure SourceStart where
  record : ProviderInstallRecord
  outcome : StartOutcome

abbrev SourceHistory := List (Event sourceInterface)

namespace SourceStart

def history (spec : EventProviderSpec) (start : SourceStart) : SourceHistory :=
  match start.outcome with
  | .unresolved err => [⟨.resolve start.record, .error err⟩]
  | .resolved install answer =>
    [⟨.resolve start.record, .ok install⟩, ⟨.initSource spec install, answer⟩]

def diagnostics (start : SourceStart) : List RuntimeDiagnostic :=
  match start.outcome with
  | .unresolved err =>
    [⟨start.record.providerId, some start.record.installId, diagnosticCodeForResolveError err, err⟩]
  | .resolved _ (.error err) =>
    [⟨start.record.providerId, some start.record.installId, .providerInitFailed, err⟩]
  | .resolved _ (.ok ()) => []

end SourceStart

/-- The work on one source: a failed listing, or a start for each record listed. -/
structure SourceBlock where
  spec : EventProviderSpec
  listing : Except String (List SourceStart)

namespace SourceBlock

def history (block : SourceBlock) : SourceHistory :=
  match block.listing with
  | .error err => [⟨.listInstalls block.spec.name, .error err⟩]
  | .ok starts => ⟨.listInstalls block.spec.name, .ok (starts.map SourceStart.record)⟩ ::
      starts.flatMap (SourceStart.history block.spec)

def diagnostics (block : SourceBlock) : List RuntimeDiagnostic :=
  match block.listing with
  | .error err => [⟨block.spec.name, none, .malformedInstall, err⟩]
  | .ok starts => starts.flatMap SourceStart.diagnostics

end SourceBlock

/-- One record of the inner loop. -/
theorem startRecords_step {spec : EventProviderSpec} {record : ProviderInstallRecord}
    {records : List ProviderInstallRecord} {diagnostics : List RuntimeDiagnostic}
    {h : SourceHistory} {out : List RuntimeDiagnostic} :
    Runs (startRecords spec (record :: records) diagnostics) h (.ret out) ↔
      ∃ start h', SourceStart.record start = record ∧ h = start.history spec ++ h' ∧
        Runs (startRecords spec records (diagnostics ++ start.diagnostics)) h' (.ret out) := by
  rw [startRecords, SourceProg.resolve, perform_bind, runs_ask_ret]
  constructor
  · rintro ⟨resolved, h, rfl, hr⟩
    cases resolved with
    | error err => exact ⟨⟨record, .unresolved err⟩, h, rfl, rfl, hr⟩
    | ok install =>
      dsimp only at hr
      rw [SourceProg.initSource, perform_bind, runs_ask_ret] at hr
      obtain ⟨answer, h, rfl, hr⟩ := hr
      refine ⟨⟨record, .resolved install answer⟩, h, rfl, rfl, ?_⟩
      cases answer with
      | error err => exact hr
      | ok =>
        -- a source that was started adds no diagnostic
        rw [show SourceStart.diagnostics ⟨record, .resolved install (.ok ())⟩ = [] from rfl,
          List.append_nil]
        exact hr
  · rintro ⟨⟨record, outcome⟩, h, rfl, rfl, hr⟩
    cases outcome with
    | unresolved err => exact ⟨.error err, h, rfl, hr⟩
    | resolved install answer =>
      refine ⟨.ok install, _, rfl, .step rfl ?_⟩
      cases answer with
      | error err => exact hr
      | ok =>
        rw [show SourceStart.diagnostics ⟨record, .resolved install (.ok ())⟩ = [] from rfl,
          List.append_nil] at hr
        exact hr

theorem startRecords_runs {spec : EventProviderSpec} {records : List ProviderInstallRecord}
    {diagnostics : List RuntimeDiagnostic} {h : SourceHistory} {out : List RuntimeDiagnostic} :
    Runs (startRecords spec records diagnostics) h (.ret out) ↔
      ∃ starts : List SourceStart, starts.map SourceStart.record = records ∧
        h = starts.flatMap (SourceStart.history spec) ∧
        out = diagnostics ++ starts.flatMap SourceStart.diagnostics := by
  simp only [List.flatMap_def (f := SourceStart.diagnostics), ← List.foldl_append_eq_append]
  exact loop_runs (startRecords spec) (fun _ => rfl) fun _ _ _ _ => startRecords_step

/-- One source of the outer loop. -/
theorem startProviders_step {spec : EventProviderSpec} {specs : List EventProviderSpec}
    {diagnostics : List RuntimeDiagnostic} {h : SourceHistory} {out : List RuntimeDiagnostic} :
    Runs (startProviders (spec :: specs) diagnostics) h (.ret out) ↔
      ∃ block h', SourceBlock.spec block = spec ∧ h = block.history ++ h' ∧
        Runs (startProviders specs (diagnostics ++ block.diagnostics)) h' (.ret out) := by
  rw [startProviders, SourceProg.listInstalls, perform_bind, runs_ask_ret]
  constructor
  · rintro ⟨listed, h, rfl, hr⟩
    cases listed with
    | error err => exact ⟨⟨spec, .error err⟩, h, rfl, rfl, hr⟩
    | ok installs =>
      obtain ⟨out', h₁, h₂, rfl, hrecords, hr⟩ := runs_bind_ret hr
      obtain ⟨starts, rfl, rfl, rfl⟩ := startRecords_runs.mp hrecords
      exact ⟨⟨spec, .ok starts⟩, h₂, rfl, rfl, hr⟩
  · rintro ⟨⟨spec, listing⟩, h, rfl, rfl, hr⟩
    cases listing with
    | error err => exact ⟨.error err, h, rfl, hr⟩
    | ok starts =>
      refine ⟨.ok (starts.map SourceStart.record), _, rfl, ?_⟩
      exact bind_runs (startRecords_runs.mpr ⟨starts, rfl, rfl, rfl⟩) hr

theorem startProviders_runs {specs : List EventProviderSpec} {diagnostics : List RuntimeDiagnostic}
    {h : SourceHistory} {out : List RuntimeDiagnostic} :
    Runs (startProviders specs diagnostics) h (.ret out) ↔
      ∃ blocks : List SourceBlock, blocks.map SourceBlock.spec = specs ∧
        h = blocks.flatMap SourceBlock.history ∧
        out = diagnostics ++ blocks.flatMap SourceBlock.diagnostics := by
  simp only [List.flatMap_def (f := SourceBlock.diagnostics), ← List.foldl_append_eq_append]
  exact loop_runs startProviders (fun _ => rfl) fun _ _ _ _ => startProviders_step

/-- The runs of `start_sources` are those made of one block for each source. -/
theorem startSources_runs {providers : List EventProviderSpec} {h : SourceHistory}
    {diagnostics : List RuntimeDiagnostic} :
    Runs (startSources providers) h (.ret diagnostics) ↔
      ∃ blocks : List SourceBlock,
        blocks.map SourceBlock.spec = providers.filter EventProviderSpec.isSource ∧
        h = blocks.flatMap SourceBlock.history ∧
        diagnostics = blocks.flatMap SourceBlock.diagnostics := by
  rw [startSources, startProviders_runs]
  simp only [List.nil_append]

end GreenticEvents
