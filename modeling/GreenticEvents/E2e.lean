import GreenticEvents.Codec
import GreenticEvents.Text

/-!
# The end-to-end harness for event packs (`e2e.rs`)
-/

namespace GreenticEvents
open Data Effects RetryPolicy

/-- What the harness reads of the manifest's `meta`; the provider list is that of `events`. -/
structure PackMeta where
  packId : String
  version : String
  events : Option (List EventProviderSpec)
  entryFlows : List String

structure PackFlow where
  id : String
  fileYaml : String

/-- `greentic_pack::reader::PackLoad`; `manifestMeta` and `flows` are those of the manifest. -/
structure PackLoad where
  manifestMeta : PackMeta
  flows : List PackFlow
  files : BTreeMap String (List UInt8)

def requirementsFlowId (pack : PackLoad) : Option String :=
  (pack.manifestMeta.entryFlows.find? (contains · "requirements")).or
    ((pack.flows.map PackFlow.id).find? (contains · "requirements"))

def selectProviders (providerFilter : Option String) (providers : List EventProviderSpec) :
    List EventProviderSpec :=
  match providerFilter with
  | some name => providers.filter fun provider => provider.name = name
  | none => providers

def hasKind (providers : List EventProviderSpec) (kind : EventProviderKind) : Bool :=
  providers.any fun provider => provider.kind = kind

structure RequirementsFixture where
  requiredConfigKeys : List String
  requiredSecretKeys : List String
  subscriptionsRequired : Bool
  webhooksRequired : Bool

inductive SubscriptionAction where
  | create
  | update
  | delete
  deriving DecidableEq

structure SubscriptionOp where
  action : SubscriptionAction
  topic : String
  endpoint : String
  deriving DecidableEq

inductive WebhookAction where
  | create
  | update
  | delete
  deriving DecidableEq

structure WebhookOp where
  action : WebhookAction
  name : String
  url : String
  events : List String
  deriving DecidableEq

structure ProvisionPlan where
  configPatch : Option Json
  secretsPatch : Option Json
  subscriptions : List SubscriptionOp
  webhooks : List WebhookOp

structure ProvisionInputs where
  providerId : String
  installId : String
  publicBaseUrl : Option String
  answers : Json
  requirements : RequirementsFixture

/-- Floats are compared as numbers: the two zeros are equal.  No JSON number is a NaN. -/
def Number.eq : Number → Number → Bool
  | posInt n, posInt n' => n = n'
  | negInt n, negInt n' => n = n'
  | float bits, float bits' => bits = bits' || (bits <<< 1 = 0 && bits' <<< 1 = 0)
  | _, _ => false

mutual

/-- `PartialEq` of `serde_json::Value`. -/
def Json.eq : Json → Json → Bool
  | .null, .null => true
  | .bool b, .bool b' => b = b'
  | .number n, .number n' => n.eq n'
  | .string s, .string s' => s = s'
  | .array values, .array values' => Json.eqValues values values'
  | .object entries, .object entries' => Json.eqEntries entries entries'
  | _, _ => false

def Json.eqValues : List Json → List Json → Bool
  | [], [] => true
  | value :: values, value' :: values' => Json.eq value value' && Json.eqValues values values'
  | _, _ => false

def Json.eqEntries : List (String × Json) → List (String × Json) → Bool
  | [], [] => true
  | (key, value) :: entries, (key', value') :: entries' =>
    key = key' && Json.eq value value' && Json.eqEntries entries entries'
  | _, _ => false

end

def patchEq : Option Json → Option Json → Bool
  | none, none => true
  | some value, some value' => value.eq value'
  | _, _ => false

def ProvisionPlan.eq (plan plan' : ProvisionPlan) : Bool :=
  patchEq plan.configPatch plan'.configPatch && patchEq plan.secretsPatch plan'.secretsPatch &&
    plan.subscriptions = plan'.subscriptions && plan.webhooks = plan'.webhooks

/-- How an awaited runner call may end without a result: with an error, with a panic, or not
before the pack's time limit. -/
inductive Fault where
  | error (message : String)
  | panicked
  | elapsed

inductive E2eOp where
  | requirements (pack : PackLoad) (flowId : Option String)
  | plan (pack : PackLoad) (inputs : ProvisionInputs)
  | ingest (pack : PackLoad) (providers : List EventProviderSpec) (live : Bool)
  | emit (pack : PackLoad) (providers : List EventProviderSpec) (live : Bool)
  | sync (pack : PackLoad) (providers : List EventProviderSpec) (live : Bool)

/-- The five runners answer as they like; `ReplyScope` is that of the messages. -/
@[reducible] def E2eOp.Ans (ReplyScope : Type) : E2eOp → Type
  | requirements _ _ => Except Fault RequirementsFixture
  | plan _ _ => Except Fault ProvisionPlan
  | ingest _ _ _ => Except Fault (List EventEnvelope)
  | emit _ _ _ => Except Fault (List (ChannelMessageEnvelope ReplyScope))
  | sync _ _ _ => Except Fault Unit

abbrev e2eInterface (ReplyScope : Type) : Interface := ⟨E2eOp, E2eOp.Ans ReplyScope⟩

abbrev E2eProg (ReplyScope : Type) := Prog (e2eInterface ReplyScope)

variable {ReplyScope : Type}

namespace E2eProg

def requirements (pack : PackLoad) (flowId : Option String) :
    E2eProg ReplyScope (Except Fault RequirementsFixture) :=
  Prog.perform (I := e2eInterface ReplyScope) (.requirements pack flowId)

def plan (pack : PackLoad) (inputs : ProvisionInputs) :
    E2eProg ReplyScope (Except Fault ProvisionPlan) :=
  Prog.perform (I := e2eInterface ReplyScope) (.plan pack inputs)

def ingest (pack : PackLoad) (providers : List EventProviderSpec) (live : Bool) :
    E2eProg ReplyScope (Except Fault (List EventEnvelope)) :=
  Prog.perform (I := e2eInterface ReplyScope) (.ingest pack providers live)

def emit (pack : PackLoad) (providers : List EventProviderSpec) (live : Bool) :
    E2eProg ReplyScope (Except Fault (List (ChannelMessageEnvelope ReplyScope))) :=
  Prog.perform (I := e2eInterface ReplyScope) (.emit pack providers live)

def sync (pack : PackLoad) (providers : List EventProviderSpec) (live : Bool) :
    E2eProg ReplyScope (Except Fault Unit) :=
  Prog.perform (I := e2eInterface ReplyScope) (.sync pack providers live)

end E2eProg

inductive StageStatus where
  | pass
  | fail
  | skip
  deriving DecidableEq

structure StageReport where
  requirements : StageStatus
  setup : StageStatus
  ingest : StageStatus
  emit : StageStatus
  subscriptions : StageStatus

structure E2eDiagnostic where
  stage : Option String
  message : String

structure PackReport where
  pack : String
  version : String
  status : StageStatus
  stages : StageReport
  diagnostics : List E2eDiagnostic

structure E2eSummary where
  total : ℕ
  pass : ℕ
  fail : ℕ
  skip : ℕ

structure E2eReport where
  summary : E2eSummary
  packs : List PackReport

structure E2eOptions where
  packsDir : String
  providerFilter : Option String
  reportPath : Option String
  dryRun : Bool
  live : Bool

structure DirEntry where
  path : String
  fileName : Option String
  isFile : Bool

/-- A file of the packs directory under a name that is text. -/
structure PackPath where
  path : String
  fileName : String

/-- What the harness takes from elsewhere: what it read of the environment variable that allows to
write, the file system, `open_pack`, `serde_json` and the `Debug` form of a text. -/
structure E2eHost where
  allowWrite : Option String
  readDir : String → Except String (List (Except String DirEntry))
  openPack : String → Option PackLoad
  fromSlice : List UInt8 → Option Json
  debugText : String → String
  writeReport : String → E2eReport → Except String Unit

def reject (bad : Bool) (message : String) : Except Fault Unit :=
  if bad then .error (.error message) else .ok ()

def loadFixture (host : E2eHost) (pack : PackLoad) (path : String) : Option Json :=
  (pack.files.get path).bind host.fromSlice

structure RequirementsResult where
  state : RequirementsFixture
  diagnostic : Option E2eDiagnostic

def validateRequirementsFixture (fixture : RequirementsFixture) : Except Fault Unit := do
  fixture.requiredConfigKeys.forM fun key =>
    reject (isBlank key) "requirements fixture has empty config key"
  fixture.requiredSecretKeys.forM fun key =>
    reject (isBlank key) "requirements fixture has empty secret key"

def debugTexts (host : E2eHost) (texts : List String) : String :=
  "[" ++ ", ".intercalate (texts.map host.debugText) ++ "]"

def requirementsDiagnostic (host : E2eHost) (flowId : Option String)
    (fixture : RequirementsFixture) : E2eDiagnostic :=
  let message := "config_keys=" ++ debugTexts host fixture.requiredConfigKeys ++
    " secret_keys=" ++ debugTexts host fixture.requiredSecretKeys ++
    " subscriptions_required=" ++ toString fixture.subscriptionsRequired ++
    " webhooks_required=" ++ toString fixture.webhooksRequired
  match flowId with
  | some id => ⟨some "requirements", "flow=Some(" ++ host.debugText id ++ ") " ++ message⟩
  | none => ⟨some "requirements", message⟩

def runRequirements (host : E2eHost) (pack : PackLoad) (flowId : Option String) :
    E2eProg ReplyScope (Except Fault RequirementsResult) :=
  (E2eProg.requirements pack flowId).onSuccess fun fixture =>
  (Prog.ret (validateRequirementsFixture fixture)).onSuccess fun () =>
  return .ok ⟨fixture, some (requirementsDiagnostic host flowId fixture)⟩

structure SetupSummary where
  configPatches : ℕ
  secretsPatches : ℕ
  subscriptions : ℕ
  webhooks : ℕ

def SetupSummary.add (summary : SetupSummary) (plan : ProvisionPlan) : SetupSummary where
  configPatches := summary.configPatches + if plan.configPatch.isSome then 1 else 0
  secretsPatches := summary.secretsPatches + if plan.secretsPatch.isSome then 1 else 0
  subscriptions := summary.subscriptions + plan.subscriptions.length
  webhooks := summary.webhooks + plan.webhooks.length

def setupInputs (setup : Json) (requirements : RequirementsFixture)
    (provider : EventProviderSpec) : ProvisionInputs where
  providerId := provider.name
  installId := "fixture-install"
  publicBaseUrl := none
  answers := setup
  requirements := requirements

def checkPlan (requirements : RequirementsFixture) (plan planAgain : ProvisionPlan) :
    Except Fault Unit := do
  reject (!plan.eq planAgain) "provisioning output is not deterministic"
  reject (requirements.subscriptionsRequired && plan.subscriptions.isEmpty)
    "subscriptions required but provisioning plan returned no ops"
  reject (requirements.webhooksRequired && plan.webhooks.isEmpty)
    "webhooks required but provisioning plan returned no ops"

/-- The loop of `run_setup` over the providers. -/
def planProviders (pack : PackLoad) (setup : Json) (requirements : RequirementsFixture) :
    List EventProviderSpec → SetupSummary → E2eProg ReplyScope (Except Fault SetupSummary)
  | [], summary => return .ok summary
  | provider :: providers, summary =>
    let inputs := setupInputs setup requirements provider
    (E2eProg.plan pack inputs).onSuccess fun plan =>
    (E2eProg.plan pack inputs).onSuccess fun planAgain =>
    (Prog.ret (checkPlan requirements plan planAgain)).onSuccess fun () =>
    planProviders pack setup requirements providers (summary.add plan)

def runSetup (host : E2eHost) (pack : PackLoad) (requirements : RequirementsFixture)
    (providers : List EventProviderSpec) : E2eProg ReplyScope (Except Fault SetupSummary) :=
  match loadFixture host pack "fixtures/setup.input.json" with
  | none => return .error (.error "setup fixture missing or invalid")
  | some (.object entries) =>
    planProviders pack (.object entries) requirements providers ⟨0, 0, 0, 0⟩
  | some _ => return .error (.error "setup.input.json must be a JSON object")

def checkEvent (event : EventEnvelope) : Except Fault Unit := do
  reject (isBlank event.topic) "ingest event missing topic"
  reject (isBlank event.type) "ingest event missing type"
  reject ((event.subject.map isBlank).getD true) "ingest event missing subject"
  reject (isBlank event.tenant.tenant.raw) "ingest event missing tenant"

def runIngest (pack : PackLoad) (providers : List EventProviderSpec) (live : Bool) :
    E2eProg ReplyScope (Except Fault Unit) :=
  (E2eProg.ingest pack providers live).onSuccess fun events => return do
    reject events.isEmpty "ingest produced no events"
    events.forM checkEvent

def checkMessage (msg : ChannelMessageEnvelope ReplyScope) : Except Fault Unit := do
  reject (isBlank msg.channel) "emit message missing channel"
  reject (isBlank msg.tenant.tenant.raw) "emit message missing tenant"

def runEmit (pack : PackLoad) (providers : List EventProviderSpec) (live : Bool) :
    E2eProg ReplyScope (Except Fault Unit) :=
  (E2eProg.emit pack providers live).onSuccess fun messages => return do
    reject messages.isEmpty "emit produced no messages"
    messages.forM checkMessage

def runSubscriptions (pack : PackLoad) (providers : List EventProviderSpec) (live : Bool) :
    E2eProg ReplyScope (Except Fault Unit) :=
  E2eProg.sync pack providers live

/-- How the future of `run_pack` ends without a report. -/
inductive Stop where
  | error (message : String)
  | elapsed

/-- A stage ends in an error when it panics. -/
def catchUnwind {α : Type} (stage : String) : Except Fault α → Except Stop α
  | .ok a => .ok a
  | .error (.error message) => .error (.error message)
  | .error .panicked => .error (.error (stage ++ " stage panicked"))
  | .error .elapsed => .error .elapsed

/-- A stage that is not `wanted` is skipped. -/
def runStage {α : Type} (wanted : Bool) (stage : String) (diagnose : α → List E2eDiagnostic)
    (p : E2eProg ReplyScope (Except Fault α)) :
    E2eProg ReplyScope (Except Stop (StageStatus × List E2eDiagnostic)) :=
  if wanted then do
    match catchUnwind stage (← p) with
    | .ok a => return .ok (.pass, diagnose a)
    | .error (.error message) => return .ok (.fail, [⟨some stage, message⟩])
    | .error .elapsed => return .error .elapsed
  else return .ok (.skip, [])

def setupDiagnostic (summary : SetupSummary) : E2eDiagnostic where
  stage := some "setup"
  message := "plan=config_patches=" ++ toString summary.configPatches ++
    " secrets_patches=" ++ toString summary.secretsPatches ++
    " subscriptions=" ++ toString summary.subscriptions ++
    " webhooks=" ++ toString summary.webhooks

def StageReport.statuses (stages : StageReport) : List StageStatus :=
  [stages.requirements, stages.setup, stages.ingest, stages.emit, stages.subscriptions]

def overallStatus (stages : StageReport) : StageStatus :=
  if .fail ∈ stages.statuses then .fail
  else if stages.statuses.all (· = .skip) then .skip
  else .pass

/-- The first stage: the pack has no report when it fails. -/
def requirementsStage (host : E2eHost) (pack : PackLoad) :
    E2eProg ReplyScope (Except Stop RequirementsResult) := do
  return catchUnwind "requirements" (← runRequirements host pack (requirementsFlowId pack))

def runStages (host : E2eHost) (options : E2eOptions) (pack : PackLoad)
    (providers : List EventProviderSpec) : E2eProg ReplyScope (Except Stop PackReport) :=
  let has := hasKind providers
  (requirementsStage host pack).onSuccess fun requirements =>
  (runStage true "setup" (fun summary => [setupDiagnostic summary])
    (runSetup host pack requirements.state providers)).onSuccess fun setup =>
  (runStage (has .source || has .bridge) "ingest" (fun _ => [])
    (runIngest pack providers options.live)).onSuccess fun ingest =>
  (runStage (has .sink || has .bridge) "emit" (fun _ => [])
    (runEmit pack providers options.live)).onSuccess fun emit =>
  (runStage (has .broker || requirements.state.subscriptionsRequired) "subscriptions"
    (fun _ => []) (runSubscriptions pack providers options.live)).onSuccess fun subscriptions =>
  let stages := ⟨.pass, setup.1, ingest.1, emit.1, subscriptions.1⟩
  return .ok {
    pack := pack.manifestMeta.packId
    version := pack.manifestMeta.version
    status := overallStatus stages
    stages := stages
    diagnostics := requirements.diagnostic.toList ++ setup.2 ++ ingest.2 ++ emit.2 ++
      subscriptions.2 }

def runPack (host : E2eHost) (options : E2eOptions) (packPath : PackPath) :
    E2eProg ReplyScope (Except Stop PackReport) :=
  match host.openPack packPath.path with
  | none => return .error (.error ("open pack " ++ packPath.path))
  | some pack =>
    match pack.manifestMeta.events with
    | none => return .error (.error "pack has no events section")
    | some providers =>
      let providers := selectProviders options.providerFilter providers
      if providers.isEmpty then return .error (.error "no matching event providers in pack")
      else runStages host options pack providers

/-- `Path::extension` of a name that does not start with a dot. -/
def extension (fileName : String) : Option String :=
  ((fileName.toList.splitOn '.').drop 1).getLast?.map .ofList

/-- `Path::file_stem` of a name that has an extension. -/
def fileStem (fileName : String) : String :=
  .ofList (['.'].intercalate (fileName.toList.splitOn '.').dropLast)

def failedReport (packPath : PackPath) (message : String) : PackReport where
  pack := fileStem packPath.fileName
  version := "unknown"
  status := .fail
  stages := ⟨.fail, .fail, .fail, .fail, .fail⟩
  diagnostics := [⟨none, message⟩]

/-- `report_to_pack_report` of what `timeout` returns. -/
def reportToPackReport (packPath : PackPath) : Except Stop PackReport → PackReport
  | .ok report => report
  | .error (.error message) => failedReport packPath message
  | .error .elapsed => failedReport packPath "pack timed out after 20s"

def E2eSummary.count (summary : E2eSummary) (report : PackReport) : E2eSummary :=
  match report.status with
  | .pass => { summary with pass := summary.pass + 1 }
  | .fail => { summary with fail := summary.fail + 1 }
  | .skip => { summary with skip := summary.skip + 1 }

def summarize (reports : List PackReport) : E2eSummary :=
  reports.foldl E2eSummary.count ⟨reports.length, 0, 0, 0⟩

/-- What `apply_dry_run_guard` makes of what it has read. -/
def applyDryRunGuard (host : E2eHost) (options : E2eOptions) : Except String Unit :=
  if options.dryRun && options.reportPath.isSome && host.allowWrite.getD "" ≠ "1" then
    .error ("filesystem writes are disabled in dry-run " ++
      "(set GREENTIC_EVENTS_E2E_ALLOW_WRITE=1 to allow report output)")
  else .ok ()

def packPath (entry : DirEntry) : Option PackPath :=
  match entry.fileName with
  | none => none
  | some name =>
    if entry.isFile && startsWith name "events-" && extension name = some "gtpack" then
      some ⟨entry.path, name⟩
    else none

/-- The pack files in name order; the first entry that cannot be read is an error. -/
def discoverPacks (host : E2eHost) (dir : String) : Except String (List PackPath) := do
  let entries ← host.readDir dir
  let entries ← entries.mapM id
  return (entries.filterMap packPath).mergeSort fun p q => decide (p.fileName ≤ q.fileName)

/-- What `run_e2e_with` does before its loop. -/
def preparePacks (host : E2eHost) (options : E2eOptions) : Except String (List PackPath) := do
  if options.live && options.dryRun then
    throw "--live conflicts with --dry-run"
  applyDryRunGuard host options
  let packs ← discoverPacks host options.packsDir
  if packs.isEmpty then
    throw ("no packs found in " ++ options.packsDir)
  return packs

def runPacks (host : E2eHost) (options : E2eOptions) :
    List PackPath → List PackReport → E2eProg ReplyScope (List PackReport)
  | [], reports => return reports
  | packPath :: packs, reports => do
    let report := reportToPackReport packPath (← runPack host options packPath)
    runPacks host options packs (reports ++ [report])

def saveReport (host : E2eHost) (options : E2eOptions) (report : E2eReport) :
    Except String E2eReport := do
  if let some path := options.reportPath then
    host.writeReport path report
  return report

def runE2eWith (host : E2eHost) (options : E2eOptions) :
    E2eProg ReplyScope (Except String E2eReport) :=
  match preparePacks host options with
  | .error err => return .error err
  | .ok packs => do
    let reports ← runPacks host options packs []
    return saveReport host options ⟨summarize reports, reports⟩

end GreenticEvents
