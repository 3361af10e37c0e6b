import GreenticEvents.E2e

namespace GreenticEvents
open Data Effects Prog

variable {ReplyScope : Type}

abbrev E2eLog (ReplyScope : Type) := List (Event (e2eInterface ReplyScope))

def RequirementsFixture.NoBlankKey (fixture : RequirementsFixture) : Prop :=
  (∀ key ∈ fixture.requiredConfigKeys, isBlank key = false) ∧
    ∀ key ∈ fixture.requiredSecretKeys, isBlank key = false

structure EventEnvelope.Complete (event : EventEnvelope) : Prop where
  topic : isBlank event.topic = false
  type : isBlank event.type = false
  subject : ∃ subject, event.subject = some subject ∧ isBlank subject = false
  tenant : isBlank event.tenant.tenant.raw = false

structure ChannelMessageEnvelope.Complete (msg : ChannelMessageEnvelope ReplyScope) : Prop where
  channel : isBlank msg.channel = false
  tenant : isBlank msg.tenant.tenant.raw = false

/-- Two equal plans for a provider, with the operations that the requirements ask for. -/
structure PlannedTwice (requirements : RequirementsFixture) where
  provider : EventProviderSpec
  plan : ProvisionPlan
  planAgain : ProvisionPlan
  same : plan.eq planAgain = true
  subscriptions : requirements.subscriptionsRequired = true → plan.subscriptions ≠ []
  webhooks : requirements.webhooksRequired = true → plan.webhooks ≠ []

def PlannedTwice.calls {requirements : RequirementsFixture} (pack : PackLoad) (setup : Json)
    (twice : PlannedTwice requirements) : E2eLog ReplyScope :=
  let inputs := setupInputs setup requirements twice.provider
  [⟨.plan pack inputs, .ok twice.plan⟩, ⟨.plan pack inputs, .ok twice.planAgain⟩]

section Met

variable (host : E2eHost) (pack : PackLoad) (providers : List EventProviderSpec) (live : Bool)

def RequirementsMet (fixture : RequirementsFixture) (log : E2eLog ReplyScope) : Prop :=
  log = [⟨.requirements pack (requirementsFlowId pack), .ok fixture⟩] ∧ fixture.NoBlankKey

def SetupMet (requirements : RequirementsFixture) (log : E2eLog ReplyScope) : Prop :=
  ∃ entries, loadFixture host pack "fixtures/setup.input.json" = some (.object entries) ∧
    ∃ plans : List (PlannedTwice requirements), plans.map PlannedTwice.provider = providers ∧
      log = plans.flatMap (PlannedTwice.calls pack (.object entries))

def IngestMet (log : E2eLog ReplyScope) : Prop :=
  ∃ events, log = [⟨.ingest pack providers live, .ok events⟩] ∧ events ≠ [] ∧
    ∀ event ∈ events, event.Complete

def EmitMet (log : E2eLog ReplyScope) : Prop :=
  ∃ messages, log = [⟨.emit pack providers live, .ok messages⟩] ∧ messages ≠ [] ∧
    ∀ msg ∈ messages, msg.Complete

def SyncMet (log : E2eLog ReplyScope) : Prop :=
  log = [⟨.sync pack providers live, .ok ()⟩]

/-- A stage makes its calls when it is wanted, and else none. -/
def WhenWanted (wanted : Prop) (met : E2eLog ReplyScope → Prop) (log : E2eLog ReplyScope) : Prop :=
  (wanted → met log) ∧ (¬ wanted → log = [])

/-- The calls of `log` and their answers are those of a pack that works. -/
def GreenRun (log : E2eLog ReplyScope) : Prop :=
  ∃ fixture requirements setup ingest emit sync,
    log = requirements ++ (setup ++ (ingest ++ (emit ++ sync))) ∧
    RequirementsMet pack fixture requirements ∧ SetupMet host pack providers fixture setup ∧
    WhenWanted (∃ p ∈ providers, p.kind = .source ∨ p.kind = .bridge)
      (IngestMet pack providers live) ingest ∧
    WhenWanted (∃ p ∈ providers, p.kind = .sink ∨ p.kind = .bridge)
      (EmitMet pack providers live) emit ∧
    WhenWanted ((∃ p ∈ providers, p.kind = .broker) ∨ fixture.subscriptionsRequired = true)
      (SyncMet pack providers live) sync

end Met

theorem check_bind_ok {β : Type} {x : Except Fault Unit} {f : Unit → Except Fault β} {b : β} :
    (x >>= f) = .ok b ↔ x = .ok () ∧ f () = .ok b := by
  rw [except_bind_ok]
  exact ⟨fun ⟨_, hx, hf⟩ => ⟨hx, hf⟩, fun ⟨hx, hf⟩ => ⟨(), hx, hf⟩⟩

theorem reject_ok {bad : Bool} {message : String} : reject bad message = .ok () ↔ bad = false := by
  cases bad with
  | true => simp [reject]
  | false => simp [reject]

theorem forM_ok {α : Type} {check : α → Except Fault Unit} {l : List α} :
    l.forM check = .ok () ↔ ∀ a ∈ l, check a = .ok () := by
  induction l with
  | nil => exact iff_of_true rfl (by simp)
  | cons a l ih =>
    rw [List.forall_mem_cons, ← ih]
    exact check_bind_ok

theorem validateRequirementsFixture_ok {fixture : RequirementsFixture} :
    validateRequirementsFixture fixture = .ok () ↔ fixture.NoBlankKey := by
  simp only [validateRequirementsFixture, check_bind_ok, forM_ok, reject_ok,
    RequirementsFixture.NoBlankKey]

theorem checkEvent_ok {event : EventEnvelope} : checkEvent event = .ok () ↔ event.Complete := by
  have hsubject : (event.subject.map isBlank).getD true = false ↔
      ∃ subject, event.subject = some subject ∧ isBlank subject = false := by
    cases event.subject with
    | none => simp
    | some subject => simp
  simp only [checkEvent, check_bind_ok, reject_ok, hsubject]
  exact ⟨fun ⟨topic, type, subject, tenant⟩ => ⟨topic, type, subject, tenant⟩,
    fun h => ⟨h.topic, h.type, h.subject, h.tenant⟩⟩

theorem checkMessage_ok {msg : ChannelMessageEnvelope ReplyScope} :
    checkMessage msg = .ok () ↔ msg.Complete := by
  simp only [checkMessage, check_bind_ok, reject_ok]
  exact ⟨fun ⟨channel, tenant⟩ => ⟨channel, tenant⟩, fun h => ⟨h.channel, h.tenant⟩⟩

theorem checkPlan_ok {requirements : RequirementsFixture} {plan planAgain : ProvisionPlan} :
    checkPlan requirements plan planAgain = .ok () ↔ plan.eq planAgain = true ∧
      (requirements.subscriptionsRequired = true → plan.subscriptions ≠ []) ∧
      (requirements.webhooksRequired = true → plan.webhooks ≠ []) := by
  simp only [checkPlan, check_bind_ok, reject_ok, Bool.not_eq_false', Bool.and_eq_false_imp,
    List.isEmpty_eq_false_iff]

/-- A list that has items, each of which passes the check. -/
theorem nonempty_forM_ok {α : Type} {check : α → Except Fault Unit} {Good : α → Prop}
    (hgood : ∀ a, check a = .ok () ↔ Good a) {l : List α} {message : String} :
    (reject l.isEmpty message >>= fun _ => l.forM check) = .ok () ↔
      l ≠ [] ∧ ∀ a ∈ l, Good a := by
  simp only [check_bind_ok, reject_ok, forM_ok, hgood, List.isEmpty_eq_false_iff]

section Stages

variable {host : E2eHost} {pack : PackLoad} {providers : List EventProviderSpec} {live : Bool}
  {log : E2eLog ReplyScope}

theorem requirements_succeeds {flowId : Option String} {P : RequirementsFixture → Prop} :
    Succeeds (E2eProg.requirements pack flowId) log P ↔
      ∃ fixture, log = [⟨.requirements pack flowId, .ok fixture⟩] ∧ P fixture :=
  succeeds_perform (I := e2eInterface ReplyScope) (.requirements pack flowId)
    (Equiv.refl (Except Fault RequirementsFixture))

theorem plan_succeeds {inputs : ProvisionInputs} {P : ProvisionPlan → Prop} :
    Succeeds (E2eProg.plan pack inputs) log P ↔
      ∃ plan, log = [⟨.plan pack inputs, .ok plan⟩] ∧ P plan :=
  succeeds_perform (I := e2eInterface ReplyScope) (.plan pack inputs)
    (Equiv.refl (Except Fault ProvisionPlan))

theorem ingest_succeeds {P : List EventEnvelope → Prop} :
    Succeeds (E2eProg.ingest pack providers live) log P ↔
      ∃ events, log = [⟨.ingest pack providers live, .ok events⟩] ∧ P events :=
  succeeds_perform (I := e2eInterface ReplyScope) (.ingest pack providers live)
    (Equiv.refl (Except Fault (List EventEnvelope)))

theorem emit_succeeds {P : List (ChannelMessageEnvelope ReplyScope) → Prop} :
    Succeeds (E2eProg.emit pack providers live) log P ↔
      ∃ messages, log = [⟨.emit pack providers live, .ok messages⟩] ∧ P messages :=
  succeeds_perform (I := e2eInterface ReplyScope) (.emit pack providers live)
    (Equiv.refl (Except Fault (List (ChannelMessageEnvelope ReplyScope))))

theorem sync_succeeds {P : Unit → Prop} :
    Succeeds (E2eProg.sync pack providers live) log P ↔
      ∃ result, log = [⟨.sync pack providers live, .ok result⟩] ∧ P result :=
  succeeds_perform (I := e2eInterface ReplyScope) (.sync pack providers live)
    (Equiv.refl (Except Fault Unit))

theorem runRequirements_succeeds {P : RequirementsResult → Prop} :
    Succeeds (runRequirements host pack (requirementsFlowId pack)) log P ↔
      ∃ fixture, RequirementsMet pack fixture log ∧
        P ⟨fixture, some (requirementsDiagnostic host (requirementsFlowId pack) fixture)⟩ := by
  simp only [runRequirements, succeeds_onSuccess, requirements_succeeds, pure_eq, succeeds_ret]
  constructor
  · rintro ⟨_, _, rfl, fixture, rfl, _, _, rfl, rfl, _, hkeys, rfl, result, hresult, hP⟩
    cases hresult
    exact ⟨fixture, ⟨by simp, validateRequirementsFixture_ok.mp hkeys⟩, hP⟩
  · rintro ⟨fixture, ⟨rfl, hkeys⟩, hP⟩
    exact ⟨_, [], by simp, fixture, rfl, [], [], rfl, rfl, (),
      validateRequirementsFixture_ok.mpr hkeys, rfl, _, rfl, hP⟩

theorem runIngest_succeeds :
    Succeeds (runIngest pack providers live) log (fun _ => True) ↔
      IngestMet pack providers live log := by
  simp only [runIngest, succeeds_onSuccess, ingest_succeeds, pure_eq, succeeds_ret]
  constructor
  · rintro ⟨_, _, rfl, events, rfl, rfl, _, hchecks, -⟩
    exact ⟨events, by simp, (nonempty_forM_ok fun _ => checkEvent_ok).mp hchecks⟩
  · rintro ⟨events, rfl, hevents⟩
    exact ⟨_, [], by simp, events, rfl, rfl, (),
      (nonempty_forM_ok fun _ => checkEvent_ok).mpr hevents, trivial⟩

theorem runEmit_succeeds :
    Succeeds (runEmit pack providers live) log (fun _ => True) ↔
      EmitMet pack providers live log := by
  simp only [runEmit, succeeds_onSuccess, emit_succeeds, pure_eq, succeeds_ret]
  constructor
  · rintro ⟨_, _, rfl, messages, rfl, rfl, _, hchecks, -⟩
    exact ⟨messages, by simp, (nonempty_forM_ok fun _ => checkMessage_ok).mp hchecks⟩
  · rintro ⟨messages, rfl, hmessages⟩
    exact ⟨_, [], by simp, messages, rfl, rfl, (),
      (nonempty_forM_ok fun _ => checkMessage_ok).mpr hmessages, trivial⟩

theorem runSubscriptions_succeeds :
    Succeeds (runSubscriptions pack providers live) log (fun _ => True) ↔
      SyncMet pack providers live log := by
  rw [runSubscriptions, sync_succeeds]
  exact ⟨fun ⟨_, h, _⟩ => h, fun h => ⟨(), h, trivial⟩⟩

/-- One round of the loop makes two calls for its provider. -/
theorem planProviders_step {setup : Json} {requirements : RequirementsFixture}
    {provider : EventProviderSpec} {summary result : SetupSummary} :
    Runs (planProviders pack setup requirements (provider :: providers) summary) log
        (ret (.ok result)) ↔
      ∃ (twice : PlannedTwice requirements) (rest : E2eLog ReplyScope),
        twice.provider = provider ∧ log = twice.calls pack setup ++ rest ∧
        Runs (planProviders pack setup requirements providers (summary.add twice.plan)) rest
          (ret (.ok result)) := by
  have hsucceeds {p : E2eProg ReplyScope (Except Fault SetupSummary)} {h : E2eLog ReplyScope} :
      Runs p h (ret (.ok result)) ↔ Succeeds p h (· = result) := by
    simp [Succeeds]
  rw [hsucceeds, planProviders]
  simp only [hsucceeds, succeeds_onSuccess, plan_succeeds, succeeds_ret]
  constructor
  · rintro ⟨_, _, rfl, plan, rfl, _, _, rfl, planAgain, rfl, _, rest, rfl, rfl, _, hcheck, hrest⟩
    obtain ⟨same, subscriptions, webhooks⟩ := checkPlan_ok.mp hcheck
    exact ⟨⟨provider, plan, planAgain, same, subscriptions, webhooks⟩, rest, rfl, rfl, hrest⟩
  · rintro ⟨twice, rest, rfl, rfl, hrest⟩
    have hcheck := checkPlan_ok.mpr ⟨twice.same, twice.subscriptions, twice.webhooks⟩
    exact ⟨[_], _ :: rest, rfl, twice.plan, rfl, [_], rest, rfl, twice.planAgain, rfl, [], rest,
      rfl, rfl, (), hcheck, hrest⟩

theorem runSetup_succeeds {requirements : RequirementsFixture} :
    Succeeds (runSetup host pack requirements providers) log (fun _ => True) ↔
      SetupMet host pack providers requirements log := by
  have hloop (setup : Json) : Succeeds (planProviders pack setup requirements providers
      ⟨0, 0, 0, 0⟩) log (fun _ => True) ↔
      ∃ plans : List (PlannedTwice requirements), plans.map PlannedTwice.provider = providers ∧
        log = plans.flatMap (PlannedTwice.calls pack setup) := by
    simp only [Succeeds, and_true]
    constructor
    · rintro ⟨summary, hr⟩
      obtain ⟨plans, hproviders, hlog, -⟩ := (loop_runs (planProviders pack setup requirements)
        (fun _ => rfl) fun _ _ _ _ => planProviders_step).mp hr
      exact ⟨plans, hproviders, hlog⟩
    · rintro ⟨plans, hproviders, hlog⟩
      exact ⟨_, (loop_runs (planProviders pack setup requirements)
        (fun _ => rfl) fun _ _ _ _ => planProviders_step).mpr ⟨plans, hproviders, hlog, rfl⟩⟩
  unfold runSetup SetupMet
  cases hsetup : loadFixture host pack "fixtures/setup.input.json" with
  | none => simp [succeeds_ret]
  | some setup =>
    cases setup with
    | object entries => simp [hloop]
    | _ => simp [succeeds_ret]

/-- A stage that does not fail was skipped, or succeeded. -/
theorem runStage_succeeds {α : Type} {wanted : Bool} {stage : String}
    {diagnose : α → List E2eDiagnostic} {p : E2eProg ReplyScope (Except Fault α)} :
    Succeeds (runStage wanted stage diagnose p) log (fun out => out.1 ≠ .fail) ↔
      WhenWanted (wanted = true) (Succeeds p · fun _ => True) log := by
  cases wanted with
  | false =>
    rw [runStage, if_neg Bool.false_ne_true, pure_eq, succeeds_ret]
    constructor
    · rintro ⟨rfl, -⟩
      exact ⟨nofun, fun _ => rfl⟩
    · intro h
      exact ⟨h.2 Bool.false_ne_true, _, rfl, nofun⟩
  | true =>
    rw [runStage, if_pos rfl]
    constructor
    · rintro ⟨out, hr, hout⟩
      refine ⟨fun _ => ?_, fun h => absurd rfl h⟩
      obtain ⟨x, h₁, h₂, rfl, hp, hrest⟩ := runs_bind_ret hr
      cases x with
      | ok a =>
        obtain ⟨rfl, -⟩ := runs_ret.mp hrest
        exact ⟨a, by simpa using hp, trivial⟩
      | error fault =>
        cases fault with
        | elapsed =>
          -- only a time limit keeps the stage from an outcome
          obtain ⟨-, hret⟩ := runs_ret.mp hrest
          cases hret
        | _ =>
          obtain ⟨-, hret⟩ := runs_ret.mp hrest
          cases hret
          exact absurd rfl hout
    · intro h
      obtain ⟨a, hp, -⟩ := h.1 rfl
      refine ⟨(.pass, diagnose a), ?_, nofun⟩
      rw [← List.append_nil log]
      exact bind_runs hp (.refl _)

theorem requirementsStage_succeeds {P : RequirementsResult → Prop} :
    Succeeds (requirementsStage host pack) log P ↔
      ∃ fixture, RequirementsMet pack fixture log ∧
        P ⟨fixture, some (requirementsDiagnostic host (requirementsFlowId pack) fixture)⟩ := by
  rw [← runRequirements_succeeds]
  constructor
  · rintro ⟨result, hr, hP⟩
    obtain ⟨x, h₁, h₂, rfl, hp, hrest⟩ := runs_bind_ret hr
    obtain ⟨rfl, hret⟩ := runs_ret.mp hrest
    cases x with
    | ok result' =>
      cases hret
      exact ⟨result, by simpa using hp, hP⟩
    | error fault =>
      cases fault with
      | _ => cases hret
  · rintro ⟨result, hr, hP⟩
    refine ⟨result, ?_, hP⟩
    rw [← List.append_nil log]
    exact bind_runs hr (.refl _)

theorem overallStatus_pass {setup ingest emit subscriptions : StageStatus} :
    overallStatus ⟨.pass, setup, ingest, emit, subscriptions⟩ = .pass ↔
      setup ≠ .fail ∧ ingest ≠ .fail ∧ emit ≠ .fail ∧ subscriptions ≠ .fail := by
  simp [overallStatus, StageReport.statuses, not_or, eq_comm]

theorem overallStatus_ne_skip {setup ingest emit subscriptions : StageStatus} :
    overallStatus ⟨.pass, setup, ingest, emit, subscriptions⟩ ≠ .skip := by
  rw [overallStatus]
  split_ifs with hfail hskip
  · exact nofun
  · simp [StageReport.statuses] at hskip
  · exact nofun

theorem hasKind_eq_true {kind : EventProviderKind} :
    hasKind providers kind = true ↔ ∃ p ∈ providers, p.kind = kind := by
  simp [hasKind]

theorem WhenWanted.congr {wanted wanted' : Prop} {met met' : E2eLog ReplyScope → Prop}
    (hw : wanted ↔ wanted') (hm : met log ↔ met' log) :
    WhenWanted wanted met log ↔ WhenWanted wanted' met' log := by
  rw [WhenWanted, WhenWanted, hw, hm]

/-- The report of the stages passes when the log is one of a pack that works. -/
theorem runStages_pass {options : E2eOptions} :
    Succeeds (runStages host options pack providers) log (fun report => report.status = .pass) ↔
      GreenRun host pack providers options.live log := by
  have hsetup {requirements : RequirementsFixture} {h : E2eLog ReplyScope} :
      WhenWanted (true = true) (Succeeds (runSetup host pack requirements providers) ·
        fun _ => True) h ↔ SetupMet host pack providers requirements h := by
    rw [← runSetup_succeeds]
    exact ⟨fun hmet => hmet.1 rfl, fun hmet => ⟨fun _ => hmet, fun hn => absurd rfl hn⟩⟩
  have hingest {h : E2eLog ReplyScope} :
      WhenWanted ((hasKind providers .source || hasKind providers .bridge) = true)
        (Succeeds (runIngest pack providers options.live) · fun _ => True) h ↔
      WhenWanted (∃ p ∈ providers, p.kind = .source ∨ p.kind = .bridge)
        (IngestMet pack providers options.live) h := by
    apply WhenWanted.congr _ runIngest_succeeds
    simp only [Bool.or_eq_true, hasKind_eq_true, and_or_left, exists_or]
  have hemit {h : E2eLog ReplyScope} :
      WhenWanted ((hasKind providers .sink || hasKind providers .bridge) = true)
        (Succeeds (runEmit pack providers options.live) · fun _ => True) h ↔
      WhenWanted (∃ p ∈ providers, p.kind = .sink ∨ p.kind = .bridge)
        (EmitMet pack providers options.live) h := by
    apply WhenWanted.congr _ runEmit_succeeds
    simp only [Bool.or_eq_true, hasKind_eq_true, and_or_left, exists_or]
  have hsync {fixture : RequirementsFixture} {h : E2eLog ReplyScope} :
      WhenWanted ((hasKind providers .broker || fixture.subscriptionsRequired) = true)
        (Succeeds (runSubscriptions pack providers options.live) · fun _ => True) h ↔
      WhenWanted ((∃ p ∈ providers, p.kind = .broker) ∨ fixture.subscriptionsRequired = true)
        (SyncMet pack providers options.live) h := by
    apply WhenWanted.congr _ runSubscriptions_succeeds
    rw [Bool.or_eq_true, hasKind_eq_true]
  -- one piece of the log a stage, in the order of the source
  simp only [runStages, succeeds_onSuccess, requirementsStage_succeeds, pure_eq, succeeds_ret]
  constructor
  · rintro ⟨h₁, _, rfl, fixture, hrequirements, h₂, _, rfl, setup, hr₂, h₃, _, rfl, ingest, hr₃,
      h₄, _, rfl, emit, hr₄, h₅, _, rfl, sync, hr₅, rfl, report, hreport, hstatus⟩
    cases hreport
    obtain ⟨hne₂, hne₃, hne₄, hne₅⟩ := overallStatus_pass.mp hstatus
    exact ⟨fixture, h₁, h₂, h₃, h₄, h₅, by simp, hrequirements,
      hsetup.mp (runStage_succeeds.mp ⟨setup, hr₂, hne₂⟩),
      hingest.mp (runStage_succeeds.mp ⟨ingest, hr₃, hne₃⟩),
      hemit.mp (runStage_succeeds.mp ⟨emit, hr₄, hne₄⟩),
      hsync.mp (runStage_succeeds.mp ⟨sync, hr₅, hne₅⟩)⟩
  · rintro ⟨fixture, h₁, h₂, h₃, h₄, h₅, rfl, hrequirements, hmet₂, hmet₃, hmet₄, hmet₅⟩
    obtain ⟨setup, hr₂, hne₂⟩ := runStage_succeeds.mpr (hsetup.mpr hmet₂)
    obtain ⟨ingest, hr₃, hne₃⟩ := runStage_succeeds.mpr (hingest.mpr hmet₃)
    obtain ⟨emit, hr₄, hne₄⟩ := runStage_succeeds.mpr (hemit.mpr hmet₄)
    obtain ⟨sync, hr₅, hne₅⟩ := runStage_succeeds.mpr (hsync.mpr hmet₅)
    exact ⟨h₁, _, rfl, fixture, hrequirements, h₂, _, rfl, setup, hr₂, h₃, _, rfl, ingest, hr₃,
      h₄, _, rfl, emit, hr₄, h₅, [], by simp, sync, hr₅, rfl, _, rfl,
      overallStatus_pass.mpr ⟨hne₂, hne₃, hne₄, hne₅⟩⟩

theorem runStages_ne_skip {options : E2eOptions} {report : PackReport}
    (hr : Runs (runStages host options pack providers) log (ret (.ok report))) :
    report.status ≠ .skip := by
  have hsucceeds : Succeeds (runStages host options pack providers) log (· = report) :=
    ⟨report, hr, rfl⟩
  obtain ⟨requirements, _, hsucceeds⟩ := hsucceeds.continuation
  obtain ⟨setup, _, hsucceeds⟩ := hsucceeds.continuation
  obtain ⟨ingest, _, hsucceeds⟩ := hsucceeds.continuation
  obtain ⟨emit, _, hsucceeds⟩ := hsucceeds.continuation
  obtain ⟨sync, _, hsucceeds⟩ := hsucceeds.continuation
  obtain ⟨-, report', hreport, rfl⟩ := succeeds_ret.mp hsucceeds
  cases hreport
  exact overallStatus_ne_skip

end Stages

section Packs

variable {host : E2eHost} {options : E2eOptions}

/-- A pack counts as a pass or as a fail. -/
theorem packReport_pass_or_fail {packPath : PackPath} {log : E2eLog ReplyScope}
    {result : Except Stop PackReport}
    (hr : Runs (runPack host options packPath) log (ret result)) :
    (reportToPackReport packPath result).status = .pass ∨
      (reportToPackReport packPath result).status = .fail := by
  cases result with
  | error stop =>
    cases stop with
    | error message => exact .inr rfl
    | elapsed => exact .inr rfl
  | ok report =>
    suffices hskip : report.status ≠ .skip by
      show report.status = .pass ∨ report.status = .fail
      cases hstatus : report.status with
      | pass => exact .inl rfl
      | fail => exact .inr rfl
      | skip => exact absurd hstatus hskip
    have hfailed (stop : Stop) :
        ¬ Runs (ret (.error stop) : E2eProg ReplyScope (Except Stop PackReport)) log
          (ret (.ok report)) := by
      intro herror
      obtain ⟨-, hret⟩ := runs_ret.mp herror
      cases hret
    unfold runPack at hr
    split at hr
    · exact absurd hr (hfailed _)
    · split at hr
      · exact absurd hr (hfailed _)
      · dsimp only at hr
        split_ifs at hr
        · exact absurd hr (hfailed _)
        · exact runStages_ne_skip hr

/-- An opened pack passes exactly when its calls and their answers are those of a pack that
works. -/
theorem packReport_pass_iff {packPath : PackPath} {log : E2eLog ReplyScope}
    {result : Except Stop PackReport} {pack : PackLoad} {specs : List EventProviderSpec}
    (hr : Runs (runPack host options packPath) log (ret result))
    (hopen : host.openPack packPath.path = some pack)
    (hevents : pack.manifestMeta.events = some specs)
    (hselected : selectProviders options.providerFilter specs ≠ []) :
    (reportToPackReport packPath result).status = .pass ↔
      GreenRun host pack (selectProviders options.providerFilter specs) options.live log := by
  have hrun : (runPack host options packPath : E2eProg ReplyScope (Except Stop PackReport)) =
      runStages host options pack (selectProviders options.providerFilter specs) := by
    have hempty : (selectProviders options.providerFilter specs).isEmpty = false :=
      List.isEmpty_eq_false_iff.mpr hselected
    simp [runPack, hopen, hevents, hempty]
  rw [hrun] at hr
  rw [← runStages_pass]
  constructor
  · intro hpass
    cases result with
    | ok report => exact ⟨report, hr, hpass⟩
    | error stop =>
      cases stop with
      | _ => cases hpass
  · rintro ⟨report, hr', hpass⟩
    cases hr.unique hr'
    exact hpass

variable (ReplyScope host options) in
structure PackRun where
  packPath : PackPath
  calls : E2eLog ReplyScope
  result : Except Stop PackReport
  runs : Runs (runPack host options packPath) calls (ret result)

def PackRun.report (run : PackRun ReplyScope host options) : PackReport :=
  reportToPackReport run.packPath run.result

theorem runPacks_step {packPath : PackPath} {packs : List PackPath} {reports out : List PackReport}
    {log : E2eLog ReplyScope} :
    Runs (runPacks host options (packPath :: packs) reports) log (ret out) ↔
      ∃ (run : PackRun ReplyScope host options) (rest : E2eLog ReplyScope),
        run.packPath = packPath ∧ log = run.calls ++ rest ∧
        Runs (runPacks host options packs (reports ++ [run.report])) rest (ret out) := by
  constructor
  · intro hr
    obtain ⟨result, calls, rest, rfl, hpack, hrest⟩ := runs_bind_ret hr
    exact ⟨⟨packPath, calls, result, hpack⟩, rest, rfl, rfl, hrest⟩
  · rintro ⟨run, rest, rfl, rfl, hrest⟩
    exact bind_runs run.runs hrest

theorem runPacks_runs {packs : List PackPath} {out : List PackReport} {log : E2eLog ReplyScope}
    (hr : Runs (runPacks host options packs []) log (ret out)) :
    ∃ runs : List (PackRun ReplyScope host options), runs.map PackRun.packPath = packs ∧
      log = runs.flatMap PackRun.calls ∧ out = runs.map PackRun.report := by
  have hreports (runs : List (PackRun ReplyScope host options)) (reports : List PackReport) :
      runs.foldl (fun reports run => reports ++ [run.report]) reports =
        reports ++ runs.map PackRun.report := by
    induction runs generalizing reports with
    | nil => simp
    | cons run runs ih => rw [List.foldl_cons, ih, List.append_assoc, List.map_cons]; rfl
  obtain ⟨runs, hpacks, hlog, hout⟩ := (loop_runs (runPacks host options) (fun _ => rfl)
    fun _ _ _ _ => runPacks_step).mp hr
  exact ⟨runs, hpacks, hlog, hout.trans (hreports runs [])⟩

def countStatus (status : StageStatus) (reports : List PackReport) : ℕ :=
  reports.countP (·.status = status)

theorem countStatus_cons (status : StageStatus) (report : PackReport) (reports : List PackReport) :
    countStatus status (report :: reports) =
      countStatus status reports + if report.status = status then 1 else 0 := by
  simp [countStatus, List.countP_cons]

theorem summarize_eq (reports : List PackReport) : summarize reports =
    ⟨reports.length, countStatus .pass reports, countStatus .fail reports,
      countStatus .skip reports⟩ := by
  have hcount (summary : E2eSummary) : reports.foldl E2eSummary.count summary =
      ⟨summary.total, summary.pass + countStatus .pass reports,
        summary.fail + countStatus .fail reports, summary.skip + countStatus .skip reports⟩ := by
    induction reports generalizing summary with
    | nil => rfl
    | cons report reports ih =>
      rw [List.foldl_cons, ih]
      cases hstatus : report.status with
      | _ =>
        simp [E2eSummary.count, countStatus_cons, hstatus, ← Nat.add_assoc, Nat.add_right_comm _ 1]
  rw [summarize, hcount]
  simp

theorem count_statuses (reports : List PackReport) :
    reports.length =
      countStatus .pass reports + countStatus .fail reports + countStatus .skip reports := by
  induction reports with
  | nil => rfl
  | cons report reports ih =>
    simp only [countStatus_cons, List.length_cons, ih]
    cases report.status with
    | _ =>
      simp only [reduceCtorEq, ↓reduceIte]
      omega

theorem saveReport_ok {report saved : E2eReport}
    (h : saveReport host options report = .ok saved) : report = saved := by
  unfold saveReport at h
  cases hpath : options.reportPath with
  | none =>
    rw [hpath] at h
    exact Except.ok.inj h
  | some path =>
    rw [hpath] at h
    obtain ⟨_, -, h⟩ := except_bind_ok.mp h
    exact Except.ok.inj h

/-- When the harness returns a report, every pack that opens and has a selected provider counts
as a pass exactly when its calls and their answers are those of a pack that works, and else as
a fail; the three counts add up to the number of packs. -/
theorem runE2eWith_no_false_green {log : E2eLog ReplyScope} {report : E2eReport}
    (hr : Runs (runE2eWith host options) log (ret (.ok report))) :
    ∃ (packs : List PackPath) (runs : List (PackRun ReplyScope host options)),
      preparePacks host options = .ok packs ∧ runs.map PackRun.packPath = packs ∧
      log = runs.flatMap PackRun.calls ∧ report.packs = runs.map PackRun.report ∧
      (∀ run ∈ runs, ∀ pack specs, host.openPack run.packPath.path = some pack →
        pack.manifestMeta.events = some specs →
        selectProviders options.providerFilter specs ≠ [] →
        (run.report.status = .pass ↔ GreenRun host pack
          (selectProviders options.providerFilter specs) options.live run.calls) ∧
        (run.report.status ≠ .pass → run.report.status = .fail)) ∧
      report.summary.pass = countStatus .pass report.packs ∧
      report.summary.fail = countStatus .fail report.packs ∧
      report.summary.total = packs.length ∧
      report.summary.total = report.summary.pass + report.summary.fail + report.summary.skip := by
  unfold runE2eWith at hr
  cases hpacks : preparePacks host options with
  | error err =>
    rw [hpacks] at hr
    obtain ⟨-, hret⟩ := runs_ret.mp hr
    cases hret
  | ok packs =>
    rw [hpacks] at hr
    obtain ⟨reports, calls, h, rfl, hrun, hsave⟩ := runs_bind_ret hr
    obtain ⟨rfl, hret⟩ := runs_ret.mp hsave
    obtain rfl : (⟨summarize reports, reports⟩ : E2eReport) = report := by
      injection hret with hret
      exact saveReport_ok hret.symm
    obtain ⟨runs, hpaths, rfl, rfl⟩ := runPacks_runs hrun
    refine ⟨packs, runs, rfl, hpaths, by simp, rfl, ?_, ?_⟩
    · intro run hmem pack specs hopen hevents hselected
      exact ⟨packReport_pass_iff run.runs hopen hevents hselected,
        (packReport_pass_or_fail run.runs).resolve_left⟩
    · simp only [summarize_eq]
      refine ⟨trivial, trivial, ?_, count_statuses _⟩
      rw [← hpaths, List.length_map, List.length_map]

end Packs

def dummyProvider : EventProviderSpec where
  name := "dummy"
  kind := .bridge
  component := "dummy@0.1.0"
  defaultFlow := none
  customFlow := none
  capabilities := ⟨none, none, none, ["greentic.test"]⟩

def dummyPack : PackLoad where
  manifestMeta := ⟨"events-dummy", "0.1.0", some [dummyProvider], ["main"]⟩
  flows := []
  files := BTreeMap.empty.insert "fixtures/setup.input.json" [0x7b, 0x7d]

def dummyHost : E2eHost where
  allowWrite := none
  readDir dir := .ok [.ok ⟨dir ++ "/events-dummy.gtpack", some "events-dummy.gtpack", true⟩]
  openPack path := if path = "packs/events-dummy.gtpack" then some dummyPack else none
  fromSlice bytes := if bytes = [0x7b, 0x7d] then some (.object []) else none
  debugText s := "\"" ++ s ++ "\""
  writeReport _ _ := .ok ()

def dummyOptions : E2eOptions := ⟨"packs", none, none, true, false⟩

def dummyFixture : RequirementsFixture := ⟨["api_key"], ["token"], false, false⟩

def dummyTwice : PlannedTwice dummyFixture where
  provider := dummyProvider
  plan := ⟨none, none, [], []⟩
  planAgain := ⟨none, none, [], []⟩
  same := rfl
  subscriptions := nofun
  webhooks := nofun

def dummyEvent : EventEnvelope := { order tenantA with subject := some "session-1" }

def dummyCalls : E2eLog Unit :=
  [⟨.requirements dummyPack none, .ok dummyFixture⟩] ++ (dummyTwice.calls dummyPack (.object []) ++
    ([⟨.ingest dummyPack [dummyProvider] false, .ok [dummyEvent]⟩] ++
      ([⟨.emit dummyPack [dummyProvider] false, .ok [correlatedMessage]⟩] ++ [])))

theorem dummyCalls_green : GreenRun dummyHost dummyPack [dummyProvider] false dummyCalls := by
  have hbroker : ¬ ((∃ p ∈ [dummyProvider], p.kind = .broker) ∨
      dummyFixture.subscriptionsRequired = true) := by decide
  have hkeys : dummyFixture.NoBlankKey := ⟨by decide, by decide⟩
  have hevent : dummyEvent.Complete :=
    ⟨by decide, by decide, ⟨"session-1", rfl, by decide⟩, by decide⟩
  have hmessage : correlatedMessage.Complete := ⟨by decide, by decide⟩
  refine ⟨dummyFixture, _, _, _, _, _, rfl, ⟨rfl, hkeys⟩, ⟨[], rfl, [dummyTwice], rfl, rfl⟩,
    ⟨fun _ => ⟨_, rfl, by simp, by simpa using hevent⟩, fun h => absurd ?_ h⟩,
    ⟨fun _ => ⟨_, rfl, by simp, by simpa using hmessage⟩, fun h => absurd ?_ h⟩,
    ⟨fun h => absurd h hbroker, fun _ => rfl⟩⟩
  · exact ⟨dummyProvider, by simp, .inr rfl⟩
  · exact ⟨dummyProvider, by simp, .inr rfl⟩

def dummyPath : PackPath := ⟨"packs/events-dummy.gtpack", "events-dummy.gtpack"⟩

theorem preparePacks_dummy : preparePacks dummyHost dummyOptions = .ok [dummyPath] := by
  have hsorted : (List.filterMap packPath [⟨"packs/events-dummy.gtpack",
      some "events-dummy.gtpack", true⟩]).mergeSort (fun p q => decide (p.fileName ≤ q.fileName)) =
        [dummyPath] :=
    List.mergeSort_singleton dummyPath
  have hdiscover : discoverPacks dummyHost "packs" = .ok [dummyPath] := congrArg Except.ok hsorted
  show (discoverPacks dummyHost "packs" >>= fun packs =>
    if packs.isEmpty then throw ("no packs found in " ++ "packs") else pure packs) = _
  rw [hdiscover]
  rfl

theorem runE2eWith_no_false_green_dummy :
    ∃ report, Runs (runE2eWith dummyHost dummyOptions) dummyCalls (ret (.ok report)) ∧
      report.summary.total = 1 ∧ report.packs.map PackReport.status = [.pass] := by
  have hstages : Succeeds (runStages dummyHost dummyOptions dummyPack [dummyProvider]) dummyCalls
      fun report => report.status = .pass := runStages_pass.mpr dummyCalls_green
  obtain ⟨packReport, hstages, -⟩ := hstages
  have hpack : Runs (runPack dummyHost dummyOptions dummyPath) dummyCalls
    (ret (.ok packReport)) := hstages
  have hpacks : Runs (runPacks dummyHost dummyOptions [dummyPath] []) dummyCalls
      (ret [packReport]) :=
    runPacks_step.mpr ⟨⟨dummyPath, _, _, hpack⟩, [], rfl, (List.append_nil _).symm, .refl _⟩
  have hrun : Runs (runE2eWith dummyHost dummyOptions) dummyCalls
      (ret (.ok ⟨summarize [packReport], [packReport]⟩)) := by
    rw [runE2eWith, preparePacks_dummy, ← List.append_nil dummyCalls]
    exact bind_runs hpacks (.refl _)
  refine ⟨_, hrun, ?_⟩
  obtain ⟨packs, runs, hprepared, hpaths, hcalls, hreports, hgreen, -, -, htotal, -⟩ :=
    runE2eWith_no_false_green hrun
  rw [preparePacks_dummy] at hprepared
  cases hprepared
  obtain ⟨run, rest, rfl, hpath, hrest⟩ := List.map_eq_cons_iff.mp hpaths
  obtain rfl := List.map_eq_nil_iff.mp hrest
  have hcalls : dummyCalls = run.calls := by simpa using hcalls
  refine ⟨htotal, ?_⟩
  rw [hreports, List.map_singleton, List.map_singleton, List.singleton_inj]
  apply (hgreen run List.mem_cons_self dummyPack [dummyProvider] (by rw [hpath]; rfl) rfl
    (by simp [dummyOptions, selectProviders])).1.mpr
  rw [← hcalls]
  exact dummyCalls_green

end GreenticEvents
