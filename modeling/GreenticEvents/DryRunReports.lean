import GreenticEvents.DefaultRunners
import GreenticEvents.Harness
import GreenticEvents.SubscriptionVerdict

namespace GreenticEvents
open Data Effects Prog

theorem Number.eq_refl (n : Number) : n.eq n = true := by
  cases n <;> simp [Number.eq]

mutual

theorem Json.eq_refl (value : Json) : value.eq value = true := by
  cases value with
  | null => simp [Json.eq]
  | bool b => simp [Json.eq]
  | number n => simp [Json.eq, Number.eq_refl]
  | string s => simp [Json.eq]
  | array values => simp [Json.eq, Json.eqValues_refl values]
  | object entries => simp [Json.eq, Json.eqEntries_refl entries]

theorem Json.eqValues_refl (values : List Json) : Json.eqValues values values = true := by
  cases values with
  | nil => simp [Json.eqValues]
  | cons value values => simp [Json.eqValues, Json.eq_refl value, Json.eqValues_refl values]

theorem Json.eqEntries_refl (entries : List (String × Json)) :
    Json.eqEntries entries entries = true := by
  cases entries with
  | nil => simp [Json.eqEntries]
  | cons entry entries =>
    simp [Json.eqEntries, Json.eq_refl entry.2, Json.eqEntries_refl entries]

end

/-- No plan differs from itself: a float that is not a number is no JSON value. -/
theorem ProvisionPlan.eq_refl (plan : ProvisionPlan) : plan.eq plan = true := by
  have hpatch (patch : Option Json) : patchEq patch patch = true := by
    cases patch with
    | none => rfl
    | some value => exact Json.eq_refl value
  simp [ProvisionPlan.eq, hpatch]

section Answers

variable {ReplyScope : Type} {host : RunnerHost ReplyScope} {pack : PackLoad}
  {providers : List EventProviderSpec} {piece : List (Event hostInterface)}

theorem faulty_ok {α : Type} {p : HostProg (Except String α)} {a : α} :
    Runs (faulty p) piece (ret (.ok a)) ↔ Runs p piece (ret (.ok a)) := by
  constructor
  · intro hr
    obtain ⟨x, h₁, h₂, rfl, hp, hrest⟩ := runs_bind_ret hr
    obtain ⟨rfl, hret⟩ := runs_ret.mp hrest
    injection hret with hret
    rw [mapError_ok.mp hret.symm] at hp
    simpa using hp
  · intro hp
    rw [← List.append_nil piece]
    exact bind_runs hp (.refl _)

theorem faulty_runs {α : Type} {x : Except String α} {a : α} :
    Runs (faulty (ret x)) piece (ret (.ok a)) ↔ piece = [] ∧ x = .ok a := by
  rw [faulty_ok, runs_ret, Prog.ret.injEq, eq_comm (a := x)]

theorem bridgeFailed_ok {α : Type} {message : String} {x : Except String α} {a : α} :
    bridgeFailed message (x.mapError EventBusError.bridgeError) = .ok a ↔ x = .ok a := by
  cases x with
  | error err => simp [bridgeFailed, Except.mapError]
  | ok b => simp [bridgeFailed, Except.mapError]

variable (host pack providers) in
theorem fixtureIngest_returns : ∃ x : Except String (List EventEnvelope),
    (fixtureIngest host pack providers : HostProg _) = ret x ∧ ∀ events, x = .ok events ↔
      ∃ message id payload, ingestMessage host pack = .ok message ∧
        host.eventId ("evt-" ++ message.id) = .ok id ∧ host.messageToValue message = .ok payload ∧
        events = [ingestedEvent (providerName .source providers) message id payload] := by
  simp only [fixtureIngest, BridgeService.handleMessage,
    BridgeRegistry.messageToEvent_register_self]
  cases hmessage : ingestMessage host pack with
  | error err => exact ⟨.error err, rfl, by simp⟩
  | ok message =>
    have hbridge : (dryRunIngest host (providerName .source providers) message : HostProg _) =
      ret _ := rfl
    refine ⟨_, congrArg (fun p => p >>= fun r => ret (bridgeFailed "ingest bridge failed" r))
      (callBridge_ret "ingest" hbridge), fun events => ?_⟩
    rw [bridgeFailed_ok]
    simp only [except_bind_ok]
    constructor
    · rintro ⟨id, hid, payload, hpayload, hevents⟩
      cases hevents
      exact ⟨message, id, payload, rfl, hid, hpayload, rfl⟩
    · rintro ⟨message', id, payload, hsame, hid, hpayload, rfl⟩
      cases hsame
      exact ⟨id, hid, payload, hpayload, rfl⟩

variable (host pack providers) in
theorem fixtureEmit_returns : ∃ x : Except String (List (ChannelMessageEnvelope ReplyScope)),
    (fixtureEmit host pack providers : HostProg _) = ret x ∧ ∀ messages, x = .ok messages ↔
      ∃ event, emitEvent host pack = .ok event ∧
        messages = [emittedMessage host (providerName .sink providers) event] := by
  simp only [fixtureEmit, BridgeService.handleEvent, BridgeRegistry.eventToMessage_register_self]
  cases hevent : emitEvent host pack with
  | error err => exact ⟨.error err, rfl, by simp⟩
  | ok event =>
    have hbridge : (dryRunEmit host (providerName .sink providers) event : HostProg _) =
      ret _ := rfl
    refine ⟨_, congrArg (fun p => p >>= fun r => ret (bridgeFailed "emit bridge failed" r))
      (callBridge_ret "emit" hbridge), fun messages => ?_⟩
    rw [bridgeFailed_ok]
    simp [eq_comm]

theorem not_isBlank_append (s : String) {t : String} (h : isBlank t = false) :
    isBlank (s ++ t) = false := by
  rw [isBlank, String.toList_append, List.all_append, ← isBlank, ← isBlank, h, Bool.and_false]

theorem ingestedEvent_complete {name : String} {message : ChannelMessageEnvelope ReplyScope}
    {id : EventId} {payload : Json} : (ingestedEvent name message id payload).Complete ↔
      isBlank message.sessionId = false ∧ isBlank message.tenant.tenant.raw = false := by
  constructor
  · rintro ⟨-, -, ⟨subject, hsubject, hblank⟩, htenant⟩
    cases hsubject
    exact ⟨hblank, htenant⟩
  · rintro ⟨hsession, htenant⟩
    have htype : isBlank "greentic.events.ingest" = false := by decide
    exact ⟨not_isBlank_append name (by decide), htype, ⟨_, rfl, hsession⟩, htenant⟩

theorem emittedMessage_complete {name : String} {event : EventEnvelope} :
    (emittedMessage host name event).Complete ↔ isBlank event.tenant.tenant.raw = false :=
  ⟨fun h => h.tenant, fun h => ⟨not_isBlank_append name (by decide), h⟩⟩

/-- The message of the fixture can be made into an event that the harness accepts. -/
def IngestWorks (host : RunnerHost ReplyScope) (pack : PackLoad) : Prop :=
  ∃ message id payload, ingestMessage host pack = .ok message ∧
    host.eventId ("evt-" ++ message.id) = .ok id ∧ host.messageToValue message = .ok payload ∧
    isBlank message.sessionId = false ∧ isBlank message.tenant.tenant.raw = false

def EmitWorks (host : RunnerHost ReplyScope) (pack : PackLoad) : Prop :=
  ∃ event, emitEvent host pack = .ok event ∧ isBlank event.tenant.tenant.raw = false

theorem ingestMet_answered : (∃ log, IngestMet pack providers false log ∧
    Fulfilled (defaultRunner host) log piece) ↔ piece = [] ∧ IngestWorks host pack := by
  obtain ⟨x, hx, hevents⟩ := fixtureIngest_returns host pack providers
  have hanswer {events : List EventEnvelope} : Fulfilled (defaultRunner host)
      ([⟨.ingest pack providers false, .ok events⟩] : E2eLog ReplyScope) piece ↔
        piece = [] ∧ x = .ok events := by
    rw [fulfilled_singleton, ← faulty_runs, ← hx]
    exact Iff.rfl
  constructor
  · rintro ⟨_, ⟨events, rfl, -, hcomplete⟩, hanswered⟩
    obtain ⟨rfl, hok⟩ := hanswer.mp hanswered
    obtain ⟨message, id, payload, hmessage, hid, hpayload, rfl⟩ := (hevents events).mp hok
    have hblank := ingestedEvent_complete.mp (hcomplete _ List.mem_cons_self)
    exact ⟨rfl, message, id, payload, hmessage, hid, hpayload, hblank⟩
  · rintro ⟨rfl, message, id, payload, hmessage, hid, hpayload, hblank⟩
    have hok := (hevents _).mpr ⟨message, id, payload, hmessage, hid, hpayload, rfl⟩
    refine ⟨_, ⟨_, rfl, List.cons_ne_nil _ _, ?_⟩, hanswer.mpr ⟨rfl, hok⟩⟩
    exact List.forall_mem_singleton.mpr (ingestedEvent_complete.mpr hblank)

theorem emitMet_answered : (∃ log, EmitMet pack providers false log ∧
    Fulfilled (defaultRunner host) log piece) ↔ piece = [] ∧ EmitWorks host pack := by
  obtain ⟨x, hx, hmessages⟩ := fixtureEmit_returns host pack providers
  have hanswer {messages : List (ChannelMessageEnvelope ReplyScope)} :
      Fulfilled (defaultRunner host)
        ([⟨.emit pack providers false, .ok messages⟩] : E2eLog ReplyScope) piece ↔
          piece = [] ∧ x = .ok messages := by
    rw [fulfilled_singleton, ← faulty_runs, ← hx]
    exact Iff.rfl
  constructor
  · rintro ⟨_, ⟨messages, rfl, -, hcomplete⟩, hanswered⟩
    obtain ⟨rfl, hok⟩ := hanswer.mp hanswered
    obtain ⟨event, hevent, rfl⟩ := (hmessages messages).mp hok
    exact ⟨rfl, event, hevent, emittedMessage_complete.mp (hcomplete _ List.mem_cons_self)⟩
  · rintro ⟨rfl, event, hevent, hblank⟩
    have hok := (hmessages _).mpr ⟨event, hevent, rfl⟩
    refine ⟨_, ⟨_, rfl, List.cons_ne_nil _ _, ?_⟩, hanswer.mpr ⟨rfl, hok⟩⟩
    exact List.forall_mem_singleton.mpr (emittedMessage_complete.mpr hblank)

theorem syncMet_answered : (∃ log, SyncMet pack providers false log ∧
    Fulfilled (defaultRunner host) log piece) ↔ piece = [⟨.check pack providers, .ok ()⟩] := by
  have hanswer : Fulfilled (defaultRunner host)
      ([⟨.sync pack providers false, .ok ()⟩] : E2eLog ReplyScope) piece ↔
        Runs (HostProg.check pack providers) piece (ret (.ok ())) :=
    fulfilled_singleton
  have hcheck : Runs (HostProg.check pack providers) piece (ret (.ok ())) ↔
      piece = [⟨.check pack providers, .ok ()⟩] := by
    constructor
    · intro hr
      obtain ⟨a, rest, rfl, hrest⟩ := runs_ask_ret.mp hr
      obtain ⟨rfl, hret⟩ := runs_ret.mp hrest
      cases hret
      rfl
    · rintro rfl
      exact .step rfl (.refl _)
  constructor
  · rintro ⟨_, rfl, hanswered⟩
    exact hcheck.mp (hanswer.mp hanswered)
  · intro hpiece
    exact ⟨_, rfl, hanswer.mpr (hcheck.mpr hpiece)⟩

theorem requirementsMet_answered {fixture : RequirementsFixture} :
    (∃ log, RequirementsMet pack fixture log ∧ Fulfilled (defaultRunner host) log piece) ↔
      piece = [] ∧ compositeRequirements host pack (requirementsFlowId pack) = .ok fixture ∧
        fixture.NoBlankKey := by
  have hanswer : Fulfilled (defaultRunner host)
      ([⟨.requirements pack (requirementsFlowId pack), .ok fixture⟩] : E2eLog ReplyScope) piece ↔
        piece = [] ∧ compositeRequirements host pack (requirementsFlowId pack) = .ok fixture := by
    rw [fulfilled_singleton, ← faulty_runs]
    exact Iff.rfl
  constructor
  · rintro ⟨_, ⟨rfl, hkeys⟩, hanswered⟩
    obtain ⟨hpiece, hok⟩ := hanswer.mp hanswered
    exact ⟨hpiece, hok, hkeys⟩
  · rintro ⟨hpiece, hok, hkeys⟩
    exact ⟨_, ⟨rfl, hkeys⟩, hanswer.mpr ⟨hpiece, hok⟩⟩

/-- Each provider gets a plan, with the operations that the requirements ask for. -/
def SetupWorks (host : RunnerHost ReplyScope) (pack : PackLoad)
    (providers : List EventProviderSpec) (requirements : RequirementsFixture) : Prop :=
  ∃ entries, loadFixture host.toE2eHost pack "fixtures/setup.input.json" =
      some (.object entries) ∧
    ∀ provider ∈ providers, ∃ plan,
      compositePlan host pack (setupInputs (.object entries) requirements provider) = .ok plan ∧
      (requirements.subscriptionsRequired = true → plan.subscriptions ≠ []) ∧
      (requirements.webhooksRequired = true → plan.webhooks ≠ [])

def Planned (host : RunnerHost ReplyScope) : Event (e2eInterface ReplyScope) → Prop
  | ⟨.plan pack inputs, .ok plan⟩ => compositePlan host pack inputs = .ok plan
  | _ => False

theorem setupMet_answered {requirements : RequirementsFixture} :
    (∃ log, SetupMet host.toE2eHost pack providers requirements log ∧
      Fulfilled (defaultRunner host) log piece) ↔
      piece = [] ∧ SetupWorks host pack providers requirements := by
  have hanswer (entries : List (String × Json)) (plans : List (PlannedTwice requirements)) :
      Fulfilled (defaultRunner host)
        (plans.flatMap (PlannedTwice.calls pack (.object entries)) : E2eLog ReplyScope) piece ↔
      piece = [] ∧ ∀ twice ∈ plans,
        let inputs := setupInputs (.object entries) requirements twice.provider
        compositePlan host pack inputs = .ok twice.plan ∧
          compositePlan host pack inputs = .ok twice.planAgain := by
    rw [fulfilled_silent (Q := Planned host)]
    · simp only [List.forall_mem_flatMap, PlannedTwice.calls, List.forall_mem_cons, Planned,
        List.not_mem_nil, false_imp_iff, implies_true, and_true]
    · intro e he piece
      obtain ⟨twice, -, htwice⟩ := List.mem_flatMap.mp he
      obtain rfl | rfl := List.mem_pair.mp htwice
      · exact faulty_runs
      · exact faulty_runs
  constructor
  · rintro ⟨_, ⟨entries, hsetup, plans, rfl, rfl⟩, hanswered⟩
    obtain ⟨rfl, hplans⟩ := (hanswer entries plans).mp hanswered
    refine ⟨rfl, entries, hsetup, List.forall_mem_map.mpr fun twice htwice => ?_⟩
    exact ⟨twice.plan, (hplans twice htwice).1, twice.subscriptions, twice.webhooks⟩
  · rintro ⟨rfl, entries, hsetup, hplans⟩
    -- both plan calls of a provider get the same plan
    choose plan hplan hsubscriptions hwebhooks using hplans
    have hsame (provider : EventProviderSpec) (h : provider ∈ providers) :
        (plan provider h).eq (plan provider h) = true := ProvisionPlan.eq_refl _
    let plans : List (PlannedTwice requirements) := providers.pmap (fun provider h =>
      ⟨provider, plan provider h, plan provider h, hsame provider h, hsubscriptions provider h,
        hwebhooks provider h⟩) fun _ h => h
    refine ⟨_, ⟨entries, hsetup, plans, ?_, rfl⟩, (hanswer entries plans).mpr ⟨rfl, ?_⟩⟩
    · simp [plans, List.map_pmap]
    · intro twice htwice
      obtain ⟨provider, h, rfl⟩ := List.mem_pmap.mp htwice
      exact ⟨hplan provider h, hplan provider h⟩

/-- What the first two stages find in a pack that passes, with its requirements. -/
structure PackReads (host : RunnerHost ReplyScope) (pack : PackLoad)
    (providers : List EventProviderSpec) (fixture : RequirementsFixture) : Prop where
  requirements : compositeRequirements host pack (requirementsFlowId pack) = .ok fixture
  keys : fixture.NoBlankKey
  setup : SetupWorks host pack providers fixture

/-- What a dry run finds. -/
structure PackWorks (host : RunnerHost ReplyScope) (pack : PackLoad)
    (providers : List EventProviderSpec) (fixture : RequirementsFixture) : Prop
    extends PackReads host pack providers fixture where
  ingest : (∃ p ∈ providers, p.kind = .source ∨ p.kind = .bridge) → IngestWorks host pack
  emit : (∃ p ∈ providers, p.kind = .sink ∨ p.kind = .bridge) → EmitWorks host pack

/-- Whether the subscription check is made. -/
def WantsCheck (providers : List EventProviderSpec) (fixture : RequirementsFixture) : Prop :=
  (∃ p ∈ providers, p.kind = .broker) ∨ fixture.subscriptionsRequired = true

theorem whenWanted_answered {wanted : Prop} {met : E2eLog ReplyScope → Prop} :
    (∃ log, WhenWanted wanted met log ∧ Fulfilled (defaultRunner host) log piece) ↔
      (wanted → ∃ log, met log ∧ Fulfilled (defaultRunner host) log piece) ∧
        (¬ wanted → piece = []) := by
  by_cases hwanted : wanted
  · simp [WhenWanted, hwanted]
  · simp only [WhenWanted, hwanted, false_imp_iff, not_false_eq_true, forall_const, true_and]
    constructor
    · rintro ⟨_, rfl, hanswered⟩
      cases hanswered
      rfl
    · rintro rfl
      exact ⟨[], rfl, .nil⟩

/-- A stage that asks nothing of the host. -/
theorem whenWanted_silent {wanted works : Prop} {met : E2eLog ReplyScope → Prop}
    (hmet : ∀ piece, (∃ log, met log ∧ Fulfilled (defaultRunner host) log piece) ↔
      piece = [] ∧ works) :
    (∃ log, WhenWanted wanted met log ∧ Fulfilled (defaultRunner host) log piece) ↔
      piece = [] ∧ (wanted → works) := by
  rw [whenWanted_answered, hmet]
  by_cases hwanted : wanted
  · simp [hwanted]
  · simp [hwanted]

/-- The calls and answers of a pack that passes, with the default runners: what they find in the
pack, and what the last three stages ask. -/
theorem greenRun_pieces {live : Bool} : (∃ log, GreenRun host.toE2eHost pack providers live log ∧
    Fulfilled (defaultRunner host) log piece) ↔
      ∃ fixture ingest emit sync, piece = ingest ++ (emit ++ sync) ∧
        PackReads host pack providers fixture ∧
        (∃ log, WhenWanted (∃ p ∈ providers, p.kind = .source ∨ p.kind = .bridge)
          (IngestMet pack providers live) log ∧ Fulfilled (defaultRunner host) log ingest) ∧
        (∃ log, WhenWanted (∃ p ∈ providers, p.kind = .sink ∨ p.kind = .bridge)
          (EmitMet pack providers live) log ∧ Fulfilled (defaultRunner host) log emit) ∧
        (∃ log, WhenWanted (WantsCheck providers fixture) (SyncMet pack providers live) log ∧
          Fulfilled (defaultRunner host) log sync) := by
  constructor
  · rintro ⟨_, ⟨fixture, h₁, h₂, h₃, h₄, h₅, rfl, met₁, met₂, met₃, met₄, met₅⟩, hanswered⟩
    obtain ⟨p₁, _, rfl, a₁, hanswered⟩ := fulfilled_append.mp hanswered
    obtain ⟨p₂, _, rfl, a₂, hanswered⟩ := fulfilled_append.mp hanswered
    obtain ⟨p₃, _, rfl, a₃, hanswered⟩ := fulfilled_append.mp hanswered
    obtain ⟨p₄, p₅, rfl, a₄, a₅⟩ := fulfilled_append.mp hanswered
    obtain ⟨rfl, hrequirements, hkeys⟩ := requirementsMet_answered.mp ⟨h₁, met₁, a₁⟩
    obtain ⟨rfl, hsetup⟩ := setupMet_answered.mp ⟨h₂, met₂, a₂⟩
    exact ⟨fixture, p₃, p₄, p₅, rfl, ⟨hrequirements, hkeys, hsetup⟩, ⟨h₃, met₃, a₃⟩,
      ⟨h₄, met₄, a₄⟩, ⟨h₅, met₅, a₅⟩⟩
  · rintro ⟨fixture, p₃, p₄, p₅, rfl, hreads, ⟨h₃, met₃, a₃⟩, ⟨h₄, met₄, a₄⟩, ⟨h₅, met₅, a₅⟩⟩
    obtain ⟨h₁, met₁, a₁⟩ :=
      requirementsMet_answered.mpr ⟨rfl, hreads.requirements, hreads.keys⟩
    obtain ⟨h₂, met₂, a₂⟩ := setupMet_answered.mpr ⟨rfl, hreads.setup⟩
    exact ⟨_, ⟨fixture, h₁, h₂, h₃, h₄, h₅, rfl, met₁, met₂, met₃, met₄, met₅⟩,
      fulfilled_append.mpr ⟨[], _, rfl, a₁, fulfilled_append.mpr ⟨[], _, rfl, a₂,
        fulfilled_append.mpr ⟨_, _, rfl, a₃, fulfilled_append.mpr ⟨_, _, rfl, a₄, a₅⟩⟩⟩⟩⟩

/-- In a dry run only the check asks anything. -/
theorem greenRun_answered : (∃ log, GreenRun host.toE2eHost pack providers false log ∧
    Fulfilled (defaultRunner host) log piece) ↔
      ∃ fixture, PackWorks host pack providers fixture ∧
        (WantsCheck providers fixture → piece = [⟨.check pack providers, .ok ()⟩]) ∧
        (¬ WantsCheck providers fixture → piece = []) := by
  rw [greenRun_pieces]
  simp only [whenWanted_silent fun _ => ingestMet_answered,
    whenWanted_silent fun _ => emitMet_answered]
  simp only [whenWanted_answered, syncMet_answered]
  constructor
  · rintro ⟨fixture, _, _, piece, rfl, hreads, ⟨rfl, hingest⟩, ⟨rfl, hemit⟩, hcheck⟩
    exact ⟨fixture, ⟨hreads, hingest, hemit⟩, hcheck⟩
  · rintro ⟨fixture, ⟨hreads, hingest, hemit⟩, hcheck⟩
    exact ⟨fixture, [], [], piece, rfl, hreads, ⟨rfl, hingest⟩, ⟨rfl, hemit⟩, hcheck⟩

end Answers

section Reports

variable {ReplyScope : Type} {host : RunnerHost ReplyScope} {options : E2eOptions}
  {h : List (Event hostInterface)}

variable (host options) in
/-- A dry run of one pack; `calls` are the operations of the host. -/
structure DefaultPackRun where
  packPath : PackPath
  calls : List (Event hostInterface)
  result : Except Stop PackReport
  runs : Runs ((runPack host.toE2eHost options packPath).interpret (defaultRunner host)) calls
    (ret result)

def DefaultPackRun.report (run : DefaultPackRun host options) : PackReport :=
  reportToPackReport run.packPath run.result

theorem default_runPacks {packs : List PackPath} {reports : List PackReport}
    (hr : Runs ((runPacks host.toE2eHost options packs []).interpret (defaultRunner host)) h
      (ret reports)) :
    ∃ runs : List (DefaultPackRun host options), runs.map DefaultPackRun.packPath = packs ∧
      h = runs.flatMap DefaultPackRun.calls ∧ reports = runs.map DefaultPackRun.report := by
  obtain ⟨log, hlog, hanswered⟩ := interpret_runs.mp hr
  obtain ⟨runs, rfl, rfl, rfl⟩ := runPacks_runs hlog
  clear hr hlog
  induction runs generalizing h with
  | nil =>
    cases hanswered
    exact ⟨[], rfl, rfl, rfl⟩
  | cons run runs ih =>
    rw [List.flatMap_cons] at hanswered
    obtain ⟨calls, rest, rfl, hfirst, hrest⟩ := fulfilled_append.mp hanswered
    obtain ⟨runs', hpaths, rfl, hreports⟩ := ih hrest
    refine ⟨⟨run.packPath, calls, run.result, interpret_runs.mpr ⟨_, run.runs, hfirst⟩⟩ :: runs',
      ?_, rfl, ?_⟩
    · rw [List.map_cons, List.map_cons, hpaths]
    · rw [List.map_cons, List.map_cons, hreports]
      rfl

/-- The pack at a path opens, and these are its providers that the filter selects. -/
structure Selects (host : E2eHost) (options : E2eOptions) (packPath : PackPath) (pack : PackLoad)
    (providers : List EventProviderSpec) : Prop where
  opens : host.openPack packPath.path = some pack
  selected : ∃ specs, pack.manifestMeta.events = some specs ∧
    selectProviders options.providerFilter specs = providers
  nonempty : providers ≠ []

theorem Selects.runPack_eq {packPath : PackPath} {pack : PackLoad}
    {providers : List EventProviderSpec}
    (hs : Selects host.toE2eHost options packPath pack providers) :
    (runPack host.toE2eHost options packPath : E2eProg ReplyScope _) =
      runStages host.toE2eHost options pack providers := by
  obtain ⟨hopen, ⟨specs, hevents, rfl⟩, hsome⟩ := hs
  have hempty : (selectProviders options.providerFilter specs).isEmpty = false :=
    List.isEmpty_eq_false_iff.mpr hsome
  simp [runPack, hopen, hevents, hempty]

/-- Only a pack that opens, with a provider that is selected, is reported as passing. -/
theorem DefaultPackRun.selects (run : DefaultPackRun host options)
    (hpass : run.report.status = .pass) :
    ∃ pack providers, Selects host.toE2eHost options run.packPath pack providers := by
  obtain ⟨packPath, calls, result, hr⟩ := run
  have hfailed (message : String)
      (hprog : (runPack host.toE2eHost options packPath : E2eProg ReplyScope _) =
        ret (.error (.error message))) : False := by
    rw [hprog] at hr
    obtain ⟨-, hret⟩ := runs_ret.mp hr
    cases hret
    cases hpass
  cases hopen : host.openPack packPath.path with
  | none => exact (hfailed _ (by rw [runPack, hopen]; rfl)).elim
  | some pack =>
    cases hevents : pack.manifestMeta.events with
    | none => exact (hfailed _ (by rw [runPack, hopen]; simp only [hevents]; rfl)).elim
    | some specs =>
      by_cases hselected : selectProviders options.providerFilter specs = []
      · exact (hfailed _ (by rw [runPack, hopen]; simp only [hevents, hselected]; rfl)).elim
      · exact ⟨pack, _, hopen, ⟨specs, hevents, rfl⟩, hselected⟩

section Selected

variable {pack : PackLoad} {providers : List EventProviderSpec}

/-- A pack passes when its calls are answered as those of a pack that works. -/
theorem defaultReport_green (run : DefaultPackRun host options)
    (hs : Selects host.toE2eHost options run.packPath pack providers) :
    run.report.status = .pass ↔ ∃ log, GreenRun host.toE2eHost pack providers options.live log ∧
      Fulfilled (defaultRunner host) log run.calls := by
  constructor
  · intro hpass
    obtain ⟨log, hr, hanswered⟩ := interpret_runs.mp run.runs
    obtain ⟨hopen, ⟨specs, hevents, rfl⟩, hsome⟩ := hs
    exact ⟨log, (packReport_pass_iff hr hopen hevents hsome).mp hpass, hanswered⟩
  · rintro ⟨log, hgreen, hanswered⟩
    obtain ⟨report, hr, hpass⟩ := runStages_pass.mpr hgreen
    rw [← hs.runPack_eq] at hr
    have hsame := run.runs.unique (interpret_runs.mpr ⟨log, hr, hanswered⟩)
    injection hsame with hsame
    rw [DefaultPackRun.report, hsame]
    exact hpass

/-- In a dry run a pack passes when it works and its check, where it wants one, succeeds. -/
theorem defaultReport_pass_iff (run : DefaultPackRun host options) (hlive : options.live = false)
    (hs : Selects host.toE2eHost options run.packPath pack providers) :
    run.report.status = .pass ↔ ∃ fixture, PackWorks host pack providers fixture ∧
      (WantsCheck providers fixture → run.calls = [⟨.check pack providers, .ok ()⟩]) ∧
      (¬ WantsCheck providers fixture → run.calls = []) := by
  rw [← greenRun_answered, ← hlive]
  exact defaultReport_green run hs

end Selected

/-- How a subscription check may end: as a run of it does, or not before the time limit of the
pack. -/
def CheckAnswers (host : E2eHost) (pack : PackLoad) (providers : List EventProviderSpec)
    (a : Except Fault Unit) : Prop :=
  a = .error .elapsed ∨ ∃ log c r, checkSystem.Run (checkStart host pack providers) log c ∧
    c.proc .check = .check (.ret r) ∧ a = r.mapError .error

def TimedOut (a : Except Fault Unit) : Prop :=
  a = .error .elapsed ∨ a = .error (.error "subscription receive timed out")

theorem checkAnswers_verdict {host : E2eHost} {pack : PackLoad}
    {providers : List EventProviderSpec} {a : Except Fault Unit}
    (ha : CheckAnswers host pack providers a) :
    a = (SubscriptionCheck.subscriptionVerdict host pack providers).mapError .error ∨
      TimedOut a := by
  rcases ha with rfl | ⟨log, c, r, hr, hret, rfl⟩
  · exact .inr (.inl rfl)
  · rcases SubscriptionCheck.check_verdict hr r hret with rfl | ⟨rfl, -⟩
    · exact .inl rfl
    · exact .inr (.inr rfl)

def PackPasses (host : RunnerHost ReplyScope) (pack : PackLoad)
    (providers : List EventProviderSpec) : Prop :=
  ∃ fixture, PackWorks host pack providers fixture ∧
    (WantsCheck providers fixture →
      SubscriptionCheck.subscriptionVerdict host.toE2eHost pack providers = .ok ())

/-- The calls made for a pack are those of a pack that works, or part from them at an answer. -/
theorem DefaultPackRun.works_or_parts (run : DefaultPackRun host options)
    (hlive : options.live = false) {pack : PackLoad} {providers : List EventProviderSpec}
    (hs : Selects host.toE2eHost options run.packPath pack providers)
    {h : List (Event hostInterface)}
    (hcalls : ∃ log, GreenRun host.toE2eHost pack providers false log ∧
      Fulfilled (defaultRunner host) log h) :
    h = run.calls ∨ ∃ (l : List (Event hostInterface)) (o : HostOp) (x y : o.Ans)
      (r r' : List (Event hostInterface)),
      h = l ++ ⟨o, x⟩ :: r ∧ run.calls = l ++ ⟨o, y⟩ :: r' ∧ x ≠ y := by
  obtain ⟨log, hgreen, hanswered⟩ := hcalls
  rw [← hlive] at hgreen
  obtain ⟨report, hr, -⟩ := runStages_pass.mpr hgreen
  rw [← hs.runPack_eq] at hr
  exact runs_diverge (interpret_runs.mpr ⟨log, hr, hanswered⟩) run.runs

/-- A pack that works passes, or its check did not succeed. -/
theorem defaultReport_works (run : DefaultPackRun host options) (hlive : options.live = false)
    {pack : PackLoad} {providers : List EventProviderSpec}
    (hs : Selects host.toE2eHost options run.packPath pack providers)
    {fixture : RequirementsFixture} (hworks : PackWorks host pack providers fixture) :
    run.report.status = .pass ∨ WantsCheck providers fixture ∧
      ∃ fault, ⟨.check pack providers, .error fault⟩ ∈ run.calls := by
  have hpass := defaultReport_pass_iff run hlive hs
  by_cases hwants : WantsCheck providers fixture
  · -- the check is the only call, so the run can part from one that works there only
    rcases run.works_or_parts hlive hs (greenRun_answered.mpr
      ⟨fixture, hworks, fun _ => rfl, fun hnot => absurd hwants hnot⟩) with
      hsame | ⟨l, o, x, y, r, r', hcut, hcalls, hne⟩
    · exact .inl (hpass.mpr ⟨fixture, hworks, fun _ => hsame.symm, fun hnot => absurd hwants hnot⟩)
    · cases l with
      | cons e l => simp at hcut
      | nil =>
        obtain ⟨hfirst, -⟩ := List.cons.inj hcut
        cases hfirst
        cases y with
        | ok u => exact absurd rfl hne
        | error fault =>
          rw [hcalls]
          exact .inr ⟨hwants, fault, List.mem_cons_self⟩
  · rcases run.works_or_parts hlive hs (greenRun_answered.mpr
      ⟨fixture, hworks, fun hwants' => absurd hwants' hwants, fun _ => rfl⟩) with
      hsame | ⟨l, o, x, y, r, r', hcut, hcalls, hne⟩
    · exact .inl (hpass.mpr
        ⟨fixture, hworks, fun hwants' => absurd hwants' hwants, fun _ => hsame.symm⟩)
    · simp at hcut

/-- The variables of the dry-run guard were read, and the last one lets a report be written. -/
def GuardRead (reportPath : Option String) (past : List (Event hostInterface)) : Prop :=
  (∀ name ∈ dryRunVars, ∃ value, ⟨.var name, value⟩ ∈ past) ∧
    (reportPath.isSome = true → ⟨.var allowWriteEnv, "1"⟩ ∈ past)

theorem readVars_runs {names : List String} (hr : Runs (readVars names) h (ret ())) :
    ∀ name ∈ names, ∃ value, ⟨.var name, value⟩ ∈ h := by
  induction names generalizing h with
  | nil => simp
  | cons name names ih =>
    obtain ⟨value, h, rfl, hrest⟩ := runs_ask_ret.mp hr
    refine List.forall_mem_cons.mpr ⟨⟨value, List.mem_cons_self⟩, fun name' hname' => ?_⟩
    obtain ⟨value', hmem⟩ := ih hrest name' hname'
    exact ⟨value', List.mem_cons_of_mem _ hmem⟩

/-- In a dry run the guard reads its variables, and the last one if there is a report. -/
theorem readGuardVars_runs {allowWrite : Option String} (hdry : options.dryRun = true)
    (hlive : options.live = false) (hr : Runs (readGuardVars options) h (ret allowWrite)) :
    (∀ name ∈ dryRunVars, ∃ value, ⟨.var name, value⟩ ∈ h) ∧
      (options.reportPath.isSome = true → ∃ value, allowWrite = some value ∧
        ⟨.var allowWriteEnv, value⟩ ∈ h) := by
  unfold readGuardVars at hr
  rw [hdry, hlive, if_pos (by rfl)] at hr
  obtain ⟨_, reads, rest, rfl, hreads, hrest⟩ := runs_bind_ret hr
  refine ⟨fun name hname => ?_, fun hreport => ?_⟩
  · obtain ⟨value, hmem⟩ := readVars_runs hreads name hname
    exact ⟨value, List.mem_append_left _ hmem⟩
  · rw [if_pos hreport] at hrest
    obtain ⟨value, rfl, rfl⟩ := runs_ask_once.mp hrest
    exact ⟨value, rfl, List.mem_append_right _ List.mem_cons_self⟩

theorem runPacks_guarded (allowWrite : Option String) (packs : List PackPath)
    (reports : List PackReport) :
    (runPacks (host.guarded allowWrite) options packs reports : E2eProg ReplyScope _) =
      runPacks host.toE2eHost options packs reports := by
  induction packs generalizing reports with
  | nil => rfl
  | cons packPath packs ih =>
    have hpack : (runPack (host.guarded allowWrite) options packPath : E2eProg ReplyScope _) =
      runPack host.toE2eHost options packPath := rfl
    rw [runPacks, runPacks, hpack]
    simp only [ih]

/-- What was prepared when there is a pack to look at. -/
theorem preparePacks_ok {host : E2eHost} {packs : List PackPath}
    (h : preparePacks host options = .ok packs) :
    discoverPacks host options.packsDir = .ok packs ∧ packs ≠ [] ∧
      (options.live = true → options.dryRun = false) ∧
      (options.dryRun = true → options.reportPath.isSome = true →
        host.allowWrite.getD "" = "1") := by
  unfold preparePacks at h
  cases hconflict : options.live && options.dryRun with
  | true =>
    rw [hconflict] at h
    cases h
  | false =>
    rw [hconflict] at h
    obtain ⟨_, hguard, h⟩ := except_bind_ok.mp h
    obtain ⟨found, hdiscovered, h⟩ := except_bind_ok.mp h
    cases hempty : found.isEmpty with
    | true =>
      rw [hempty] at h
      cases h
    | false =>
      rw [hempty] at h
      obtain rfl := Except.ok.inj h
      refine ⟨hdiscovered, List.isEmpty_eq_false_iff.mp hempty, fun hlive => ?_,
        fun hdry hreport => ?_⟩
      · simpa [hlive] using hconflict
      · unfold applyDryRunGuard at hguard
        split_ifs at hguard with hrefused
        simpa [hdry, hreport] using hrefused

theorem runE2e_runs {report : E2eReport} (hr : Runs (runE2e host options) h (ret (.ok report))) :
    ∃ (reads : List (Event hostInterface)) (allowWrite : Option String)
      (runs : List (DefaultPackRun host options)),
      Runs (readGuardVars options) reads (ret allowWrite) ∧
      preparePacks (host.guarded allowWrite) options = .ok (runs.map DefaultPackRun.packPath) ∧
      h = reads ++ runs.flatMap DefaultPackRun.calls ∧
      report.packs = runs.map DefaultPackRun.report := by
  obtain ⟨allowWrite, reads, rest, rfl, hreads, hr⟩ := runs_bind_ret hr
  refine ⟨reads, allowWrite, ?_⟩
  unfold runE2eWith at hr
  cases hpacks : preparePacks (host.guarded allowWrite) options with
  | error err =>
    rw [hpacks] at hr
    obtain ⟨-, hret⟩ := runs_ret.mp hr
    cases hret
  | ok packs =>
    rw [hpacks] at hr
    change Runs ((runPacks (host.guarded allowWrite) options packs [] >>= fun reports =>
      ret (saveReport (host.guarded allowWrite) options ⟨summarize reports, reports⟩)).interpret
        (defaultRunner host)) rest (ret (.ok report)) at hr
    rw [runPacks_guarded, interpret_bind] at hr
    obtain ⟨reports, h₁, h₂, rfl, hrun, hsave⟩ := runs_bind_ret hr
    obtain ⟨rfl, hret⟩ := runs_ret.mp hsave
    obtain rfl : (⟨summarize reports, reports⟩ : E2eReport) = report := by
      injection hret with hret
      exact saveReport_ok hret.symm
    obtain ⟨runs, rfl, rfl, rfl⟩ := default_runPacks hrun
    refine ⟨runs, hreads, rfl, ?_, rfl⟩
    rw [List.append_nil]

/-- A dry run that goes on after its guard has read the variables. -/
theorem guardRead_of_runs {allowWrite : Option String} (hdry : options.dryRun = true)
    (hlive : options.live = false) (hr : Runs (readGuardVars options) h (ret allowWrite))
    (hwrite : options.dryRun = true → options.reportPath.isSome = true →
      allowWrite.getD "" = "1") : GuardRead options.reportPath h := by
  obtain ⟨hvars, hallowed⟩ := readGuardVars_runs hdry hlive hr
  refine ⟨hvars, fun hreport => ?_⟩
  obtain ⟨value, rfl, hmem⟩ := hallowed hreport
  obtain rfl : value = "1" := hwrite hdry hreport
  exact hmem

theorem GuardRead.later {reportPath : Option String} {past later : List (Event hostInterface)}
    (h : GuardRead reportPath past) (hlater : past ⊆ later) : GuardRead reportPath later := by
  refine ⟨fun name hname => ?_, fun hreport => hlater (h.2 hreport)⟩
  obtain ⟨value, hmem⟩ := h.1 name hname
  exact ⟨value, hlater hmem⟩

/-- In a dry run with the default runners a pack passes exactly when it works, whatever its
configuration flows do, unless a time limit ended its subscription check.  A report is written only
where the environment lets it. -/
theorem dry_run_reports {report : E2eReport} (hlive : options.live = false)
    (hr : Runs (runE2e host options) h (ret (.ok report)))
    (hchecks : ∀ pack providers a, ⟨.check pack providers, a⟩ ∈ h →
      CheckAnswers host.toE2eHost pack providers a) :
    (options.dryRun = true → GuardRead options.reportPath h) ∧
    ∃ packs, discoverPacks host.toE2eHost options.packsDir = .ok packs ∧ packs ≠ [] ∧
      List.Forall₂ (fun packPath packReport =>
        (packReport.status = .pass → ∃ pack providers,
          Selects host.toE2eHost options packPath pack providers ∧
            PackPasses host pack providers) ∧
        ∀ pack providers, Selects host.toE2eHost options packPath pack providers →
          PackPasses host pack providers → packReport.status = .pass ∨
            ∃ a, ⟨.check pack providers, a⟩ ∈ h ∧ TimedOut a) packs report.packs := by
  obtain ⟨reads, allowWrite, runs, hreads, hpacks, rfl, hreports⟩ := runE2e_runs hr
  obtain ⟨hdiscovered, hsome, -, hwrite⟩ := preparePacks_ok hpacks
  refine ⟨fun hdry => (guardRead_of_runs hdry hlive hreads hwrite).later
    (List.subset_append_left reads _), ?_⟩
  rw [hreports]
  refine ⟨_, hdiscovered, hsome, List.forall₂_map_left_iff.mpr (List.forall₂_map_right_iff.mpr
    (List.forall₂_same.mpr ?_))⟩
  intro run hrun
  have hcalls {e : Event hostInterface} (he : e ∈ run.calls) :
      e ∈ reads ++ runs.flatMap DefaultPackRun.calls :=
    List.mem_append_right _ (List.mem_flatMap.mpr ⟨run, hrun, he⟩)
  -- a pass has made its check and so its verdict; conversely only the answer of the check is open
  constructor
  · intro hpass
    obtain ⟨pack, providers, hs⟩ := run.selects hpass
    obtain ⟨fixture, hworks, hcheck, -⟩ := (defaultReport_pass_iff run hlive hs).mp hpass
    refine ⟨pack, providers, hs, fixture, hworks, fun hwants => ?_⟩
    have hanswer : ⟨.check pack providers, .ok ()⟩ ∈ run.calls := by
      rw [hcheck hwants]
      exact List.mem_cons_self
    rcases checkAnswers_verdict (hchecks _ _ _ (hcalls hanswer)) with hverdict | htimeout
    · exact mapError_ok.mp hverdict.symm
    · rcases htimeout with hnone | hnone <;> cases hnone
  · rintro pack providers hs ⟨fixture, hworks, hverdict⟩
    refine (defaultReport_works run hlive hs hworks).imp_right ?_
    rintro ⟨hwants, fault, hfault⟩
    refine ⟨_, hcalls hfault, ?_⟩
    refine (checkAnswers_verdict (hchecks _ _ _ (hcalls hfault))).resolve_left ?_
    rw [hverdict hwants]
    exact nofun

end Reports

/-- A pack whose broker gets its event. -/
def brokerPack : PackLoad where
  manifestMeta := ⟨"events-shop", "0.1.0", some [shopSpec], []⟩
  flows := []
  files := ((BTreeMap.empty.insert "fixtures/requirements.expected.json" [0x7b, 0x7d]).insert
    "fixtures/setup.input.json" [0x7b, 0x7d]).insert
    "fixtures/subscriptions.expected.json" [0x5b, 0x5d]

def emptyDocument (bytes : List UInt8) : Option Json :=
  if bytes = [0x7b, 0x7d] then some (.object [])
  else if bytes = [0x5b, 0x5d] then some (.array [])
  else none

/-- Nothing else is read in the run. -/
def brokerHost : RunnerHost Unit where
  toE2eHost := { dummyHost with openPack := fun _ => some brokerPack, fromSlice := emptyDocument }
  flow := {
    nodeIdError := fun _ => none
    yamlFromStr := fun _ => .error ""
    yamlToString := fun _ => .error ""
    loadYgtcFromStr := fun _ => .error ""
    compileFlow := fun _ => .error ""
    renderJson := fun _ _ _ _ => .error "" }
  documentFromSlice := emptyDocument
  messageFromSlice _ := none
  eventFromSlice _ := none
  messageToValue _ := .error ""
  eventToValue _ := .null
  eventsFromValue _ := none
  messagesFromValue _ := none
  eventFromValue _ := none
  jsonToString _ := ""
  eventId _ := .error ""

theorem preparePacks_broker : preparePacks brokerHost.toE2eHost dummyOptions = .ok [dummyPath] :=
  preparePacks_dummy

theorem brokerPack_works : PackWorks brokerHost brokerPack [shopSpec] ⟨[], [], false, false⟩ where
  requirements := rfl
  keys := ⟨nofun, nofun⟩
  setup := by
    refine ⟨[], rfl, fun provider hprovider => ?_⟩
    obtain rfl := List.mem_singleton.mp hprovider
    exact ⟨⟨none, none, [], []⟩, rfl, nofun, nofun⟩
  ingest := by
    intro h
    exact absurd h (by decide)
  emit := by
    intro h
    exact absurd h (by decide)

/-- None of the variables of the guard is set. -/
def guardReads : List (Event hostInterface) := dryRunVars.map fun name => ⟨.var name, ""⟩

theorem guardReads_runs : Runs (readGuardVars dummyOptions) guardReads (ret none) :=
  .step rfl (.step rfl (.step rfl (.step rfl (.step rfl (.refl _)))))

def brokerCalls : List (Event hostInterface) :=
  guardReads ++ [⟨.check brokerPack [shopSpec], .ok ()⟩]

theorem brokerRun : ∃ report, Runs (runE2e brokerHost dummyOptions) brokerCalls
    (ret (.ok report)) ∧ report.packs.length = 1 := by
  have hwants : WantsCheck [shopSpec] ⟨[], [], false, false⟩ := .inl ⟨shopSpec, by simp, rfl⟩
  obtain ⟨log, hgreen, hanswered⟩ := greenRun_answered.mpr
    ⟨_, brokerPack_works, fun _ => rfl, fun hnot => absurd hwants hnot⟩
  have hsucceeds : Succeeds (runStages brokerHost.toE2eHost dummyOptions brokerPack [shopSpec]) log
      fun report => report.status = .pass := runStages_pass.mpr hgreen
  obtain ⟨packReport, hstages, -⟩ := hsucceeds
  have hpacks : Runs (runPacks brokerHost.toE2eHost dummyOptions [dummyPath] []) log
      (ret [packReport]) :=
    runPacks_step.mpr ⟨⟨dummyPath, _, _, hstages⟩, [], rfl, (List.append_nil _).symm, .refl _⟩
  have hrun : Runs (runE2eWith brokerHost.toE2eHost dummyOptions) log
      (ret (.ok ⟨summarize [packReport], [packReport]⟩)) := by
    rw [runE2eWith, preparePacks_broker, ← List.append_nil log]
    exact bind_runs hpacks (.refl _)
  exact ⟨_, bind_runs guardReads_runs (interpret_runs.mpr ⟨log, hrun, hanswered⟩), rfl⟩

theorem brokerCalls_check {pack : PackLoad} {providers : List EventProviderSpec}
    {a : Except Fault Unit} (h : ⟨.check pack providers, a⟩ ∈ brokerCalls) :
    (⟨.check pack providers, a⟩ : Event hostInterface) =
      ⟨.check brokerPack [shopSpec], .ok ()⟩ := by
  rcases List.mem_append.mp h with h | h
  · obtain ⟨name, -, hname⟩ := List.mem_map.mp h
    cases hname
  · exact List.mem_singleton.mp h

theorem dry_run_reports_broker : ∃ report, Runs (runE2e brokerHost dummyOptions) brokerCalls
    (ret (.ok report)) ∧ ∃ packReport, report.packs = [packReport] ∧
      packReport.status = .pass := by
  obtain ⟨report, hr, hone⟩ := brokerRun
  obtain ⟨packReport, hreport⟩ := List.length_eq_one_iff.mp hone
  refine ⟨report, hr, packReport, hreport, ?_⟩
  have hanswer : CheckAnswers brokerHost.toE2eHost brokerPack [shopSpec] (.ok ()) := by
    have hbroker : subscriptionBroker brokerHost.toE2eHost brokerPack [shopSpec] = .ok shopSpec :=
      rfl
    obtain ⟨log, c, hcheck, hret⟩ := SubscriptionCheck.shop_run hbroker
    exact .inr ⟨log, c, _, hcheck, hret, rfl⟩
  have hchecks (pack : PackLoad) (providers : List EventProviderSpec) (a : Except Fault Unit)
      (ha : (⟨.check pack providers, a⟩ : Event hostInterface) ∈ brokerCalls) :
      CheckAnswers brokerHost.toE2eHost pack providers a := by
    cases brokerCalls_check ha
    exact hanswer
  obtain ⟨-, packs, hdiscovered, -, hreports⟩ := dry_run_reports rfl hr hchecks
  obtain ⟨hfound, -⟩ := preparePacks_ok preparePacks_broker
  cases hfound.symm.trans hdiscovered
  rw [hreport, List.forall₂_cons] at hreports
  have hverdict : SubscriptionCheck.subscriptionVerdict brokerHost.toE2eHost brokerPack
      [shopSpec] = .ok () := rfl
  have hselects : Selects brokerHost.toE2eHost dummyOptions dummyPath brokerPack [shopSpec] :=
    ⟨rfl, ⟨_, rfl, rfl⟩, List.cons_ne_nil _ _⟩
  have hpasses := hreports.1.2 brokerPack [shopSpec] hselects
    ⟨_, brokerPack_works, fun _ => hverdict⟩
  refine hpasses.resolve_right ?_
  rintro ⟨a, ha, htimeout⟩
  cases brokerCalls_check ha
  rcases htimeout with hnone | hnone <;> cases hnone

end GreenticEvents
