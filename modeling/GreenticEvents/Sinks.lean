import GreenticEvents.Concurrency
import GreenticEvents.Router
import GreenticEvents.Sync

/-!
# Installs behind the sink router

Every listed install of a sink ends up as an instance or as a diagnostic, and an
emitted event reaches the instance built last for its key.
-/

namespace GreenticEvents
open Effects Prog

/-- `emit` finds nothing and fails, or makes one call and returns its answer. -/
def Emits (found : Option ProviderInstance) (providerId installId : String) (event : EventEnvelope)
    (h : BusHistory) (v : Except String Unit) : Prop :=
  match found with
  | none => h = [] ∧ v = .error s!"provider install not found: {providerId}:{installId}"
  | some provider => h = [⟨.publish provider event, v⟩]

theorem emit_runs {router : SinkRouter} {providerId installId : String} {event : EventEnvelope}
    {h : BusHistory} {v : Except String Unit} :
    Runs (router.emit providerId installId event) h (.ret v) ↔
      Emits (router.providers ⟨providerId, installId⟩) providerId installId event h v := by
  unfold SinkRouter.emit Emits
  cases router.providers ⟨providerId, installId⟩ with
  | none =>
    rw [pure_eq, runs_ret, Prog.ret.injEq]
  | some provider =>
    dsimp only
    rw [BusProg.publish, perform_bind, runs_ask_ret]
    constructor
    · rintro ⟨answer, h, rfl, hr⟩
      cases answer <;> obtain ⟨rfl, hv⟩ := runs_ret.mp hr <;> cases hv <;> rfl
    · rintro rfl
      refine ⟨v, [], rfl, ?_⟩
      cases v <;> exact .refl _

/-- The instance built last under a key. -/
def lastBuilt (blocks : List SinkBlock) (key : ProviderInstallKey) : Option ProviderInstance :=
  (blocks.flatMap SinkBlock.instances).reverse.lookup key

theorem built_providers (blocks : List SinkBlock) (key : ProviderInstallKey) :
    (SinkRouter.empty.insertAll (blocks.flatMap SinkBlock.instances)).providers key =
      lastBuilt blocks key := by
  rw [SinkRouter.insertAll_get]
  exact Option.or_none

/-- The diagnostic is about the install with this key. -/
def RuntimeDiagnostic.isAbout (d : RuntimeDiagnostic) (key : ProviderInstallKey) : Bool :=
  decide (d.providerId = key.providerId ∧ d.installId = some key.installId)

/-- The same record, and the same outcome unless it has the key. -/
def SinkPair.AgreeOff (key : ProviderInstallKey) (pair pair' : SinkPair) : Prop :=
  pair.record = pair'.record ∧ (pair.record.key ≠ key → pair.outcome = pair'.outcome)

def SinkBlock.AgreeOff (key : ProviderInstallKey) (block block' : SinkBlock) : Prop :=
  block.spec = block'.spec ∧
    match block.listing, block'.listing with
    | .error err, .error err' => err = err'
    | .ok pairs, .ok pairs' => List.Forall₂ (SinkPair.AgreeOff key) pairs pairs'
    | _, _ => False

theorem flatMap_eq_of_forall₂ {α β : Type} {R : α → α → Prop} {f : α → List β} {l l' : List α}
    (h : List.Forall₂ R l l') (hf : ∀ a b, R a b → f a = f b) : l.flatMap f = l'.flatMap f := by
  induction h with
  | nil => rfl
  | cons hab _ ih => rw [List.flatMap_cons, List.flatMap_cons, hf _ _ hab, ih]

theorem SinkPair.AgreeOff.same {key : ProviderInstallKey} {pair pair' : SinkPair}
    (h : SinkPair.AgreeOff key pair pair') :
    (pair.instances.filter fun e => decide (e.1 ≠ key)) =
        (pair'.instances.filter fun e => decide (e.1 ≠ key)) ∧
      (pair.diagnostics.filter fun d => !d.isAbout key) =
        (pair'.diagnostics.filter fun d => !d.isAbout key) := by
  obtain ⟨record, outcome⟩ := pair
  obtain ⟨record', outcome'⟩ := pair'
  obtain ⟨rfl, houtcome⟩ := h
  by_cases hk : record.key = key
  · -- whatever became of this record, all of it is about the key
    subst hk
    have hnone (o : PairOutcome) :
        ((SinkPair.mk record o).instances.filter fun e => decide (e.1 ≠ record.key)) = [] ∧
          ((SinkPair.mk record o).diagnostics.filter fun d => !d.isAbout record.key) = [] := by
      cases o <;>
        simp [SinkPair.instances, SinkPair.diagnostics, RuntimeDiagnostic.isAbout,
          ProviderInstallRecord.key]
    rw [(hnone outcome).1, (hnone outcome).2, (hnone outcome').1, (hnone outcome').2]
    exact ⟨rfl, rfl⟩
  · obtain rfl := houtcome hk
    exact ⟨rfl, rfl⟩

theorem SinkBlock.AgreeOff.same {key : ProviderInstallKey} {block block' : SinkBlock}
    (h : SinkBlock.AgreeOff key block block') :
    (block.instances.filter fun e => decide (e.1 ≠ key)) =
        (block'.instances.filter fun e => decide (e.1 ≠ key)) ∧
      (block.diagnostics.filter fun d => !d.isAbout key) =
        (block'.diagnostics.filter fun d => !d.isAbout key) := by
  obtain ⟨spec, listing⟩ := block
  obtain ⟨spec', listing'⟩ := block'
  obtain ⟨rfl, h⟩ := h
  cases listing with
  | error err =>
    cases listing' with
    | error err' =>
      obtain rfl : err = err' := h
      exact ⟨rfl, rfl⟩
    | ok pairs' => exact absurd h id
  | ok pairs =>
    cases listing' with
    | error err' => exact absurd h id
    | ok pairs' =>
      simp only [SinkBlock.instances, SinkBlock.diagnostics, List.filter_flatMap]
      exact ⟨flatMap_eq_of_forall₂ h fun _ _ hp => hp.same.1,
        flatMap_eq_of_forall₂ h fun _ _ hp => hp.same.2⟩

theorem lookup_filter_of_ne {κ ν : Type} [DecidableEq κ] {key key' : κ} (hne : key' ≠ key)
    (l : List (κ × ν)) : (l.filter fun e => decide (e.1 ≠ key)).lookup key' = l.lookup key' := by
  induction l with
  | nil => rfl
  | cons e l ih =>
    by_cases hk : e.1 = key
    · rw [List.filter_cons_of_neg (by simpa using hk), ih, List.lookup_cons, hk,
        beq_false_of_ne hne]
    · rw [List.filter_cons_of_pos (by simpa using hk), List.lookup_cons, List.lookup_cons, ih]

/-- Blocks that agree off `key` build the same instances for the other keys, and yield
the same diagnostics about other installs. -/
theorem agreeOff_same {key : ProviderInstallKey} {blocks blocks' : List SinkBlock}
    (h : List.Forall₂ (SinkBlock.AgreeOff key) blocks blocks') :
    (∀ key', key' ≠ key → lastBuilt blocks key' = lastBuilt blocks' key') ∧
      ((blocks.flatMap SinkBlock.diagnostics).filter fun d => !d.isAbout key) =
        ((blocks'.flatMap SinkBlock.diagnostics).filter fun d => !d.isAbout key) := by
  constructor
  · intro key' hne
    have hinstances : ((blocks.flatMap SinkBlock.instances).filter fun e => decide (e.1 ≠ key)) =
        ((blocks'.flatMap SinkBlock.instances).filter fun e => decide (e.1 ≠ key)) := by
      rw [List.filter_flatMap, List.filter_flatMap]
      exact flatMap_eq_of_forall₂ h fun _ _ hb => hb.same.1
    unfold lastBuilt
    rw [← lookup_filter_of_ne hne, List.filter_reverse, hinstances, ← List.filter_reverse,
      lookup_filter_of_ne hne]
  · rw [List.filter_flatMap, List.filter_flatMap]
    exact flatMap_eq_of_forall₂ h fun _ _ hb => hb.same.2

theorem agreeOff_specs {key : ProviderInstallKey} {blocks blocks' : List SinkBlock}
    (h : List.Forall₂ (SinkBlock.AgreeOff key) blocks blocks') :
    blocks.map SinkBlock.spec = blocks'.map SinkBlock.spec := by
  induction h with
  | nil => rfl
  | cons hb _ ih => rw [List.map_cons, List.map_cons, hb.1, ih]

/-- A failed listing yields one diagnostic; each record listed yields an instance under
its key, or one diagnostic with its ids. -/
def SinkBlock.Accounted (block : SinkBlock) : Prop :=
  match block.listing with
  | .error err => block.instances = [] ∧
      block.diagnostics = [⟨block.spec.name, none, .malformedInstall, err⟩]
  | .ok pairs => ∀ pair ∈ pairs,
      (∃ provider, pair.instances = [(pair.record.key, provider)] ∧ pair.diagnostics = []) ∨
      ∃ d, pair.instances = [] ∧ pair.diagnostics = [d] ∧ d.providerId = pair.record.providerId ∧
        d.installId = some pair.record.installId

theorem SinkBlock.accounted (block : SinkBlock) : block.Accounted := by
  obtain ⟨spec, listing⟩ := block
  cases listing with
  | error err => exact ⟨rfl, rfl⟩
  | ok pairs => exact fun pair _ => pair.accounted

/-- A finished run consists of one block for each sink in the list.  The diagnostics are
those of the blocks, `emit` calls the instance built last for its key, and a run that
differs in the outcomes of one key's installs only has the same routing for all other
keys and the same diagnostics about all other installs. -/
theorem sink_router_accounts {providers : List EventProviderSpec} {h : RouterHistory}
    {router : SinkRouter} {diagnostics : List RuntimeDiagnostic}
    (hr : Runs (buildSinkRouter providers) h (.ret (router, diagnostics))) :
    ∃ blocks : List SinkBlock,
      blocks.map SinkBlock.spec = providers.filter EventProviderSpec.isSink ∧
      h = blocks.flatMap SinkBlock.history ∧ (∀ block ∈ blocks, block.Accounted) ∧
      diagnostics = blocks.flatMap SinkBlock.diagnostics ∧
      (∀ providerId installId event h' v,
        Runs (router.emit providerId installId event) h' (.ret v) ↔
          Emits (lastBuilt blocks ⟨providerId, installId⟩) providerId installId event h' v) ∧
      ∀ key blocks', List.Forall₂ (SinkBlock.AgreeOff key) blocks blocks' →
        ∃ router' diagnostics', (∀ out, Runs (buildSinkRouter providers)
            (blocks'.flatMap SinkBlock.history) (.ret out) ↔ out = (router', diagnostics')) ∧
          (∀ key', key' ≠ key → router'.providers key' = router.providers key') ∧
          (diagnostics'.filter fun d => !d.isAbout key) =
            diagnostics.filter fun d => !d.isAbout key := by
  obtain ⟨blocks, hspecs, rfl, rfl, rfl⟩ := buildSinkRouter_runs.mp hr
  refine ⟨blocks, hspecs, rfl, fun block _ => block.accounted, rfl, ?_, ?_⟩
  · intro providerId installId event h' v
    rw [emit_runs, built_providers]
  · intro key blocks' hagree
    -- the changed blocks are a run again, as only outcomes differ
    have hr' := buildSinkRouter_runs.mpr
      ⟨blocks', (agreeOff_specs hagree).symm.trans hspecs, rfl, rfl, rfl⟩
    obtain ⟨hrouting, hdiagnostics⟩ := agreeOff_same hagree
    refine ⟨SinkRouter.empty.insertAll (blocks'.flatMap SinkBlock.instances),
      blocks'.flatMap SinkBlock.diagnostics, fun out => ⟨fun hout => ?_, ?_⟩, ?_,
      hdiagnostics.symm⟩
    · exact Prog.ret.inj (hout.unique hr')
    · rintro rfl
      exact hr'
    · intro key' hne
      rw [built_providers, built_providers, hrouting key' hne]

def sinkSpec : EventProviderSpec := { githubSpec with kind := .sink }

def oneSink : List SinkBlock :=
  [⟨sinkSpec, .ok [⟨githubInstall, .built ⟨githubInstall, .empty, .empty⟩ 7⟩]⟩]

theorem oneSink_runs :
    Runs (buildSinkRouter [githubSpec, sinkSpec]) (oneSink.flatMap SinkBlock.history)
      (.ret (SinkRouter.empty.insert githubInstall.key 7, [])) :=
  buildSinkRouter_runs.mpr ⟨oneSink, rfl, rfl, rfl, rfl⟩

/-- An install of another tenant with the ids of `githubInstall`. -/
def rivalInstall : ProviderInstallRecord := { githubInstall with tenant := tenantA }

def brokenInstall : ProviderInstallRecord := { githubInstall with installId := "install-2" }

/-- One install is built as instance 7, and one cannot be built. -/
def keptPairs : List SinkPair :=
  [⟨githubInstall, .built ⟨githubInstall, .empty, .empty⟩ 7⟩,
    ⟨brokenInstall, .notBuilt ⟨brokenInstall, .empty, .empty⟩ "no component"⟩]

/-- The rival's install is listed first, and built as instance 6. -/
def rivalSinks : List SinkBlock :=
  [⟨sinkSpec, .ok (⟨rivalInstall, .built ⟨rivalInstall, .empty, .empty⟩ 6⟩ :: keptPairs)⟩]

def rivalRouter : SinkRouter := SinkRouter.empty.insertAll (rivalSinks.flatMap SinkBlock.instances)

theorem rivalSinks_runs :
    Runs (buildSinkRouter [githubSpec, sinkSpec]) (rivalSinks.flatMap SinkBlock.history)
      (.ret (rivalRouter, rivalSinks.flatMap SinkBlock.diagnostics)) :=
  buildSinkRouter_runs.mpr ⟨rivalSinks, rfl, rfl, rfl, rfl⟩

theorem sink_router_accounts_rivals :
    ∃ blocks : List SinkBlock, blocks.map SinkBlock.spec = [sinkSpec] ∧
      rivalSinks.flatMap SinkBlock.history = blocks.flatMap SinkBlock.history ∧
      rivalSinks.flatMap SinkBlock.diagnostics = blocks.flatMap SinkBlock.diagnostics ∧
      lastBuilt blocks githubInstall.key = some 7 := by
  obtain ⟨blocks, hspecs, hhistory, -, hdiagnostics, hemits, -⟩ :=
    sink_router_accounts rivalSinks_runs
  refine ⟨blocks, hspecs, hhistory, hdiagnostics, ?_⟩
  -- an event for the key of both is taken by instance 7
  have hemit : Runs (rivalRouter.emit "events.github" "install-1" keyedEvent)
    [⟨.publish 7 keyedEvent, .ok ()⟩] (.ret (.ok ())) := emit_runs.mpr rfl
  have hfound : Emits (lastBuilt blocks githubInstall.key) "events.github" "install-1" keyedEvent
    [⟨.publish 7 keyedEvent, .ok ()⟩] (.ok ()) := (hemits _ _ _ _ _).mp hemit
  unfold Emits at hfound
  cases hlast : lastBuilt blocks githubInstall.key with
  | none =>
    rw [hlast] at hfound
    cases hfound.1
  | some provider =>
    rw [hlast] at hfound
    cases hfound
    rfl

/-- The store after these records were stored, in order, by `insert` or `update_install`. -/
def stored (records : List ProviderInstallRecord) : InMemoryInstallStore :=
  records.foldl InMemoryInstallStore.insert .empty

theorem stored_snoc (records : List ProviderInstallRecord) (record : ProviderInstallRecord) :
    stored (records ++ [record]) = (stored records).insert record :=
  List.foldl_append

/-- Storing a record changes what is stored under its own key only, whatever the tenants. -/
theorem stored_snoc_get (records : List ProviderInstallRecord) (record : ProviderInstallRecord)
    (key : ProviderInstallKey) : (stored (records ++ [record])).get key =
      if key = record.key then some record else (stored records).get key := by
  rw [stored_snoc]
  split_ifs with hk
  · rw [hk, InMemoryInstallStore.get_insert_self]
  · exact InMemoryInstallStore.get_insert_of_ne _ hk

/-- A key holds the record stored last with it. -/
theorem stored_get (records : List ProviderInstallRecord) (key : ProviderInstallKey) :
    (stored records).get key = records.reverse.find? fun record => record.key = key := by
  induction records using List.reverseRecOn with
  | nil => rfl
  | append_singleton records record ih =>
    rw [stored_snoc_get, ih, List.reverse_append]
    by_cases hk : key = record.key
    · simp [hk]
    · simp [hk, Ne.symm hk]

/-- The answers of a fixed store, and of whole runs of `resolve`. -/
def AnsweredBy (s : InMemoryInstallStore) : Event routerInterface → Prop
  | ⟨.listInstalls providerId, answer⟩ => ∃ l, answer = .ok l ∧ s.Lists providerId l
  | ⟨.resolve record, answer⟩ => ∃ h, Runs (resolve record) h (.ret answer)
  | ⟨.buildProvider _ _, _⟩ => True

/-- An instance that `emit` finds was built from the record stored under the key. -/
theorem lastBuilt_record {s : InMemoryInstallStore} {blocks : List SinkBlock}
    (hans : ∀ e ∈ blocks.flatMap SinkBlock.history, AnsweredBy s e) {key : ProviderInstallKey}
    {provider : ProviderInstance} (hbuilt : lastBuilt blocks key = some provider) :
    ∃ record spec install, s.get key = some record ∧ install.record = record ∧
      ⟨.buildProvider spec install, .ok provider⟩ ∈ blocks.flatMap SinkBlock.history := by
  obtain ⟨before, after, hsplit, -⟩ := List.lookup_eq_some_iff.mp hbuilt
  have hmem : (key, provider) ∈ blocks.flatMap SinkBlock.instances := by
    rw [← List.mem_reverse, hsplit]
    exact List.mem_append_right _ List.mem_cons_self
  obtain ⟨⟨spec, listing⟩, hblock, hmem⟩ := List.mem_flatMap.mp hmem
  cases listing with
  | error err => exact absurd hmem List.not_mem_nil
  | ok pairs =>
    obtain ⟨⟨record, outcome⟩, hpair, hmem⟩ := List.mem_flatMap.mp hmem
    -- only a record that was built has an instance
    cases outcome with
    | unresolved err => exact absurd hmem List.not_mem_nil
    | notBuilt install err => exact absurd hmem List.not_mem_nil
    | built install provider' =>
      obtain ⟨rfl, rfl⟩ := Prod.mk.inj (List.mem_singleton.mp hmem)
      have hhistory (e : Event routerInterface)
          (he : e ∈ SinkBlock.history ⟨spec, .ok pairs⟩) :
          e ∈ blocks.flatMap SinkBlock.history :=
        List.mem_flatMap.mpr ⟨_, hblock, he⟩
      have hof (e : Event routerInterface)
          (he : e ∈ SinkPair.history spec ⟨record, .built install provider⟩) :
          e ∈ blocks.flatMap SinkBlock.history :=
        hhistory e (List.mem_cons_of_mem _ (List.mem_flatMap.mpr ⟨_, hpair, he⟩))
      obtain ⟨l, hl, hlists⟩ := hans _ (hhistory _ List.mem_cons_self)
      obtain rfl := Except.ok.inj hl
      obtain ⟨h, hr⟩ := hans _ (hof _ List.mem_cons_self)
      refine ⟨record, spec, install, hlists.stored (List.mem_map_of_mem hpair),
        resolve_record hr, hof _ (List.mem_cons_of_mem _ List.mem_cons_self)⟩

theorem emit_calls {router : SinkRouter} {providerId installId : String} {event : EventEnvelope}
    {h : BusHistory} {q : BusProg (Except String Unit)}
    (hr : Runs (router.emit providerId installId event) h q) {call : ProviderCall}
    (hcall : call ∈ calls h) :
    router.providers ⟨providerId, installId⟩ = some call.provider ∧ call.event = event := by
  unfold SinkRouter.emit at hr
  cases hfound : router.providers ⟨providerId, installId⟩ with
  | none =>
    rw [hfound] at hr
    obtain ⟨rfl, -⟩ := runs_ret.mp hr
    exact absurd hcall List.not_mem_nil
  | some provider =>
    rw [hfound] at hr
    dsimp only at hr
    rw [BusProg.publish, perform_bind, runs_ask] at hr
    rcases hr with ⟨rfl, -⟩ | ⟨answer, h, rfl, hr⟩
    · exact absurd hcall List.not_mem_nil
    · have hrest : h = [] := by cases answer <;> exact (runs_ret.mp hr).1
      subst hrest
      obtain rfl := List.mem_singleton.mp hcall
      exact ⟨rfl, rfl⟩

/-- The same environment and tenant id. -/
def SameTenant (a b : TenantCtx) : Prop := a.env = b.env ∧ a.tenant = b.tenant

/-- An emitted event reaches an instance built from the record stored last under the key
it is emitted to, so one of its own tenant as far as all records stored there are.
Storing a record replaces the one with its key, whatever the tenants, and no other. -/
theorem sinks_keyed_by_install {records : List ProviderInstallRecord}
    {providers : List EventProviderSpec} {h : RouterHistory} {router : SinkRouter}
    {diagnostics : List RuntimeDiagnostic}
    (hr : Runs (buildSinkRouter providers) h (.ret (router, diagnostics)))
    (hans : ∀ e ∈ h, AnsweredBy (stored records) e) :
    (∀ providerId installId event h' q call, Runs (router.emit providerId installId event) h' q →
      call ∈ calls h' → call.event = event ∧
      ∃ record spec install,
        (records.reverse.find? fun r => r.key = ⟨providerId, installId⟩) = some record ∧
        install.record = record ∧ ⟨.buildProvider spec install, .ok call.provider⟩ ∈ h ∧
        ((∀ r ∈ records, r.key = ⟨providerId, installId⟩ → SameTenant r.tenant event.tenant) →
          SameTenant install.record.tenant event.tenant)) ∧
    ∀ record key, (stored (records ++ [record])).get key =
      if key = record.key then some record else (stored records).get key := by
  refine ⟨?_, stored_snoc_get records⟩
  intro providerId installId event h' q call hemit hcall
  obtain ⟨hfound, hevent⟩ := emit_calls hemit hcall
  obtain ⟨blocks, hspecs, rfl, rfl, rfl⟩ := buildSinkRouter_runs.mp hr
  rw [built_providers] at hfound
  obtain ⟨record, spec, install, hget, hrecord, hbuilt⟩ := lastBuilt_record hans hfound
  have hlast := (stored_get records _).symm.trans hget
  refine ⟨hevent, record, spec, install, hlast, hrecord, hbuilt, ?_⟩
  intro hsame
  rw [stored_get] at hget
  have hmem : record ∈ records := List.mem_reverse.mp (List.mem_of_find?_eq_some hget)
  rw [hrecord]
  exact hsame record hmem (by simpa using List.find?_some hget)

/-- The install of `githubInstall`'s tenant is there, and the event is another tenant's. -/
theorem oneSink_answered :
    ∀ e ∈ oneSink.flatMap SinkBlock.history, AnsweredBy (stored [githubInstall]) e := by
  have hlists : (stored [githubInstall]).Lists "events.github" [githubInstall] := .refl _
  have hresolved : Runs (resolve githubInstall) []
      (.ret (.ok ⟨githubInstall, .empty, .empty⟩)) := .refl _
  intro e he
  simp only [oneSink, SinkBlock.history, SinkPair.history, List.flatMap_cons, List.flatMap_nil,
    List.map_cons, List.map_nil, List.append_nil, List.mem_cons, List.not_mem_nil, or_false] at he
  rcases he with rfl | rfl | rfl
  · exact ⟨_, rfl, hlists⟩
  · exact ⟨[], hresolved⟩
  · trivial

theorem oneSink_emits (event : EventEnvelope) :
    Runs ((SinkRouter.empty.insert githubInstall.key 7).emit "events.github" "install-1" event)
      [⟨.publish 7 event, .ok ()⟩] (.ret (.ok ())) :=
  emit_runs.mpr rfl

def keptSinks : List SinkBlock := [⟨sinkSpec, .ok keptPairs⟩]

/-- The rival's record was there first, under the same key. -/
theorem keptSinks_answered : ∀ e ∈ keptSinks.flatMap SinkBlock.history,
    AnsweredBy (stored [rivalInstall, githubInstall, brokenInstall]) e := by
  have hlists : (stored [rivalInstall, githubInstall, brokenInstall]).Lists "events.github"
    [githubInstall, brokenInstall] := List.Perm.swap ..
  have hresolved (record : ProviderInstallRecord) (hconfig : record.configRefs = .empty)
      (hsecret : record.secretRefs = .empty) :
      Runs (resolve record) [] (.ret (.ok ⟨record, .empty, .empty⟩)) := by
    rw [resolve, hconfig, hsecret]
    exact .refl _
  intro e he
  simp only [keptSinks, keptPairs, SinkBlock.history, SinkPair.history, List.flatMap_cons,
    List.flatMap_nil, List.map_cons, List.map_nil, List.append_nil, List.mem_cons, List.mem_append,
    List.not_mem_nil, or_false] at he
  rcases he with rfl | (rfl | rfl) | rfl | rfl
  · exact ⟨_, rfl, hlists⟩
  · exact ⟨[], hresolved githubInstall rfl rfl⟩
  · trivial
  · exact ⟨[], hresolved brokenInstall rfl rfl⟩
  · trivial

theorem sinks_keyed_by_install_rivals : ∃ spec install,
    ⟨.buildProvider spec install, .ok 7⟩ ∈ keptSinks.flatMap SinkBlock.history ∧
      install.record = githubInstall := by
  have hr : Runs (buildSinkRouter [githubSpec, sinkSpec]) (keptSinks.flatMap SinkBlock.history)
      (.ret (SinkRouter.empty.insertAll (keptSinks.flatMap SinkBlock.instances),
        keptSinks.flatMap SinkBlock.diagnostics)) :=
    buildSinkRouter_runs.mpr ⟨keptSinks, rfl, rfl, rfl, rfl⟩
  have hemit : Runs ((SinkRouter.empty.insertAll (keptSinks.flatMap SinkBlock.instances)).emit
      "events.github" "install-1" keyedEvent) [⟨.publish 7 keyedEvent, .ok ()⟩]
      (.ret (.ok ())) := emit_runs.mpr rfl
  obtain ⟨hemits, -⟩ := sinks_keyed_by_install hr keptSinks_answered
  obtain ⟨-, record, spec, install, hlast, hrecord, hbuilt, -⟩ :=
    hemits _ _ keyedEvent _ _ _ hemit List.mem_cons_self
  cases hlast
  exact ⟨spec, install, hbuilt, hrecord⟩

/-- An event of `tenant-a` reaches the instance of another tenant's install, and storing
a record replaces another tenant's with the same key. -/
theorem sinks_not_isolated :
    (¬ ∀ (records : List ProviderInstallRecord) (providers : List EventProviderSpec)
        (h : RouterHistory) (router : SinkRouter) (diagnostics : List RuntimeDiagnostic)
        (providerId installId : String) (event : EventEnvelope) (h' : BusHistory)
        (q : BusProg (Except String Unit)) (call : ProviderCall),
      Runs (buildSinkRouter providers) h (.ret (router, diagnostics)) →
      (∀ e ∈ h, AnsweredBy (stored records) e) →
      Runs (router.emit providerId installId event) h' q → call ∈ calls h' →
      ∃ spec install, ⟨.buildProvider spec install, .ok call.provider⟩ ∈ h ∧
        SameTenant install.record.tenant event.tenant) ∧
    ¬ ∀ (records : List ProviderInstallRecord) (record old : ProviderInstallRecord),
      (stored records).get record.key = some old → ¬ SameTenant old.tenant record.tenant →
      (stored (records ++ [record])).get record.key = some old := by
  constructor
  · intro hall
    obtain ⟨spec, install, hbuilt, hsame⟩ := hall _ _ _ _ _ _ _ keyedEvent _ _ _ oneSink_runs
      oneSink_answered (oneSink_emits keyedEvent) List.mem_cons_self
    have honly : spec = sinkSpec ∧ install = ⟨githubInstall, .empty, .empty⟩ := by
      simpa [oneSink, SinkBlock.history, SinkPair.history] using hbuilt
    obtain ⟨rfl, rfl⟩ := honly
    exact absurd hsame.2 (by decide)
  · intro hall
    let record : ProviderInstallRecord := { githubInstall with tenant := tenantA }
    have hkept := hall [githubInstall] record githubInstall rfl fun hsame =>
      absurd hsame.2 (by decide)
    rw [stored_snoc_get, if_pos rfl] at hkept
    have htenant := congrArg (fun r => r.map fun r => r.tenant.tenant) hkept
    exact absurd htenant (by decide)

end GreenticEvents
