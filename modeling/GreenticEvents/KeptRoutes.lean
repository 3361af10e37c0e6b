import GreenticEvents.Sinks
import GreenticEvents.Workers

/-!
# The routes of sinks while subscriptions are synced

`build_sink_router` before and after any passes of workers, with the same value
stores and the same factory, to which metadata is its object entries other than
`subscriptions`.
-/

namespace GreenticEvents
open Data Effects Prog

/-- `resolve` asks for nothing but values. -/
def ReadFrom (values : RefKind → String → Except String Json) : Event installInterface → Prop
  | ⟨.read kind reference, answer⟩ => answer = values kind reference
  | _ => False

def Resolves (values : RefKind → String → Except String Json) (record : ProviderInstallRecord)
    (result : Except String ResolvedInstall) : Prop :=
  ∃ reads, Runs (resolve record) reads (.ret result) ∧ ∀ e ∈ reads, ReadFrom values e

abbrev InstallProviderFactory :=
  EventProviderSpec → ResolvedInstall → Except String ProviderInstance

/-- The answers that `build_sink_router` gets over one store. -/
def RoutedIn (values : RefKind → String → Except String Json) (build : InstallProviderFactory)
    (s : InMemoryInstallStore) : Event routerInterface → Prop
  | ⟨.listInstalls providerId, answer⟩ => ∃ l, answer = .ok l ∧ s.Lists providerId l
  | ⟨.resolve record, answer⟩ => Resolves values record answer
  | ⟨.buildProvider spec install, answer⟩ => answer = build spec install

/-- The factory does not look at what a pass writes: not at `subscriptions_state`, and at metadata
only for its object entries other than `subscriptions`.  One that tells apart metadata that is no
object, which a pass drops, is not among these. -/
def IgnoresSubscriptions (build : InstallProviderFactory) : Prop :=
  ∀ spec install record, SameElsewhere install.record record →
    build spec { install with record := record } = build spec install

section Pairs

variable {values : RefKind → String → Except String Json} {build : InstallProviderFactory}
  {a b : ProviderInstallRecord} {x y : Except String ResolvedInstall} {install : ResolvedInstall}
  {s s' : InMemoryInstallStore}

/-- Records with the same references are resolved by the same reads. -/
theorem resolve_of_same (h : SameElsewhere a b) {reads : List (Event installInterface)}
    (hr : Runs (resolve a) reads (.ret x)) :
    Runs (resolve b) reads (.ret (x.map fun install => { install with record := b })) := by
  have hconfig : b.configRefs = a.configRefs := by rw [h.fields]
  have hsecret : b.secretRefs = a.secretRefs := by rw [h.fields]
  unfold resolve at hr ⊢
  rw [hconfig, hsecret]
  obtain ⟨config, h₁, h₂, rfl, hread, hr⟩ := runs_bind_ret hr
  refine bind_runs hread ?_
  cases config with
  | error err =>
    obtain ⟨rfl, hret⟩ := runs_ret.mp hr
    cases hret
    exact .refl _
  | ok config =>
    obtain ⟨secrets, h₃, h₄, rfl, hread, hr⟩ := runs_bind_ret hr
    refine bind_runs hread ?_
    cases secrets with
    | error err =>
      obtain ⟨rfl, hret⟩ := runs_ret.mp hr
      cases hret
      exact .refl _
    | ok secrets =>
      obtain ⟨rfl, hret⟩ := runs_ret.mp hr
      cases hret
      exact .refl _

theorem Resolves.same (h : SameElsewhere a b) (ha : Resolves values a x)
    (hb : Resolves values b y) : y = x.map fun install => { install with record := b } := by
  obtain ⟨reads, hr, hreads⟩ := ha
  obtain ⟨reads', hr', hreads'⟩ := hb
  refine runs_functional (P := ReadFrom values) ?_ hr' (resolve_of_same h hr) hreads' hreads
  intro o answer answer' hanswer hanswer'
  cases o with
  | read kind reference => exact Eq.trans hanswer (Eq.symm hanswer')
  | _ => exact hanswer.elim

theorem Resolves.record (h : Resolves values a (.ok install)) : install.record = a := by
  obtain ⟨reads, hr, -⟩ := h
  exact resolve_record hr

/-- What becomes of a record that is resolved so. -/
def outcomeOf (build : InstallProviderFactory) (spec : EventProviderSpec) :
    Except String ResolvedInstall → PairOutcome
  | .error err => .unresolved err
  | .ok install =>
    match build spec install with
    | .error err => .notBuilt install err
    | .ok provider => .built install provider

theorem outcome_of_routed {spec : EventProviderSpec} {pair : SinkPair}
    (h : ∀ e ∈ pair.history spec, RoutedIn values build s e) :
    ∃ result, Resolves values pair.record result ∧ pair.outcome = outcomeOf build spec result := by
  obtain ⟨record, outcome⟩ := pair
  cases outcome with
  | unresolved err => exact ⟨.error err, h ⟨.resolve record, .error err⟩ (.head _), rfl⟩
  | notBuilt install err =>
    have hfailed : .error err = build spec install :=
      h ⟨.buildProvider spec install, .error err⟩ (.tail _ (.head _))
    refine ⟨.ok install, h ⟨.resolve record, .ok install⟩ (.head _), ?_⟩
    rw [outcomeOf, ← hfailed]
  | built install provider =>
    have hmade : .ok provider = build spec install :=
      h ⟨.buildProvider spec install, .ok provider⟩ (.tail _ (.head _))
    refine ⟨.ok install, h ⟨.resolve record, .ok install⟩ (.head _), ?_⟩
    rw [outcomeOf, ← hmade]

/-- A pair whose record is a later version of a pair's record gives the same. -/
theorem pair_same {spec : EventProviderSpec} {pair pair' : SinkPair}
    (hbuild : IgnoresSubscriptions build) (h : SameElsewhere pair.record pair'.record)
    (hpair : ∀ e ∈ pair.history spec, RoutedIn values build s e)
    (hpair' : ∀ e ∈ pair'.history spec, RoutedIn values build s' e) :
    pair.instances = pair'.instances ∧ pair.diagnostics = pair'.diagnostics := by
  obtain ⟨result, hresolved, houtcome⟩ := outcome_of_routed hpair
  obtain ⟨result', hresolved', houtcome'⟩ := outcome_of_routed hpair'
  obtain ⟨record, outcome⟩ := pair
  obtain ⟨record', outcome'⟩ := pair'
  have hresult : result' = result.map fun install => { install with record := record' } :=
    hresolved.same h hresolved'
  cases houtcome
  cases houtcome'
  subst hresult
  have hkey : record'.key = record.key := h.key_eq
  obtain ⟨hprovider, hinstall⟩ : record'.providerId = record.providerId ∧
      record'.installId = record.installId := by
    simpa [ProviderInstallRecord.key] using hkey
  cases result with
  | error err =>
    simp [Except.map, SinkPair.instances, SinkPair.diagnostics, hprovider, hinstall]
  | ok install =>
    have hbuilt : build spec { install with record := record' } = build spec install := by
      apply hbuild
      rw [hresolved.record]
      exact h
    -- equal answers of the factory under one key
    simp only [Except.map, hbuilt]
    cases build spec install with
    | error err => simp [SinkPair.instances, SinkPair.diagnostics, hprovider, hinstall]
    | ok provider => simp [SinkPair.instances, SinkPair.diagnostics, hkey]

end Pairs

/-- The second store has the same keys, and under each a version of the record. -/
structure KeptIn (s s' : InMemoryInstallStore) : Prop where
  absent : ∀ key, s.get key = none → s'.get key = none
  present : ∀ key r, s.get key = some r → ∃ r', s'.get key = some r' ∧ SameElsewhere r r'

theorem InMemoryInstallStore.Lists.mem_keys {s : InMemoryInstallStore} {providerId : String}
    {l : List ProviderInstallRecord} (h : s.Lists providerId l) (key : ProviderInstallKey) :
    key ∈ l.map ProviderInstallRecord.key ↔
      key.providerId = providerId ∧ (s.get key).isSome = true := by
  constructor
  · intro hmem
    obtain ⟨r, hr, rfl⟩ := List.mem_map.mp hmem
    have hlisted := List.mem_filter.mp (h.mem_iff.mp hr)
    have hprovider : r.providerId = providerId := by simpa using hlisted.2
    exact ⟨hprovider, h.stored hr ▸ rfl⟩
  · rintro ⟨rfl, hsome⟩
    obtain ⟨r, hr⟩ := Option.isSome_iff_exists.mp hsome
    have hkey := InMemoryInstallStore.get_key hr
    refine List.mem_map.mpr ⟨r, h.mem_iff.mpr (List.mem_filter.mpr ⟨?_, ?_⟩), hkey⟩
    · exact InMemoryInstallStore.mem_iff_get.mpr (hkey ▸ hr)
    · simp [← hkey, ProviderInstallRecord.key]

theorem KeptIn.keys {s s' : InMemoryInstallStore} (h : KeptIn s s') (key : ProviderInstallKey) :
    (s.get key).isSome = true ↔ (s'.get key).isSome = true := by
  cases hget : s.get key with
  | none => simp [h.absent key hget]
  | some r =>
    obtain ⟨r', hr', -⟩ := h.present key r hget
    simp [hr']

section Blocks

variable {values : RefKind → String → Except String Json} {build : InstallProviderFactory}
  {s s' : InMemoryInstallStore}

/-- A sink's records are those that the store lists. -/
theorem listing_of_routed {block : SinkBlock}
    (h : ∀ e ∈ block.history, RoutedIn values build s e) :
    ∃ pairs, block.listing = .ok pairs ∧
      s.Lists block.spec.name (pairs.map SinkPair.record) ∧
      ∀ pair ∈ pairs, ∀ e ∈ pair.history block.spec, RoutedIn values build s e := by
  obtain ⟨spec, listing⟩ := block
  cases listing with
  | error err =>
    obtain ⟨l, hl, -⟩ : ∃ l, Except.error err = .ok l ∧ s.Lists spec.name l :=
      h ⟨.listInstalls spec.name, .error err⟩ (.head _)
    cases hl
  | ok pairs =>
    obtain ⟨l, hl, hlists⟩ : ∃ l, Except.ok (pairs.map SinkPair.record) = .ok l ∧
        s.Lists spec.name l :=
      h ⟨.listInstalls spec.name, .ok (pairs.map SinkPair.record)⟩ (.head _)
    cases hl
    refine ⟨pairs, rfl, hlists, fun pair hpair e he => ?_⟩
    exact h e (List.mem_cons_of_mem _ (List.mem_flatMap.mpr ⟨pair, hpair, he⟩))

/-- A record yields one instance at most, under its key. -/
theorem instances_keys (pairs : List SinkPair) :
    ((pairs.flatMap SinkPair.instances).map Prod.fst).Sublist
      ((pairs.map SinkPair.record).map ProviderInstallRecord.key) := by
  induction pairs with
  | nil => exact .refl _
  | cons pair pairs ih =>
    rw [List.flatMap_cons, List.map_append]
    rcases pair.accounted with ⟨provider, hinstance, -⟩ | ⟨d, hnone, -⟩
    · rw [hinstance]
      exact ih.cons_cons pair.record.key
    · rw [hnone]
      exact ih.cons pair.record.key

structure SameWork (block block' : SinkBlock) : Prop where
  instances : block.instances.Perm block'.instances
  diagnostics : block.diagnostics.Perm block'.diagnostics
  distinct : (block.instances.map Prod.fst).Nodup

theorem block_same {block block' : SinkBlock} (hbuild : IgnoresSubscriptions build)
    (hkept : KeptIn s s') (hspec : block.spec = block'.spec)
    (h : ∀ e ∈ block.history, RoutedIn values build s e)
    (h' : ∀ e ∈ block'.history, RoutedIn values build s' e) : SameWork block block' := by
  obtain ⟨pairs, hlisting, hlists, hpairs⟩ := listing_of_routed h
  obtain ⟨pairs', hlisting', hlists', hpairs'⟩ := listing_of_routed h'
  obtain ⟨spec, listing⟩ := block
  obtain ⟨spec', listing'⟩ := block'
  cases hspec
  cases hlisting
  cases hlisting'
  let key (pair : SinkPair) : ProviderInstallKey := pair.record.key
  have hmap (pairs : List SinkPair) :
      pairs.map key = (pairs.map SinkPair.record).map ProviderInstallRecord.key := by
    rw [List.map_map]
    rfl
  have hkeys (k : ProviderInstallKey) : k ∈ pairs.map key ↔ k ∈ pairs'.map key := by
    rw [hmap, hmap, hlists.mem_keys, hlists'.mem_keys, hkept.keys]
  -- two pairs with the same key are of two versions of one record
  have hsame (pair : SinkPair) (hpair : pair ∈ pairs) (pair' : SinkPair) (hpair' : pair' ∈ pairs')
      (hkey : key pair = key pair') :
      pair.instances = pair'.instances ∧ pair.diagnostics = pair'.diagnostics := by
    have hstored := hlists.stored (List.mem_map_of_mem hpair)
    have hstored' := hlists'.stored (List.mem_map_of_mem hpair')
    obtain ⟨r, hr, hversion⟩ := hkept.present _ _ hstored
    have hrecord : r = pair'.record := by
      have hget : s'.get pair.record.key = some pair'.record := by
        rw [show pair.record.key = pair'.record.key from hkey]
        exact hstored'
      exact Option.some.inj (hr.symm.trans hget)
    exact pair_same hbuild (hrecord ▸ hversion) (hpairs pair hpair) (hpairs' pair' hpair')
  have hn : (pairs.map key).Nodup := hmap pairs ▸ hlists.distinct
  have hn' : (pairs'.map key).Nodup := hmap pairs' ▸ hlists'.distinct
  refine ⟨?_, ?_, hlists.distinct.sublist (instances_keys pairs)⟩
  · exact flatMap_perm_of_keys key _ hn hn' hkeys fun a ha b hb hk => (hsame a ha b hb hk).1
  · exact flatMap_perm_of_keys key _ hn hn' hkeys fun a ha b hb hk => (hsame a ha b hb hk).2

theorem blocks_same {blocks blocks' : List SinkBlock} (hbuild : IgnoresSubscriptions build)
    (hkept : KeptIn s s') (hspecs : blocks.map SinkBlock.spec = blocks'.map SinkBlock.spec)
    (h : ∀ e ∈ blocks.flatMap SinkBlock.history, RoutedIn values build s e)
    (h' : ∀ e ∈ blocks'.flatMap SinkBlock.history, RoutedIn values build s' e) :
    List.Forall₂ SameWork blocks blocks' := by
  induction blocks generalizing blocks' with
  | nil =>
    rw [List.map_eq_nil_iff.mp hspecs.symm]
    exact .nil
  | cons block blocks ih =>
    obtain ⟨block', blocks', rfl, hspec, hspecs⟩ := List.map_eq_cons_iff.mp hspecs.symm
    rw [List.flatMap_cons, List.forall_mem_append] at h h'
    exact .cons (block_same hbuild hkept hspec.symm h.1 h'.1) (ih hspecs.symm h.2 h'.2)

theorem lastBuilt_same {blocks blocks' : List SinkBlock}
    (h : List.Forall₂ SameWork blocks blocks') (key : ProviderInstallKey) :
    lastBuilt blocks key = lastBuilt blocks' key := by
  unfold lastBuilt
  induction h with
  | nil => rfl
  | cons hblock _ ih =>
    rw [List.flatMap_cons, List.flatMap_cons, List.reverse_append, List.reverse_append,
      List.lookup_append, List.lookup_append, ih,
      lookup_reverse_of_perm hblock.instances hblock.distinct]

theorem diagnostics_same {blocks blocks' : List SinkBlock}
    (h : List.Forall₂ SameWork blocks blocks') :
    (blocks.flatMap SinkBlock.diagnostics).Perm (blocks'.flatMap SinkBlock.diagnostics) := by
  induction h with
  | nil => exact .refl _
  | cons hblock _ ih =>
    rw [List.flatMap_cons, List.flatMap_cons]
    exact hblock.diagnostics.append ih

end Blocks

section Runs

variable {π : Type} [DecidableEq π] {readable : RefKind → String → Prop} {pass : π → WorkerPass}
  {s₀ : InMemoryInstallStore} {log : WorkersLog π}
  {c : Config π InMemoryInstallStore (WorkerProg (List RuntimeDiagnostic))}

theorem keptIn_of_run (hr : (workersSystem π readable).Run (workersStart pass s₀) log c)
    (hquiet : ∀ other, .env other ∉ log) : KeptIn s₀ c.shared := by
  have hkept (key : ProviderInstallKey) : Kept pass s₀ key log c.shared :=
    workers_kept hr fun other hmem => absurd hmem (hquiet other)
  constructor
  · intro key hnone
    exact (hkept key).absent hnone
  · intro key r₀ hstart
    obtain ⟨r, hget, hwithin⟩ := (hkept key).within hstart
    exact ⟨r, hget, hwithin.same⟩

/-- However passes of workers interleave, `build_sink_router` over the store they leave gives the
router that it gave over the store they found, and the same diagnostics in some order. -/
theorem passes_keep_routes
    (hr : (workersSystem π readable).Run (workersStart pass s₀) log c)
    (hquiet : ∀ other, .env other ∉ log) {values : RefKind → String → Except String Json}
    {build : InstallProviderFactory} (hbuild : IgnoresSubscriptions build)
    {providers : List EventProviderSpec} {h h' : RouterHistory} {router router' : SinkRouter}
    {diagnostics diagnostics' : List RuntimeDiagnostic}
    (hbefore : Runs (buildSinkRouter providers) h (.ret (router, diagnostics)))
    (hfound : ∀ e ∈ h, RoutedIn values build s₀ e)
    (hafter : Runs (buildSinkRouter providers) h' (.ret (router', diagnostics')))
    (hleft : ∀ e ∈ h', RoutedIn values build c.shared e) :
    router = router' ∧ diagnostics.Perm diagnostics' := by
  obtain ⟨blocks, hspecs, rfl, rfl, rfl⟩ := buildSinkRouter_runs.mp hbefore
  obtain ⟨blocks', hspecs', rfl, rfl, rfl⟩ := buildSinkRouter_runs.mp hafter
  have hsame : List.Forall₂ SameWork blocks blocks' :=
    blocks_same hbuild (keptIn_of_run hr hquiet) (hspecs.trans hspecs'.symm) hfound hleft
  refine ⟨?_, diagnostics_same hsame⟩
  have hproviders : (SinkRouter.empty.insertAll (blocks.flatMap SinkBlock.instances)).providers =
      (SinkRouter.empty.insertAll (blocks'.flatMap SinkBlock.instances)).providers := by
    funext key
    rw [built_providers, built_providers, lastBuilt_same hsame]
  exact congrArg SinkRouter.mk hproviders

end Runs

def downPassOf (_ : Unit) : WorkerPass := ⟨impatientWorker, [githubSpec], fun _ => true⟩

def githubFactory : InstallProviderFactory := fun _ install =>
  if install.record.packId = "events-github" then .ok 7 else .error "unknown pack"

theorem githubFactory_ignores : IgnoresSubscriptions githubFactory := by
  intro spec install record h
  have hpack : record.packId = install.record.packId := by rw [h.fields]
  simp only [githubFactory, hpack]

def oneSinkOf (record : ProviderInstallRecord) : List SinkBlock :=
  [⟨sinkSpec, .ok [⟨record, .built ⟨record, .empty, .empty⟩ 7⟩]⟩]

theorem oneSinkOf_routed {record : ProviderInstallRecord} {s : InMemoryInstallStore}
    (hlists : s.Lists "events.github" [record]) (hconfig : record.configRefs = .empty)
    (hsecret : record.secretRefs = .empty) (hpack : record.packId = "events-github") :
    ∀ e ∈ (oneSinkOf record).flatMap SinkBlock.history,
      RoutedIn (fun _ _ => .error "down") githubFactory s e := by
  have hresolve : resolve record = .ret (.ok ⟨record, .empty, .empty⟩) := by
    rw [resolve, hconfig, hsecret]
    rfl
  intro e he
  simp only [oneSinkOf, SinkBlock.history, SinkPair.history, List.flatMap_cons, List.flatMap_nil,
    List.map_cons, List.map_nil, List.append_nil, List.mem_cons, List.not_mem_nil, or_false] at he
  rcases he with rfl | rfl | rfl
  · exact ⟨_, rfl, hlists⟩
  · exact ⟨[], hresolve ▸ .refl _, by simp⟩
  · exact (if_pos hpack).symm

theorem passes_keep_routes_down :
    SinkRouter.empty.insert githubInstall.key 7 =
      SinkRouter.empty.insert (githubInstall.failed 2).key 7 := by
  have hlists : storeWithGithub.Lists "events.github" [githubInstall] := List.Perm.refl _
  have h₀ : (workersSystem Unit fun _ _ => False).Run (workersStart downPassOf storeWithGithub) []
    _ := .start
  have h₁ := h₀.acted () ⟨.listInstalls "events.github", .ok [githubInstall]⟩ rfl
    ⟨⟨_, rfl, hlists⟩, rfl⟩
  have h₂ := h₁.acted () ⟨.install (.syncSubscriptions githubSpec
    ⟨githubInstall, .empty, .empty⟩), .error "down"⟩ rfl rfl
  have h₃ := h₂.acted () ⟨.install (.updateInstall (githubInstall.failed 2)), .ok ()⟩ rfl
    ⟨rfl, rfl⟩
  have hafter : (storeWithGithub.insert (githubInstall.failed 2)).Lists "events.github"
    [githubInstall.failed 2] := List.Perm.refl _
  have hruns (record : ProviderInstallRecord) :
      Runs (buildSinkRouter [sinkSpec]) ((oneSinkOf record).flatMap SinkBlock.history)
        (.ret (SinkRouter.empty.insert record.key 7, [])) :=
    buildSinkRouter_runs.mpr ⟨oneSinkOf record, rfl, rfl, rfl, rfl⟩
  exact (passes_keep_routes h₃ (by simp) githubFactory_ignores (hruns githubInstall)
    (oneSinkOf_routed hlists rfl rfl rfl) (hruns (githubInstall.failed 2))
    (oneSinkOf_routed hafter rfl rfl rfl)).1

end GreenticEvents
