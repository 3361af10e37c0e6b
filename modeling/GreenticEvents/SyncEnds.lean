import GreenticEvents.Data.EachAfter
import GreenticEvents.Failures
import GreenticEvents.Retries

/-!
# What a finished sync leaves in the metadata

A run of `sync_install` ends in one of three ways: it could not resolve the
install, the driver succeeded in some attempt, or it failed in all of them.
-/

namespace GreenticEvents
open Data Effects Prog

def clock? : Event installInterface → Option String
  | ⟨.now, now⟩ => some now
  | _ => none

/-- The times that were read, oldest first. -/
def clockReadings (h : InstallHistory) : List String := h.filterMap clock?

/-- What the driver answered to each attempt: an error, or none. -/
abbrev driverResults (h : InstallHistory) : List (Option String) := (syncAttempts h).outcomes

inductive LoopEnd (worker : SubscriptionsWorker) (record : ProviderInstallRecord)
    (h : InstallHistory) : Except String Unit → Prop
  | synced (state : Json) (now : String) (answer : Except String Unit)
      (hw : writes h = [record.synced state now])
      (hans : ⟨.updateInstall (record.synced state now), answer⟩ ∈ h)
      (hdriver : none ∈ driverResults h) (hclock : clockReadings h = [now]) :
      LoopEnd worker record h answer
  | failed (err : String) (hw : writes h = [record.failed worker.maxFailures])
      (hcalled : driverResults h ≠ []) (hdriver : none ∉ driverResults h)
      (hclock : clockReadings h = []) :
      LoopEnd worker record h (.error err)

inductive SyncEnd (worker : SubscriptionsWorker) (record : ProviderInstallRecord)
    (h : InstallHistory) : Except String Unit → Prop
  | unresolved (err : String) (hread : Unreadable record h) (hw : writes h = [])
      (hdriver : driverResults h = []) (hclock : clockReadings h = []) :
      SyncEnd worker record h (.error err)
  | resolved {result : Except String Unit} (hread : ¬ Unreadable record h)
      (hloop : LoopEnd worker record h result) : SyncEnd worker record h result

variable {worker : SubscriptionsWorker} {spec : EventProviderSpec} {record : ProviderInstallRecord}

/-- A failed attempt, with the draw and the sleep after it. -/
theorem LoopEnd.retried {install : ResolvedInstall} {err : String} {rng : Rng} {d : Duration}
    {h : InstallHistory} {result : Except String Unit} (hend : LoopEnd worker record h result) :
    LoopEnd worker record
      (⟨.syncSubscriptions spec install, .error err⟩ :: ⟨.threadRng, rng⟩ :: ⟨.sleep d, ()⟩ :: h)
      result := by
  cases hend with
  | synced state now answer hw hans hdriver hclock =>
    refine .synced state now result hw ?_ (List.mem_cons_of_mem _ hdriver) hclock
    exact List.mem_cons_of_mem _ (List.mem_cons_of_mem _ (List.mem_cons_of_mem _ hans))
  | failed err' hw hcalled hdriver hclock =>
    refine .failed err' hw (List.cons_ne_nil (some err) _) ?_ hclock
    show none ∉ some err :: driverResults h
    simpa using hdriver

theorem syncLoop_end {install : ResolvedInstall} (hinstall : install.record = record)
    {attempt left : ℕ} {lastErr : Option String} {h : InstallHistory} {v : Except String Unit}
    (hsum : attempt + left = worker.retry.maxRetries.toNat + 1) (hleft : 0 < left)
    (hr : Runs (syncLoop worker spec record install attempt left lastErr) h (.ret v)) :
    LoopEnd worker record h v := by
  subst hinstall
  induction left generalizing attempt lastErr h with
  | zero => omega
  | succ left ih =>
    rcases syncLoop_step hr with ⟨state, now, rfl⟩ | ⟨err, answer, hlast, rfl, rfl⟩ |
      ⟨err, rng, h, hlast, rfl, hagain⟩
    · exact .synced state now v rfl (by simp) List.mem_cons_self rfl
    · exact .failed err rfl (List.cons_ne_nil (some err) _) (show none ∉ [some err] by simp) rfl
    · exact (ih (by omega) (by omega) hagain).retried

theorem clockReadings_reads {h : InstallHistory} (hreads : ∀ e ∈ h, e.op.isRead) :
    clockReadings h = [] := by
  apply List.filterMap_eq_nil_iff.mpr
  rintro ⟨o, a⟩ he
  cases o with
  | now => exact absurd (hreads _ he) id
  | _ => rfl

/-- The reads of the references come first and leave no trace in the ends of the loop. -/
theorem LoopEnd.after_reads {h h' : InstallHistory} {result : Except String Unit}
    (hend : LoopEnd worker record h result) (hreads : ∀ e ∈ h', e.op.isRead)
    (hw' : writes h' = []) : LoopEnd worker record (h' ++ h) result := by
  have hwrites : writes (h' ++ h) = writes h := by rw [writes_append, hw', List.nil_append]
  have hresults : driverResults (h' ++ h) = driverResults h := by
    rw [driverResults, syncAttempts_reads hreads]
  have hclocks : clockReadings (h' ++ h) = clockReadings h := by
    rw [clockReadings, List.filterMap_append]
    show clockReadings h' ++ clockReadings h = _
    rw [clockReadings_reads hreads, List.nil_append]
  cases hend with
  | synced state now answer hw hans hdriver hclock =>
    exact .synced state now result (hwrites.trans hw) (List.mem_append_right _ hans)
      (hresults ▸ hdriver) (hclocks.trans hclock)
  | failed err hw hcalled hdriver hclock =>
    exact .failed err (hwrites.trans hw) (hresults ▸ hcalled) (hresults ▸ hdriver)
      (hclocks.trans hclock)

theorem syncInstall_end {h : InstallHistory} {v : Except String Unit}
    (hr : Runs (syncInstall worker spec record) h (.ret v)) : SyncEnd worker record h v := by
  obtain ⟨resolved, h₁, h₂, rfl, hp, hr⟩ := runs_bind_ret hr
  have hreads (e : Event installInterface) (he : e ∈ h₁) : e.op.isRead :=
    (resolve_onlyAsks record).of_mem hp he
  have hw := resolve_writes hp
  cases resolved with
  | error err =>
    obtain ⟨rfl, hret⟩ := runs_ret.mp hr
    cases hret
    rw [List.append_nil]
    have hnone : driverResults h₁ = [] := by
      have hattempts := syncAttempts_reads hreads []
      rw [List.append_nil] at hattempts
      rw [driverResults, hattempts]
      rfl
    exact .unresolved err (resolve_error hp) hw hnone (clockReadings_reads hreads)
  | ok install =>
    have hloop := syncLoop_end (resolve_record hp) (Nat.zero_add _) (Nat.succ_pos _) hr
    refine .resolved ?_ (hloop.after_reads hreads hw)
    rintro ⟨kind, ref, -, err, hmem⟩
    rcases List.mem_append.mp hmem with hmem | hmem
    · exact resolve_ok hp kind ref.2 err hmem
    · exact (syncLoop_onlyAsks install 0 _ none).of_mem hr hmem trivial

/-- The counter in the metadata; a missing or foreign value counts as zero. -/
def storedFailures (metadata : Json) : ℕ :=
  (((subscriptionField metadata "failures").bind Json.asU64).getD 0).toNat

/-- The metadata holds `n` as the counter. -/
def FailuresStored (metadata : Json) (n : ℕ) : Prop :=
  ∃ k : UInt64, subscriptionField metadata "failures" = some (.number (.posInt k)) ∧ k.toNat = n

theorem FailuresStored.eq {metadata : Json} {n : ℕ} (h : FailuresStored metadata n) :
    storedFailures metadata = n := by
  obtain ⟨k, hk, rfl⟩ := h
  rw [storedFailures, hk]
  rfl

theorem failuresStored_of_pos {metadata : Json} (h : storedFailures metadata ≠ 0) :
    FailuresStored metadata (storedFailures metadata) := by
  unfold storedFailures at h ⊢
  cases hfield : subscriptionField metadata "failures" with
  | none => simp [hfield] at h
  | some value =>
    match value with
    | .number (.posInt k) => exact ⟨k, hfield, rfl⟩
    | .number (.negInt _) | .number (.float _) | .null | .bool _ | .string _ | .array _
    | .object _ => simp [hfield, Json.asU64] at h

theorem failuresStored_update {metadata : Json} {lastSync : String} {failures : UInt32}
    {degraded : Bool} {n : ℕ} :
    FailuresStored (updateSubscriptionMetadata metadata lastSync failures degraded) n ↔
      failures.toNat = n := by
  constructor
  · rintro ⟨k, hk, rfl⟩
    rw [failures_update] at hk
    cases hk
    rfl
  · rintro rfl
    exact ⟨_, failures_update .., rfl⟩

/-- The counter is read modulo `2 ^ 32`. -/
theorem failureState_toNat (metadata : Json) :
    (failureState metadata).1.toNat = storedFailures metadata % 2 ^ 32 := by
  rw [failureState_eq]
  exact UInt64.toNat_toUInt32 _

/-- An error comes with a counter that is one more, and `Ok` with a zero. -/
structure CountsResult (before : Json) (result : Except String Unit) (after : Json) : Prop where
  failed : (∃ err, result = .error err) ↔
    FailuresStored after (min (storedFailures before + 1) (2 ^ 32 - 1))
  succeeded : result = .ok () ↔ FailuresStored after 0

theorem countsResult_unwritten {metadata : Json} {err : String} :
    CountsResult metadata (.error err) metadata ↔ storedFailures metadata = 2 ^ 32 - 1 := by
  constructor
  · intro hcounts
    have hnext := (hcounts.failed.mp ⟨err, rfl⟩).eq
    omega
  · intro hfull
    have hstored := @failuresStored_of_pos metadata (by rw [hfull]; decide)
    rw [hfull] at hstored
    refine ⟨iff_of_true ⟨err, rfl⟩ ?_, iff_of_false nofun fun hzero => ?_⟩
    · rw [hfull]
      exact hstored
    · have := hzero.eq
      omega

theorem countsResult_synced (record : ProviderInstallRecord) (state : Json) (now : String) :
    CountsResult record.metadata (.ok ()) (record.synced state now).metadata := by
  refine ⟨iff_of_false nofun fun hnext => ?_, iff_of_true rfl (failuresStored_update.mpr rfl)⟩
  have hzero : (0 : UInt32).toNat = _ := failuresStored_update.mp hnext
  rw [UInt32.toNat_zero] at hzero
  omega

theorem countsResult_failed {maxFailures : UInt32} {err : String} :
    CountsResult record.metadata (.error err) (record.failed maxFailures).metadata ↔
      storedFailures record.metadata < 2 ^ 32 ∨
        2 ^ 32 - 2 ≤ storedFailures record.metadata % 2 ^ 32 := by
  have hstored (n : ℕ) : FailuresStored (record.failed maxFailures).metadata n ↔
      min (storedFailures record.metadata % 2 ^ 32 + 1) (2 ^ 32 - 1) = n := by
    show FailuresStored (updateSubscriptionMetadata ..) n ↔ _
    rw [failuresStored_update, toNat_saturatingAdd, failureState_toNat]
    rfl
  constructor
  · intro hcounts
    have hnext := (hstored _).mp (hcounts.failed.mp ⟨err, rfl⟩)
    omega
  · intro hcond
    refine ⟨iff_of_true ⟨err, rfl⟩ ((hstored _).mpr ?_), iff_of_false nofun fun hzero => ?_⟩
    · omega
    · have := (hstored _).mp hzero
      omega

variable {readable : RefKind → String → Prop} {s s' : InMemoryInstallStore} {h : InstallHistory}
  {result : Except String Unit}

/-- Nothing is written without the references, and otherwise the record as synced or as failed. -/
inductive StoreEnd (worker : SubscriptionsWorker) (record : ProviderInstallRecord)
    (h : InstallHistory) (s s' : InMemoryInstallStore) : Except String Unit → Prop
  | unresolved (err : String) (hread : Unreadable record h) (hdriver : driverResults h = [])
      (hclock : clockReadings h = []) (hstore : s' = s) : StoreEnd worker record h s s' (.error err)
  | synced (state : Json) (now : String) (hread : ¬ Unreadable record h)
      (hdriver : none ∈ driverResults h) (hclock : clockReadings h = [now])
      (hstore : s' = s.insert (record.synced state now)) : StoreEnd worker record h s s' (.ok ())
  | failed (err : String) (hread : ¬ Unreadable record h) (hcalled : driverResults h ≠ [])
      (hdriver : none ∉ driverResults h) (hclock : clockReadings h = [])
      (hstore : s' = s.insert (record.failed worker.maxFailures)) :
      StoreEnd worker record h s s' (.error err)

theorem syncInstall_stored (hr : Runs (syncInstall worker spec record) h (.ret result))
    (hs : (installSystem readable).Served () s h s') : StoreEnd worker record h s s' result := by
  have hstore := served_writes hs
  cases syncInstall_end hr with
  | unresolved err hread hw hdriver hclock =>
    rw [hw] at hstore
    exact .unresolved err hread hdriver hclock hstore
  | resolved hread hloop =>
    cases hloop with
    | synced state now answer hw hans hdriver hclock =>
      -- the in-memory store takes every update
      obtain ⟨_, _, rfl, _⟩ := hs.handled hans
      rw [hw] at hstore
      exact .synced state now hread hdriver hclock hstore
    | failed err hw hcalled hdriver hclock =>
      rw [hw] at hstore
      exact .failed err hread hcalled hdriver hclock hstore

/-- The diagnostic for a call of a pass that failed. -/
def passDiagnostic? : Event passInterface → Option RuntimeDiagnostic
  | ⟨.listInstalls providerId, .error err⟩ => some ⟨providerId, none, .malformedInstall, err⟩
  | ⟨.syncInstall _ record, .error err⟩ =>
    some ⟨record.providerId, some record.installId, .subscriptionSyncFailed, err⟩
  | _ => none

theorem syncRecords_diagnostics {records : List ProviderInstallRecord}
    {diagnostics out : List RuntimeDiagnostic} {hp : PassHistory}
    (hr : Runs (syncRecords spec records diagnostics) hp (.ret out)) :
    out = diagnostics ++ hp.filterMap passDiagnostic? := by
  induction records generalizing diagnostics hp with
  | nil =>
    obtain ⟨rfl, hret⟩ := runs_ret.mp hr
    cases hret
    exact (List.append_nil _).symm
  | cons record records ih =>
    rw [syncRecords, PassProg.syncInstall, perform_bind, runs_ask_ret] at hr
    obtain ⟨result, hp, rfl, hr⟩ := hr
    cases result with
    | ok u =>
      rw [ih hr]
      rfl
    | error err =>
      rw [ih hr, List.append_assoc]
      rfl

theorem syncProviders_diagnostics {specs : List EventProviderSpec}
    {diagnostics out : List RuntimeDiagnostic} {hp : PassHistory}
    (hr : Runs (syncProviders specs diagnostics) hp (.ret out)) :
    out = diagnostics ++ hp.filterMap passDiagnostic? := by
  induction specs generalizing diagnostics hp with
  | nil =>
    obtain ⟨rfl, hret⟩ := runs_ret.mp hr
    cases hret
    exact (List.append_nil _).symm
  | cons spec specs ih =>
    rw [syncProviders, PassProg.listInstalls, perform_bind, runs_ask_ret] at hr
    obtain ⟨answer, hp, rfl, hr⟩ := hr
    cases answer with
    | error err =>
      rw [ih hr, List.append_assoc]
      rfl
    | ok installs =>
      obtain ⟨diagnostics', h₁, h₂, rfl, hrecords, hr⟩ := runs_bind_ret hr
      rw [ih hr, syncRecords_diagnostics hrecords, List.append_assoc]
      exact congrArg (diagnostics ++ ·) List.filterMap_append.symm

/-- A pass reports each listing and each sync that failed, in order, and nothing else. -/
theorem syncAll_diagnostics {providers : List EventProviderSpec}
    {subscriptionFilter : EventProviderSpec → Bool} {out : List RuntimeDiagnostic}
    {hp : PassHistory} (hr : Runs (syncAll providers subscriptionFilter) hp (.ret out)) :
    out = hp.filterMap passDiagnostic? :=
  syncProviders_diagnostics hr

/-- The result of a run and the counter that it leaves match exactly when the references were
read and the driver succeeded once or the counter fits its 32 bits, or the references were not
read and the counter is full already.  A pass reports every error. -/
theorem countsResult_iff (hstored : s.get record.key = some record)
    (hr : Runs (syncInstall worker spec record) h (.ret result))
    (hs : (installSystem readable).Served () s h s') :
    ((∃ r, s'.get record.key = some r ∧ CountsResult record.metadata result r.metadata) ↔
      (Unreadable record h ∧ storedFailures record.metadata = 2 ^ 32 - 1) ∨
      (¬ Unreadable record h ∧ (none ∈ driverResults h ∨ storedFailures record.metadata < 2 ^ 32 ∨
        2 ^ 32 - 2 ≤ storedFailures record.metadata % 2 ^ 32))) ∧
    ∀ providers subscriptionFilter hp diagnostics,
      Runs (syncAll providers subscriptionFilter) hp (.ret diagnostics) →
      ⟨.syncInstall spec record, result⟩ ∈ hp → ∀ err, result = .error err →
        ⟨record.providerId, some record.installId, .subscriptionSyncFailed, err⟩ ∈ diagnostics := by
  constructor
  · cases syncInstall_stored hr hs with
    | unresolved err hread _ _ hstore =>
      subst hstore
      simp [hstored, hread, countsResult_unwritten]
    | synced state now hread hdriver _ hstore =>
      have hget : s'.get record.key = some (record.synced state now) :=
        hstore ▸ InMemoryInstallStore.get_insert_self ..
      simp [hget, hread, hdriver, countsResult_synced]
    | failed err hread _ hdriver _ hstore =>
      have hget : s'.get record.key = some (record.failed worker.maxFailures) :=
        hstore ▸ InMemoryInstallStore.get_insert_self ..
      simp [hget, hread, hdriver, countsResult_failed]
  · rintro providers subscriptionFilter hp diagnostics hpass hmem err rfl
    rw [syncAll_diagnostics hpass]
    exact List.mem_filterMap.mpr ⟨_, hmem, rfl⟩

def downSync : InstallHistory :=
  [⟨.syncSubscriptions githubSpec ⟨githubInstall, .empty, .empty⟩, .error "down"⟩,
    ⟨.updateInstall (githubInstall.failed 2), .ok ()⟩]

theorem downSync_runs :
    Runs (syncInstall impatientWorker githubSpec githubInstall) downSync (.ret (.error "down")) :=
  .step rfl (.step rfl (.refl _))

def githubStore : InMemoryInstallStore := InMemoryInstallStore.empty.insert githubInstall

theorem downSync_served : (installSystem fun _ _ => False).Served () githubStore downSync
    (githubStore.insert (githubInstall.failed 2)) :=
  .cons rfl (.cons ⟨rfl, rfl⟩ (.nil _))

theorem countsResult_iff_down :
    ∃ r, (githubStore.insert (githubInstall.failed 2)).get githubInstall.key = some r ∧
      CountsResult githubInstall.metadata (.error "down") r.metadata := by
  have hread : ¬ Unreadable githubInstall downSync := by
    rintro ⟨kind, ref, href, -⟩
    cases kind <;> cases href
  have hiff := countsResult_iff (InMemoryInstallStore.get_insert_self _ githubInstall)
    downSync_runs downSync_served
  exact hiff.1.mpr (.inr ⟨hread, .inr (.inl (by decide))⟩)

def unreadableInstall : ProviderInstallRecord :=
  { githubInstall with configRefs := BTreeMap.empty.insert "token" "config/github" }

def unreadableSync : InstallHistory := [⟨.read .config "config/github", .error "not found"⟩]

theorem unreadableSync_runs : Runs (syncInstall impatientWorker githubSpec unreadableInstall)
    unreadableSync (.ret (.error "missing config ref config/github")) :=
  .step rfl (.refl _)

/-- A sync that fails on a missing reference leaves the counter alone. -/
theorem unresolved_sync_uncounted :
    ¬ ∀ (worker : SubscriptionsWorker) (spec : EventProviderSpec) (record : ProviderInstallRecord)
        (s s' : InMemoryInstallStore) (h : InstallHistory) (result : Except String Unit),
      s.get record.key = some record →
      Runs (syncInstall worker spec record) h (.ret result) →
      (installSystem fun _ _ => False).Served () s h s' →
      ∃ r, s'.get record.key = some r ∧ CountsResult record.metadata result r.metadata := by
  intro hall
  have hserved : (installSystem fun _ _ => False).Served ()
      (InMemoryInstallStore.empty.insert unreadableInstall) unreadableSync
      (InMemoryInstallStore.empty.insert unreadableInstall) :=
    .cons ⟨nofun, rfl⟩ (.nil _)
  obtain ⟨r, hget, hcounts⟩ := hall impatientWorker githubSpec unreadableInstall _ _ _ _
    (InMemoryInstallStore.get_insert_self _ unreadableInstall) unreadableSync_runs hserved
  cases (InMemoryInstallStore.get_insert_self _ unreadableInstall).symm.trans hget
  exact absurd (countsResult_unwritten.mp hcounts) (by decide)

end GreenticEvents
