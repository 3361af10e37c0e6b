import GreenticEvents.SyncEnds

/-!
# The time of the last sync

A sync that succeeds writes the time as `last_sync`, and one that the driver
fails writes `unknown` there.
-/

namespace GreenticEvents
open Data Effects Prog

structure FinishedSync where
  history : InstallHistory
  result : Except String Unit

namespace FinishedSync

/-- The clock value that a successful run wrote. -/
def clock (run : FinishedSync) : Option String :=
  match run.result with
  | .ok () => (clockReadings run.history).head?
  | .error _ => none

def FailedAtDriver (run : FinishedSync) : Prop :=
  driverResults run.history ≠ [] ∧ none ∉ driverResults run.history

/-- What the run wrote as `last_sync`. -/
def text (run : FinishedSync) : Option String :=
  match run.result with
  | .ok () => run.clock
  | .error _ => if (driverResults run.history).isEmpty then none else some "unknown"

end FinishedSync

/-- Runs on the record under `key`, each on the record as it is stored then, with any stores
of values, any driver and any clock. -/
inductive SyncRuns (key : ProviderInstallKey) (s₀ : InMemoryInstallStore) :
    List FinishedSync → InMemoryInstallStore → Prop
  | nil : SyncRuns key s₀ [] s₀
  | run {runs : List FinishedSync} {s s' : InMemoryInstallStore} {worker : SubscriptionsWorker}
      {spec : EventProviderSpec} {record : ProviderInstallRecord} {h : InstallHistory}
      {result : Except String Unit} (earlier : SyncRuns key s₀ runs s)
      (stored : s.get key = some record)
      (ran : Runs (syncInstall worker spec record) h (.ret result))
      (served : (installSystem fun _ _ => False).Served () s h s') :
      SyncRuns key s₀ (runs ++ [⟨h, result⟩]) s'

/-- The clock value of the most recent successful run. -/
def lastClock (runs : List FinishedSync) : Option String :=
  (runs.filterMap FinishedSync.clock).getLast?

def lastText (runs : List FinishedSync) : Option String :=
  (runs.filterMap FinishedSync.text).getLast?

theorem getLast?_filterMap_snoc {α β : Type} (f : α → Option β) (l : List α) (a : α) :
    ((l ++ [a]).filterMap f).getLast? = (f a).or (l.filterMap f).getLast? := by
  rw [List.filterMap_append, List.getLast?_append]
  cases h : f a <;> simp [h]

theorem lastClock_snoc (runs : List FinishedSync) (run : FinishedSync) :
    lastClock (runs ++ [run]) = run.clock.or (lastClock runs) := getLast?_filterMap_snoc ..

theorem lastText_snoc (runs : List FinishedSync) (run : FinishedSync) :
    lastText (runs ++ [run]) = run.text.or (lastText runs) := getLast?_filterMap_snoc ..

variable {key : ProviderInstallKey} {s₀ s : InMemoryInstallStore} {runs : List FinishedSync}
  {r₀ : ProviderInstallRecord}

theorem SyncRuns.earlier (hruns : SyncRuns key s₀ runs s) {before : List FinishedSync}
    (hbeg : before <+: runs) : ∃ s₁, SyncRuns key s₀ before s₁ := by
  induction hruns with
  | nil =>
    rw [List.prefix_nil.mp hbeg]
    exact ⟨_, .nil⟩
  | run earlier stored ran served ih =>
    rcases List.prefix_concat_iff.mp hbeg with rfl | hbeg
    · exact ⟨_, earlier.run stored ran served⟩
    · exact ih hbeg

/-- The record holds what the last run wrote that wrote something. -/
theorem SyncRuns.stored_text (hruns : SyncRuns r₀.key s₀ runs s) (hstart : s₀.get r₀.key = some r₀)
    (hfresh : r₀.metadata.get "subscriptions" = none) :
    ∃ r, s.get r₀.key = some r ∧
      subscriptionField r.metadata "last_sync" = (lastText runs).map Json.string := by
  induction hruns with
  | nil => exact ⟨r₀, hstart, by simp [subscriptionField, hfresh, lastText]⟩
  | @run runs s s' worker spec record h result _ stored ran served ih =>
    obtain ⟨r, hget, htext⟩ := ih
    rw [lastText_snoc]
    have hinsert (r : ProviderInstallRecord) (hr : r.key = record.key) :
        (s.insert r).get r₀.key = some r := by
      rw [← InMemoryInstallStore.get_key stored, ← hr]
      exact InMemoryInstallStore.get_insert_self s r
    cases syncInstall_stored ran served with
    | unresolved err _ hdriver _ hstore =>
      subst hstore
      exact ⟨r, hget, by simp [FinishedSync.text, hdriver, htext]⟩
    | synced state now _ _ hclock hstore =>
      subst hstore
      refine ⟨record.synced state now, hinsert _ rfl, ?_⟩
      simp [FinishedSync.text, FinishedSync.clock, hclock, ProviderInstallRecord.synced,
        lastSync_update]
    | failed err _ hcalled _ _ hstore =>
      subst hstore
      refine ⟨record.failed worker.maxFailures, hinsert _ rfl, ?_⟩
      simp [FinishedSync.text, hcalled, ProviderInstallRecord.failed, lastSync_update]

/-- `last_sync` is the time of the most recent success, and `unknown` only without one. -/
structure TellsLastSync (runs : List FinishedSync) (metadata : Json) : Prop where
  clock : ∀ now, lastClock runs = some now →
    subscriptionField metadata "last_sync" = some (.string now)
  unknown : subscriptionField metadata "last_sync" = some (.string "unknown") →
    lastClock runs = none

/-- The driver fails in no run after one in which it succeeded, and no clock says `unknown`. -/
def NoFailureAfterSuccess (runs : List FinishedSync) : Prop :=
  EachAfter (fun before run =>
    (run.FailedAtDriver → ∀ earlier ∈ before, none ∉ driverResults earlier.history) ∧
      "unknown" ∉ clockReadings run.history) runs

/-- The text written last is the time of the most recent success. -/
def TextTold (runs : List FinishedSync) : Prop :=
  (∀ now, lastClock runs = some now → lastText runs = some now) ∧
    (lastText runs = some "unknown" → lastClock runs = none)

theorem tellsLastSync_iff {metadata : Json}
    (htext : subscriptionField metadata "last_sync" = (lastText runs).map Json.string) :
    TellsLastSync runs metadata ↔ TextTold runs := by
  have hfield (text : String) :
      subscriptionField metadata "last_sync" = some (.string text) ↔ lastText runs = some text := by
    rw [htext]
    simp
  constructor
  · intro htells
    exact ⟨fun now h => (hfield now).mp (htells.clock now h),
      fun h => htells.unknown ((hfield _).mpr h)⟩
  · rintro ⟨hclock, hunknown⟩
    exact ⟨fun now h => (hfield now).mpr (hclock now h), fun h => hunknown ((hfield _).mp h)⟩

/-- A run is a success when the driver succeeded in it. -/
theorem SyncRuns.lastClock_eq_none (hruns : SyncRuns key s₀ runs s) :
    lastClock runs = none ↔ ∀ run ∈ runs, none ∉ driverResults run.history := by
  induction hruns with
  | nil => simp [lastClock]
  | @run runs s s' worker spec record h result _ stored ran served ih =>
    rw [lastClock_snoc, List.forall_mem_append, List.forall_mem_singleton, ← ih]
    cases syncInstall_stored ran served with
    | unresolved err _ hdriver _ _ => simp [FinishedSync.clock, hdriver]
    | synced state now _ hdriver hclock _ => simp [FinishedSync.clock, hclock, hdriver]
    | failed err _ _ hdriver _ _ => simp [FinishedSync.clock, hdriver]

/-- One run more: what it may write depends on the runs before it. -/
theorem SyncRuns.textTold_snoc {s' : InMemoryInstallStore} {worker : SubscriptionsWorker}
    {spec : EventProviderSpec} {record : ProviderInstallRecord} {h : InstallHistory}
    {result : Except String Unit} (hruns : SyncRuns key s₀ runs s)
    (ran : Runs (syncInstall worker spec record) h (.ret result))
    (served : (installSystem fun _ _ => False).Served () s h s') (htold : TextTold runs) :
    TextTold (runs ++ [⟨h, result⟩]) ↔
      (FinishedSync.FailedAtDriver ⟨h, result⟩ →
        ∀ earlier ∈ runs, none ∉ driverResults earlier.history) ∧
      "unknown" ∉ clockReadings h := by
  unfold TextTold
  rw [lastClock_snoc, lastText_snoc, ← hruns.lastClock_eq_none]
  cases syncInstall_stored ran served with
  | unresolved err _ hdriver hclock _ =>
    simp only [FinishedSync.text, FinishedSync.clock, FinishedSync.FailedAtDriver, hdriver, hclock]
    exact iff_of_true htold ⟨fun hfailed => absurd rfl hfailed.1, List.not_mem_nil⟩
  | synced state now _ hdriver hclock _ =>
    simp [FinishedSync.text, FinishedSync.clock, FinishedSync.FailedAtDriver, hdriver, hclock,
      eq_comm]
  | failed err _ hcalled hdriver hclock _ =>
    simp only [FinishedSync.text, FinishedSync.clock, FinishedSync.FailedAtDriver, hdriver, hclock,
      hcalled, List.isEmpty_iff, if_false, Option.some_or, Option.none_or, ne_eq, not_false_eq_true,
      forall_const, List.not_mem_nil, and_true]
    refine ⟨And.right, fun hnone => ⟨fun now hnow => ?_, hnone⟩⟩
    cases hnone.symm.trans hnow

theorem SyncRuns.textTold_iff (hruns : SyncRuns key s₀ runs s) :
    (∀ before, before <+: runs → TextTold before) ↔ NoFailureAfterSuccess runs := by
  induction hruns with
  | nil =>
    refine iff_of_true (fun before hbeg => ?_) eachAfter_nil
    rw [List.prefix_nil.mp hbeg]
    exact ⟨nofun, nofun⟩
  | @run runs s s' worker spec record h result hruns stored ran served ih =>
    rw [NoFailureAfterSuccess, eachAfter_snoc]
    rw [NoFailureAfterSuccess] at ih
    rw [← ih]
    simp only [List.prefix_concat_iff, or_imp, forall_and, forall_eq]
    rw [and_comm]
    apply and_congr_right
    intro hall
    exact hruns.textTold_snoc ran served (hall runs List.prefix_rfl)

/-- After every run of a sequence `last_sync` tells the most recent success exactly when the
driver fails in no run after one in which it succeeded. -/
theorem lastSync_iff (hstart : s₀.get r₀.key = some r₀)
    (hfresh : r₀.metadata.get "subscriptions" = none) (hruns : SyncRuns r₀.key s₀ runs s) :
    (∀ before s₁, before <+: runs → SyncRuns r₀.key s₀ before s₁ →
      ∃ r, s₁.get r₀.key = some r ∧ TellsLastSync before r.metadata) ↔
        NoFailureAfterSuccess runs := by
  -- what is stored tells of the last sync as the text written last does
  rw [← hruns.textTold_iff]
  constructor
  · intro hall before hbeg
    obtain ⟨s₁, hbefore⟩ := hruns.earlier hbeg
    obtain ⟨r, hget, htells⟩ := hall before s₁ hbeg hbefore
    obtain ⟨r', hget', htext⟩ := hbefore.stored_text hstart hfresh
    cases hget.symm.trans hget'
    exact (tellsLastSync_iff htext).mp htells
  · intro hall before s₁ hbeg hbefore
    obtain ⟨r, hget, htext⟩ := hbefore.stored_text hstart hfresh
    exact ⟨r, hget, (tellsLastSync_iff htext).mpr (hall before hbeg)⟩

def upSync : FinishedSync where
  history := [⟨.syncSubscriptions githubSpec ⟨githubInstall, .empty, .empty⟩, .ok (.bool true)⟩,
    ⟨.now, "t1"⟩, ⟨.updateInstall (githubInstall.synced (.bool true) "t1"), .ok ()⟩]
  result := .ok ()

def upInstall : ProviderInstallRecord := githubInstall.synced (.bool true) "t1"

def laterDownSync : FinishedSync where
  history := [⟨.syncSubscriptions githubSpec ⟨upInstall, .empty, .empty⟩, .error "down"⟩,
    ⟨.updateInstall (upInstall.failed 2), .ok ()⟩]
  result := .error "down"

theorem upSync_runs :
    SyncRuns githubInstall.key githubStore [upSync] (githubStore.insert upInstall) := by
  have hran : Runs (syncInstall impatientWorker githubSpec githubInstall) upSync.history
      (.ret upSync.result) := .step rfl (.step rfl (.step rfl (.refl _)))
  exact SyncRuns.nil.run (InMemoryInstallStore.get_insert_self _ githubInstall) hran
    (.cons rfl (.cons rfl (.cons ⟨rfl, rfl⟩ (.nil _))))

theorem laterDownSync_runs : SyncRuns githubInstall.key githubStore [upSync, laterDownSync]
    ((githubStore.insert upInstall).insert (upInstall.failed 2)) := by
  have hran : Runs (syncInstall impatientWorker githubSpec upInstall) laterDownSync.history
      (.ret laterDownSync.result) := .step rfl (.step rfl (.refl _))
  exact upSync_runs.run (InMemoryInstallStore.get_insert_self _ upInstall) hran
    (.cons rfl (.cons ⟨rfl, rfl⟩ (.nil _)))

theorem lastSync_iff_up : ∃ r, (githubStore.insert upInstall).get githubInstall.key = some r ∧
    TellsLastSync [upSync] r.metadata := by
  have hiff := lastSync_iff (InMemoryInstallStore.get_insert_self _ githubInstall) rfl upSync_runs
  refine hiff.mpr ?_ _ _ List.prefix_rfl upSync_runs
  rw [NoFailureAfterSuccess, eachAfter_cons]
  exact ⟨⟨fun _ => nofun, by simp [upSync, clockReadings, clock?]⟩, eachAfter_nil⟩

/-- The time of the success is gone after the failure. -/
theorem failure_forgets_lastSync :
    ¬ ∀ (r₀ : ProviderInstallRecord) (s₀ s : InMemoryInstallStore) (runs : List FinishedSync),
      s₀.get r₀.key = some r₀ → r₀.metadata.get "subscriptions" = none →
      SyncRuns r₀.key s₀ runs s →
      ∃ r, s.get r₀.key = some r ∧ TellsLastSync runs r.metadata := by
  intro hall
  obtain ⟨r, hget, htells⟩ := hall githubInstall githubStore _ _
    (InMemoryInstallStore.get_insert_self _ githubInstall) rfl laterDownSync_runs
  cases (InMemoryInstallStore.get_insert_self _ (upInstall.failed 2)).symm.trans hget
  have hclock := htells.clock "t1" rfl
  rw [ProviderInstallRecord.failed, lastSync_update] at hclock
  simp at hclock

end GreenticEvents
