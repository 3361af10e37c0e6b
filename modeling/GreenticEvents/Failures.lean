import GreenticEvents.Sync

namespace GreenticEvents
open Data Effects Prog

def failedSinceSuccess (outcomes : List (Except String Unit)) : ℕ :=
  (outcomes.reverse.takeWhile fun outcome => !outcome.isOk).length

/-- The count a `u32` can hold. -/
def failureCount (outcomes : List (Except String Unit)) : UInt32 :=
  .ofNat (min (failedSinceSuccess outcomes) (2 ^ 32 - 1))

def isDegraded (maxFailures : UInt32) (outcomes : List (Except String Unit)) : Bool :=
  decide (0 < failureCount outcomes ∧ maxFailures ≤ failureCount outcomes)

theorem failedSinceSuccess_ok (outcomes : List (Except String Unit)) :
    failedSinceSuccess (outcomes ++ [.ok ()]) = 0 := by
  simp [failedSinceSuccess, Except.isOk, Except.toBool]

theorem failedSinceSuccess_error (outcomes : List (Except String Unit)) (err : String) :
    failedSinceSuccess (outcomes ++ [.error err]) = failedSinceSuccess outcomes + 1 := by
  simp [failedSinceSuccess, Except.isOk, Except.toBool]

theorem failureCount_toNat (outcomes : List (Except String Unit)) :
    (failureCount outcomes).toNat = min (failedSinceSuccess outcomes) (2 ^ 32 - 1) := by
  rw [failureCount, UInt32.toNat_ofNat_of_lt']
  exact Nat.lt_of_le_of_lt (Nat.min_le_right ..) (by decide)

@[simp] theorem failureCount_ok (outcomes : List (Except String Unit)) :
    failureCount (outcomes ++ [.ok ()]) = 0 := by
  rw [failureCount, failedSinceSuccess_ok]
  rfl

theorem toNat_saturatingAdd (a b : UInt32) :
    (saturatingAdd a b).toNat = min (a.toNat + b.toNat) (2 ^ 32 - 1) := by
  rw [saturatingAdd, UInt32.toNat_ofNat_of_lt']
  exact Nat.lt_of_le_of_lt (Nat.min_le_right ..) (by decide)

theorem failureCount_error (outcomes : List (Except String Unit)) (err : String) :
    failureCount (outcomes ++ [.error err]) = saturatingAdd (failureCount outcomes) 1 := by
  apply UInt32.toNat_inj.mp
  rw [failureCount_toNat, failedSinceSuccess_error, toNat_saturatingAdd, failureCount_toNat]
  have hone : (1 : UInt32).toNat = 1 := rfl
  rw [hone]
  omega

@[simp] theorem isDegraded_ok (maxFailures : UInt32) (outcomes : List (Except String Unit)) :
    isDegraded maxFailures (outcomes ++ [.ok ()]) = false := by
  simp [isDegraded]

/-- A failure only raises the count, so a flag that is set stays right. -/
theorem isDegraded_error (maxFailures : UInt32) (outcomes : List (Except String Unit))
    (err : String) : isDegraded maxFailures (outcomes ++ [.error err]) =
      (isDegraded maxFailures outcomes ||
        decide (maxFailures ≤ failureCount (outcomes ++ [.error err]))) := by
  have hnext : (failureCount (outcomes ++ [.error err])).toNat =
      min ((failureCount outcomes).toNat + 1) (2 ^ 32 - 1) := by
    rw [failureCount_error, toNat_saturatingAdd]
    rfl
  have hbound := (failureCount outcomes).toNat_lt
  rw [isDegraded, isDegraded, ← Bool.decide_or]
  apply decide_eq_decide.mpr
  rw [UInt32.lt_iff_toNat_lt, UInt32.lt_iff_toNat_lt, UInt32.le_iff_toNat_le,
    UInt32.le_iff_toNat_le, hnext, UInt32.toNat_zero]
  omega

/-- A member of `metadata.subscriptions`. -/
def subscriptionField (metadata : Json) (name : String) : Option Json :=
  (metadata.get "subscriptions").bind (Json.get name)

/-- The counter reads two members, and a missing or foreign value as `0` and `false`. -/
theorem failureState_eq (metadata : Json) : failureState metadata =
    ((((subscriptionField metadata "failures").bind Json.asU64).getD 0).toUInt32,
      ((subscriptionField metadata "degraded").bind Json.asBool).getD false) := by
  cases metadata with
  | object root =>
    have hfield (name : String) : subscriptionField (.object root) name =
        (root.lookup "subscriptions").bind (Json.get name) := rfl
    rw [failureState, hfield, hfield]
    cases root.lookup "subscriptions" with
    | none => rfl
    | some subs => cases subs <;> rfl
  | _ => rfl

section Update

variable (metadata : Json) (lastSync : String) (failures : UInt32) (degraded : Bool)

theorem get_update :
    (updateSubscriptionMetadata metadata lastSync failures degraded).get "subscriptions" =
      some (.object (insertEntry "degraded" (.bool degraded)
        (insertEntry "failures" (.number (.posInt failures.toUInt64))
          (insertEntry "last_sync" (.string lastSync) [])))) :=
  lookup_insertEntry_self ..

@[simp] theorem failures_update :
    subscriptionField (updateSubscriptionMetadata metadata lastSync failures degraded) "failures" =
      some (.number (.posInt failures.toUInt64)) := by
  rw [subscriptionField, get_update, Option.bind_some, Json.get,
    lookup_insertEntry_of_ne (by decide), lookup_insertEntry_self]

@[simp] theorem degraded_update :
    subscriptionField (updateSubscriptionMetadata metadata lastSync failures degraded) "degraded" =
      some (.bool degraded) := by
  rw [subscriptionField, get_update, Option.bind_some, Json.get, lookup_insertEntry_self]

theorem lastSync_update :
    subscriptionField (updateSubscriptionMetadata metadata lastSync failures degraded) "last_sync" =
      some (.string lastSync) := by
  rw [subscriptionField, get_update, Option.bind_some, Json.get,
    lookup_insertEntry_of_ne (by decide), lookup_insertEntry_of_ne (by decide),
    lookup_insertEntry_self]

/-- What is written is read back: cutting a `u64` to 32 bits keeps a `u32`. -/
theorem failureState_update :
    failureState (updateSubscriptionMetadata metadata lastSync failures degraded) =
      (failures, degraded) := by
  rw [failureState_eq, failures_update, degraded_update]
  simp [Json.asU64, Json.asBool]

end Update

theorem failureState_fresh {metadata : Json} (h : metadata.get "subscriptions" = none) :
    failureState metadata = (0, false) := by
  rw [failureState_eq, subscriptionField, subscriptionField, h]
  rfl

structure Counted (maxFailures : UInt32) (outcomes : List (Except String Unit)) (metadata : Json) :
    Prop where
  state : failureState metadata = (failureCount outcomes, isDegraded maxFailures outcomes)
  failures : outcomes ≠ [] → subscriptionField metadata "failures" =
    some (.number (.posInt (failureCount outcomes).toUInt64))
  degraded : outcomes ≠ [] → subscriptionField metadata "degraded" =
    some (.bool (isDegraded maxFailures outcomes))

theorem Counted.fresh {maxFailures : UInt32} {metadata : Json}
    (h : metadata.get "subscriptions" = none) : Counted maxFailures [] metadata :=
  ⟨failureState_fresh h, nofun, nofun⟩

theorem Counted.update (maxFailures : UInt32) (outcomes : List (Except String Unit))
    (metadata : Json) (lastSync : String) :
    Counted maxFailures outcomes (updateSubscriptionMetadata metadata lastSync
      (failureCount outcomes) (isDegraded maxFailures outcomes)) :=
  ⟨failureState_update .., fun _ => failures_update .., fun _ => degraded_update ..⟩

theorem Counted.synced (maxFailures : UInt32) (outcomes : List (Except String Unit))
    (record : ProviderInstallRecord) (state : Json) (now : String) :
    Counted maxFailures (outcomes ++ [.ok ()]) (record.synced state now).metadata := by
  have hupdate := Counted.update maxFailures (outcomes ++ [.ok ()]) record.metadata now
  rwa [failureCount_ok, isDegraded_ok] at hupdate

theorem Counted.failed {maxFailures : UInt32} {outcomes : List (Except String Unit)}
    {record : ProviderInstallRecord} (h : Counted maxFailures outcomes record.metadata)
    (err : String) :
    Counted maxFailures (outcomes ++ [.error err]) (record.failed maxFailures).metadata := by
  rw [ProviderInstallRecord.failed, h.state, ← failureCount_error _ err]
  dsimp only
  rw [← isDegraded_error]
  exact .update ..

/-- A whole run of `sync_install` with no other writer. -/
def SyncRun (readable : RefKind → String → Prop) (worker : SubscriptionsWorker)
    (s : InMemoryInstallStore) (spec : EventProviderSpec) (record : ProviderInstallRecord)
    (result : Except String Unit) (s' : InMemoryInstallStore) : Prop :=
  ∃ h, Runs (syncInstall worker spec record) h (.ret result) ∧
    (installSystem readable).Served () s h s'

variable {readable : RefKind → String → Prop} {worker : SubscriptionsWorker}
  {spec : EventProviderSpec} {record : ProviderInstallRecord} {result : Except String Unit}
  {s s' : InMemoryInstallStore}

/-- The store changes by the writes only. -/
theorem served_writes {h : InstallHistory} (hs : (installSystem readable).Served () s h s') :
    s' = (writes h).foldl InMemoryInstallStore.insert s := by
  induction hs with
  | nil s => rfl
  | @cons s s₁ s' e h answers _ ih =>
    obtain ⟨o, a⟩ := e
    cases o with
    | updateInstall _ | read _ _ =>
      rw [ih, answers.2]
      rfl
    | _ =>
      cases answers
      exact ih

/-- A run leaves the records under other keys alone. -/
theorem SyncRun.get_of_ne (hrun : SyncRun readable worker s spec record result s')
    {key : ProviderInstallKey} (hkey : key ≠ record.key) : s'.get key = s.get key := by
  obtain ⟨h, hr, hs⟩ := hrun
  rw [served_writes hs]
  rcases (syncInstall_runs hr).writes_eq with hnone | ⟨r, hone, hsame⟩
  · rw [hnone]
    rfl
  · rw [hone]
    exact InMemoryInstallStore.get_insert_of_ne s (hsame.key_eq ▸ hkey)

/-- With readable references a run writes once, and its result is counted. -/
theorem SyncRun.counted (hrun : SyncRun readable worker s spec record result s')
    (hrefs : ∀ kind, ∀ ref ∈ record.refs kind, readable kind ref.2)
    {outs : List (Except String Unit)} (hmeta : Counted worker.maxFailures outs record.metadata) :
    ∃ r, s' = s.insert r ∧ SameElsewhere record r ∧
      Counted worker.maxFailures (outs ++ [result]) r.metadata := by
  obtain ⟨h, hr, hs⟩ := hrun
  have hstore := served_writes hs
  cases syncInstall_runs hr with
  | unresolved err hw hread =>
    -- a readable reference was answered with an error
    obtain ⟨kind, ref, href, e, hmem⟩ := hread
    obtain ⟨_, _, hanswer, _⟩ := hs.handled hmem
    obtain ⟨value, hvalue⟩ := hanswer (hrefs kind ref href)
    cases hvalue
  | synced state now answer hw hans =>
    obtain ⟨_, _, rfl, _⟩ := hs.handled hans
    rw [hw] at hstore
    exact ⟨_, hstore, synced_sameElsewhere .., .synced ..⟩
  | failed err hw =>
    rw [hw] at hstore
    exact ⟨_, hstore, failed_sameElsewhere .., hmeta.failed err⟩

abbrev PassHistory := List (Event passInterface)

/-- A pass runs `sync_install` on the records as the store lists them. -/
def passSystem (readable : RefKind → String → Prop) (worker : SubscriptionsWorker) :
    System Unit passInterface Empty InMemoryInstallStore (PassProg (List RuntimeDiagnostic)) where
  next := Prog.next
  handle _ s e s' :=
    match e with
    | ⟨.listInstalls providerId, answer⟩ =>
      (∃ installs, answer = .ok installs ∧ s.Lists providerId installs) ∧ s' = s
    | ⟨.syncInstall spec record, result⟩ => SyncRun readable worker s spec record result s'
  react _ _ _ := False

/-- Passes of one worker, each over providers and with a filter of its own. -/
inductive Passes (readable : RefKind → String → Prop) (worker : SubscriptionsWorker)
    (s₀ : InMemoryInstallStore) : PassHistory → InMemoryInstallStore → Prop
  | nil : Passes readable worker s₀ [] s₀
  | pass {h h' : PassHistory} {s s' : InMemoryInstallStore} {providers : List EventProviderSpec}
      {subscriptionFilter : EventProviderSpec → Bool} {diagnostics : List RuntimeDiagnostic}
      (earlier : Passes readable worker s₀ h s)
      (runs : Runs (syncAll providers subscriptionFilter) h' (.ret diagnostics))
      (served : (passSystem readable worker).Served () s h' s') :
      Passes readable worker s₀ (h ++ h') s'

def outcome? (key : ProviderInstallKey) : Event passInterface → Option (Except String Unit)
  | ⟨.syncInstall _ record, result⟩ => if record.key = key then some result else none
  | _ => none

/-- The results of `sync_install` on the record under `key`, oldest first. -/
def outcomes (key : ProviderInstallKey) (h : PassHistory) : List (Except String Unit) :=
  h.filterMap (outcome? key)

theorem outcomes_append (key : ProviderInstallKey) (h h' : PassHistory) :
    outcomes key (h ++ h') = outcomes key h ++ outcomes key h' := List.filterMap_append

theorem outcomes_cons (key : ProviderInstallKey) (e : Event passInterface) (h : PassHistory) :
    outcomes key (e :: h) = outcomes key [e] ++ outcomes key h := outcomes_append key [e] h

/-- The store holds the record that was `r₀` at first, with the counter of its outcomes. -/
def CountedAt (maxFailures : UInt32) (r₀ : ProviderInstallRecord)
    (outcomes : List (Except String Unit)) (s : InMemoryInstallStore) : Prop :=
  ∃ r, s.get r₀.key = some r ∧ r.refs = r₀.refs ∧ Counted maxFailures outcomes r.metadata

variable {r₀ : ProviderInstallRecord} {outs : List (Except String Unit)}

theorem SameElsewhere.refs_eq {a b : ProviderInstallRecord} (h : SameElsewhere a b) :
    b.refs = a.refs := by
  funext kind
  rw [h.fields]
  cases kind <;> rfl

/-- One run on a record that is stored as it was listed. -/
theorem CountedAt.sync (hrefs : ∀ kind, ∀ ref ∈ r₀.refs kind, readable kind ref.2)
    (hcounted : CountedAt worker.maxFailures r₀ outs s)
    (hstored : s.get record.key = some record)
    (hrun : SyncRun readable worker s spec record result s') :
    CountedAt worker.maxFailures r₀
      (outs ++ outcomes r₀.key [⟨.syncInstall spec record, result⟩]) s' := by
  obtain ⟨r, hget, hsame, hmeta⟩ := hcounted
  by_cases hkey : record.key = r₀.key
  · have hone : outcomes r₀.key [⟨.syncInstall spec record, result⟩] = [result] := by
      simp [outcomes, outcome?, hkey]
    -- the run was given the record that is stored
    rw [← hkey, hstored] at hget
    obtain rfl := Option.some.inj hget
    rw [hone]
    obtain ⟨r', rfl, helse, hnext⟩ := hrun.counted (fun kind => hsame ▸ hrefs kind) hmeta
    refine ⟨r', ?_, helse.refs_eq.trans hsame, hnext⟩
    rw [← hkey, ← helse.key_eq]
    exact InMemoryInstallStore.get_insert_self ..
  · have hnone : outcomes r₀.key [⟨.syncInstall spec record, result⟩] = [] := by
      simp [outcomes, outcome?, hkey]
    rw [hnone, List.append_nil]
    exact ⟨r, (hrun.get_of_ne (Ne.symm hkey)).trans hget, hsame, hmeta⟩

/-- The loop over listed records: those still to come are stored as they were listed. -/
theorem syncRecords_counted (hrefs : ∀ kind, ∀ ref ∈ r₀.refs kind, readable kind ref.2)
    {records : List ProviderInstallRecord} {diagnostics : List RuntimeDiagnostic}
    {value : List RuntimeDiagnostic} {h : PassHistory}
    (hr : Runs (syncRecords spec records diagnostics) h (.ret value))
    (hs : (passSystem readable worker).Served () s h s')
    (hdistinct : (records.map ProviderInstallRecord.key).Nodup)
    (hstored : ∀ record ∈ records, s.get record.key = some record)
    (hcounted : CountedAt worker.maxFailures r₀ outs s) :
    CountedAt worker.maxFailures r₀ (outs ++ outcomes r₀.key h) s' := by
  induction records generalizing diagnostics h s outs with
  | nil =>
    obtain ⟨rfl, _⟩ := runs_ret.mp hr
    cases hs
    rwa [outcomes, List.filterMap_nil, List.append_nil]
  | cons record records ih =>
    rw [syncRecords, PassProg.syncInstall, perform_bind, runs_ask_ret] at hr
    obtain ⟨result, h, rfl, hr⟩ := hr
    cases hs with
    | @cons _ s₁ _ _ _ hrun hs =>
      obtain ⟨hnew, hdistinct⟩ := List.nodup_cons.mp hdistinct
      have hstep := hcounted.sync hrefs (hstored record List.mem_cons_self) hrun
      -- the records still to come have other keys
      have hrest (r : ProviderInstallRecord) (hmem : r ∈ records) : s₁.get r.key = some r := by
        have hne : r.key ≠ record.key := fun heq => hnew (heq ▸ List.mem_map_of_mem hmem)
        rw [SyncRun.get_of_ne hrun hne]
        exact hstored r (List.mem_cons_of_mem _ hmem)
      rw [outcomes_cons, ← List.append_assoc]
      cases result with
      | ok _ | error _ => exact ih hr hs hdistinct hrest hstep

theorem syncProviders_counted (hrefs : ∀ kind, ∀ ref ∈ r₀.refs kind, readable kind ref.2)
    {specs : List EventProviderSpec} {diagnostics value : List RuntimeDiagnostic} {h : PassHistory}
    (hr : Runs (syncProviders specs diagnostics) h (.ret value))
    (hs : (passSystem readable worker).Served () s h s')
    (hcounted : CountedAt worker.maxFailures r₀ outs s) :
    CountedAt worker.maxFailures r₀ (outs ++ outcomes r₀.key h) s' := by
  induction specs generalizing diagnostics h s outs with
  | nil =>
    obtain ⟨rfl, _⟩ := runs_ret.mp hr
    cases hs
    rwa [outcomes, List.filterMap_nil, List.append_nil]
  | cons spec specs ih =>
    rw [syncProviders, PassProg.listInstalls, perform_bind, runs_ask_ret] at hr
    obtain ⟨answer, h, rfl, hr⟩ := hr
    cases hs with
    | cons hlist hs =>
      obtain ⟨⟨installs, rfl, hlists⟩, rfl⟩ := hlist
      obtain ⟨diagnostics, h₁, h₂, rfl, hrecords, hr⟩ := runs_bind_ret hr
      obtain ⟨s₁, hs₁, hs₂⟩ := hs.split
      have hstep := syncRecords_counted hrefs hrecords hs₁ hlists.distinct
        (fun _ => hlists.stored) hcounted
      have hlast := ih hr hs₂ hstep
      rwa [List.append_assoc, ← outcomes_append] at hlast

theorem Passes.counted {s₀ : InMemoryInstallStore} {h : PassHistory}
    (hp : Passes readable worker s₀ h s)
    (hrefs : ∀ kind, ∀ ref ∈ r₀.refs kind, readable kind ref.2)
    (hstart : s₀.get r₀.key = some r₀) (hfresh : r₀.metadata.get "subscriptions" = none) :
    CountedAt worker.maxFailures r₀ (outcomes r₀.key h) s := by
  induction hp with
  | nil => exact ⟨r₀, hstart, rfl, .fresh hfresh⟩
  | pass _ runs served ih =>
    rw [outcomes_append]
    exact syncProviders_counted hrefs runs served ih

/-- After passes that ran `sync_install` on a record, its metadata counts the failures
since the last success, and flags them from `max_failures` on. -/
theorem failures_counted {s₀ : InMemoryInstallStore} {h : PassHistory}
    (hp : Passes readable worker s₀ h s)
    (hrefs : ∀ kind, ∀ ref ∈ r₀.refs kind, readable kind ref.2)
    (hstart : s₀.get r₀.key = some r₀) (hfresh : r₀.metadata.get "subscriptions" = none)
    (hran : outcomes r₀.key h ≠ []) :
    ∃ r, s.get r₀.key = some r ∧
      subscriptionField r.metadata "failures" =
        some (.number (.posInt (failureCount (outcomes r₀.key h)).toUInt64)) ∧
      subscriptionField r.metadata "degraded" =
        some (.bool (isDegraded worker.maxFailures (outcomes r₀.key h))) ∧
      ((outcomes r₀.key h).getLast? = some (.ok ()) →
        subscriptionField r.metadata "failures" = some (.number (.posInt 0)) ∧
        subscriptionField r.metadata "degraded" = some (.bool false)) := by
  obtain ⟨r, hget, _, hmeta⟩ := hp.counted hrefs hstart hfresh
  refine ⟨r, hget, hmeta.failures hran, hmeta.degraded hran, fun hlast => ?_⟩
  -- a success is the last outcome, and nothing was counted since
  obtain ⟨earlier, hsplit⟩ := List.getLast?_eq_some_iff.mp hlast
  rw [hmeta.failures hran, hmeta.degraded hran, hsplit, failureCount_ok, isDegraded_ok]
  exact ⟨rfl, rfl⟩

/-- No retries, degraded after two failures. -/
def impatientWorker : SubscriptionsWorker := ⟨{ RetryPolicy.default with maxRetries := 0 }, 2⟩

def downPass (record : ProviderInstallRecord) : PassHistory :=
  [⟨.listInstalls "events.github", .ok [record]⟩, ⟨.syncInstall githubSpec record, .error "down"⟩]

theorem downPass_runs (record : ProviderInstallRecord) : ∃ diagnostics,
    Runs (syncAll [githubSpec] fun _ => true) (downPass record) (.ret diagnostics) :=
  ⟨_, .step rfl (.step rfl (.refl _))⟩

theorem downPass_served {record : ProviderInstallRecord} (hlists : s.Lists "events.github" [record])
    (hconfig : record.configRefs = .empty) (hsecret : record.secretRefs = .empty) :
    (passSystem (fun _ _ => True) impatientWorker).Served () s (downPass record)
      (s.insert (record.failed 2)) := by
  refine .cons ⟨⟨_, rfl, hlists⟩, rfl⟩ (.cons ?_ (.nil _))
  have hresolve : resolve record = .ret (.ok ⟨record, .empty, .empty⟩) := by
    rw [resolve, hconfig, hsecret]
    rfl
  refine ⟨[⟨.syncSubscriptions githubSpec ⟨record, .empty, .empty⟩, .error "down"⟩,
    ⟨.updateInstall (record.failed 2), .ok ()⟩], ?_, .cons rfl (.cons ⟨rfl, rfl⟩ (.nil _))⟩
  rw [syncInstall, hresolve]
  exact .step rfl (.step rfl (.refl _))

theorem failures_counted_twice : ∃ r,
    (((InMemoryInstallStore.empty.insert githubInstall).insert (githubInstall.failed 2)).insert
      ((githubInstall.failed 2).failed 2)).get githubInstall.key = some r ∧
    subscriptionField r.metadata "failures" = some (.number (.posInt 2)) ∧
    subscriptionField r.metadata "degraded" = some (.bool true) := by
  obtain ⟨_, hruns₁⟩ := downPass_runs githubInstall
  obtain ⟨_, hruns₂⟩ := downPass_runs (githubInstall.failed 2)
  have hone : (InMemoryInstallStore.empty.insert githubInstall).Lists "events.github"
      [githubInstall] := List.Perm.refl _
  have htwo : ((InMemoryInstallStore.empty.insert githubInstall).insert
      (githubInstall.failed 2)).Lists "events.github" [githubInstall.failed 2] := List.Perm.refl _
  have hfirst := Passes.nil.pass hruns₁ (downPass_served hone rfl rfl)
  have hsecond := hfirst.pass hruns₂ (downPass_served htwo rfl rfl)
  obtain ⟨r, hget, hfailures, hdegraded, _⟩ := failures_counted hsecond (fun _ _ _ => trivial)
    (InMemoryInstallStore.get_insert_self _ githubInstall) rfl (by decide)
  exact ⟨r, hget, hfailures, hdegraded⟩

end GreenticEvents
