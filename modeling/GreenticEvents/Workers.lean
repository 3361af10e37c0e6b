import GreenticEvents.Failures

/-!
# Workers over one install store

Any number of `sync_all` passes, of workers of their own, take turns at single
operations on one in-memory store.
-/

namespace GreenticEvents
open Data Effects Prog

inductive WorkerOp where
  | listInstalls (providerId : String)
  | install (o : InstallOp)

@[reducible] def WorkerOp.Ans : WorkerOp → Type
  | listInstalls _ => Except String (List ProviderInstallRecord)
  | install o => o.Ans

abbrev workerInterface : Interface := ⟨WorkerOp, WorkerOp.Ans⟩

abbrev WorkerProg := Prog workerInterface

namespace WorkerProg

def listInstalls (providerId : String) :
    WorkerProg (Except String (List ProviderInstallRecord)) :=
  Prog.perform (I := workerInterface) (.listInstalls providerId)

def install (o : InstallOp) : WorkerProg o.Ans := Prog.perform (I := workerInterface) (.install o)

end WorkerProg

def SubscriptionsWorker.serve (worker : SubscriptionsWorker) : (o : PassOp) → WorkerProg o.Ans
  | .listInstalls providerId => WorkerProg.listInstalls providerId
  | .syncInstall spec record => (syncInstall worker spec record).interpret WorkerProg.install

structure WorkerPass where
  worker : SubscriptionsWorker
  providers : List EventProviderSpec
  subscriptionFilter : EventProviderSpec → Bool

def WorkerPass.prog (pass : WorkerPass) : WorkerProg (List RuntimeDiagnostic) :=
  (syncAll pass.providers pass.subscriptionFilter).interpret pass.worker.serve

/-- Passes interleaved with records that others write. -/
def workersSystem (π : Type) (readable : RefKind → String → Prop) :
    System π workerInterface ProviderInstallRecord InMemoryInstallStore
      (WorkerProg (List RuntimeDiagnostic)) where
  next := Prog.next
  handle _ s e s' :=
    match e with
    | ⟨.listInstalls providerId, answer⟩ =>
      (∃ installs, answer = .ok installs ∧ s.Lists providerId installs) ∧ s' = s
    | ⟨.install o, a⟩ => s.handle readable ⟨o, a⟩ s'
  react s record s' := s' = s.insert record

def workersStart {π : Type} (pass : π → WorkerPass) (s : InMemoryInstallStore) :
    Config π InMemoryInstallStore (WorkerProg (List RuntimeDiagnostic)) :=
  ⟨s, fun i => (pass i).prog⟩

/-- What `sync_install` writes of a record. -/
def SyncedFrom (worker : SubscriptionsWorker) (record r : ProviderInstallRecord) : Prop :=
  r = record.failed worker.maxFailures ∨ ∃ state now, r = record.synced state now

def WritesFrom (worker : SubscriptionsWorker) (record : ProviderInstallRecord) : InstallOp → Prop
  | .updateInstall r => SyncedFrom worker record r
  | _ => True

section Writes

variable {worker : SubscriptionsWorker} {spec : EventProviderSpec} {record : ProviderInstallRecord}

theorem reportFailure_writes {err : String} :
    (reportFailure worker record err).OnlyAsks (WritesFrom worker record) :=
  ⟨.inl rfl, fun _ => trivial⟩

theorem syncLoop_writes {install : ResolvedInstall} (hinstall : install.record = record)
    {attempt left : ℕ} {lastErr : Option String} :
    (syncLoop worker spec record install attempt left lastErr).OnlyAsks
      (WritesFrom worker record) := by
  induction left generalizing attempt lastErr with
  | zero => exact reportFailure_writes
  | succ left ih =>
    refine ⟨trivial, fun answer => ?_⟩
    cases answer with
    | ok state => exact ⟨trivial, fun now => ⟨.inr ⟨state, now, hinstall ▸ rfl⟩, fun _ => trivial⟩⟩
    | error err =>
      change OnlyAsks _ (if attempt = worker.retry.maxRetries.toNat then _ else _)
      split
      · exact reportFailure_writes
      · exact ⟨trivial, fun _ => ⟨trivial, fun _ => ih⟩⟩

theorem syncInstall_writes :
    (syncInstall worker spec record).OnlyAsks (WritesFrom worker record) := by
  have hresolve : (resolve record).OnlyAsks (WritesFrom worker record) := by
    refine (resolve_onlyAsks record).imp fun o ho => ?_
    cases o with
    | updateInstall r => exact ho.elim
    | _ => trivial
  refine hresolve.bind_returned fun resolved h hr => ?_
  cases resolved with
  | error err => trivial
  | ok install => exact syncLoop_writes (resolve_record hr)

/-- The record was in an answer of the store. -/
def Listed (past : List (Event workerInterface)) (record : ProviderInstallRecord) : Prop :=
  ∃ providerId listed, ⟨.listInstalls providerId, .ok listed⟩ ∈ past ∧ record ∈ listed

theorem Listed.later {past later : List (Event workerInterface)} (h : Listed past record)
    (hlater : past ⊆ later) : Listed later record := by
  obtain ⟨providerId, listed, hmem, hrecord⟩ := h
  exact ⟨providerId, listed, hlater hmem, hrecord⟩

/-- A worker writes only what it makes of records that it has listed. -/
def FromListed (worker : SubscriptionsWorker) (past : List (Event workerInterface)) :
    WorkerOp → Prop
  | .install (.updateInstall r) => ∃ record, Listed past record ∧ SyncedFrom worker record r
  | _ => True

variable {past : List (Event workerInterface)}

theorem serve_fromListed (hlisted : Listed past record) :
    (worker.serve (.syncInstall spec record)).AsksAfter (FromListed worker) past := by
  refine AsksAfter.interpret syncInstall_writes fun o ho later hlater => ⟨?_, fun _ => trivial⟩
  cases o with
  | updateInstall r => exact ⟨record, hlisted.later hlater, ho⟩
  | _ => trivial

theorem syncRecords_fromListed {records : List ProviderInstallRecord}
    {diagnostics : List RuntimeDiagnostic} (hlisted : ∀ record ∈ records, Listed past record) :
    ((syncRecords spec records diagnostics).interpret worker.serve).AsksAfter
      (FromListed worker) past := by
  induction records generalizing past diagnostics with
  | nil => trivial
  | cons record records ih =>
    obtain ⟨hfirst, hrest⟩ := List.forall_mem_cons.mp hlisted
    refine (serve_fromListed hfirst).bind fun result later hlater => ?_
    have hlater' : ∀ record ∈ records, Listed later record :=
      fun record hrecord => (hrest record hrecord).later hlater
    cases result with
    | error err => exact ih hlater'
    | ok u => exact ih hlater'

theorem syncProviders_fromListed {specs : List EventProviderSpec}
    {diagnostics : List RuntimeDiagnostic} :
    ((syncProviders specs diagnostics).interpret worker.serve).AsksAfter
      (FromListed worker) past := by
  induction specs generalizing past diagnostics with
  | nil => trivial
  | cons spec specs ih =>
    refine ⟨trivial, fun answer => ?_⟩
    cases answer with
    | error err => exact ih
    | ok listed =>
      change AsksAfter _ ((syncRecords spec listed diagnostics >>= fun diagnostics =>
        syncProviders specs diagnostics).interpret worker.serve) _
      rw [interpret_bind]
      have hlisted : ∀ record ∈ listed,
          Listed (past ++ [⟨.listInstalls spec.name, .ok listed⟩]) record :=
        fun record hrecord => ⟨spec.name, listed, by simp, hrecord⟩
      exact (syncRecords_fromListed hlisted).bind fun _ _ _ => ih

theorem pass_fromListed (pass : WorkerPass) :
    pass.prog.AsksAfter (FromListed pass.worker) [] :=
  syncProviders_fromListed

end Writes

abbrev WorkersLabel (π : Type) := Label π workerInterface ProviderInstallRecord

abbrev WorkersLog (π : Type) := List (WorkersLabel π)

/-- A write that leaves a failure counted in the record under `key`. -/
def isFailureWrite {π : Type} (key : ProviderInstallKey) : WorkersLabel π → Bool
  | .act _ ⟨.install (.updateInstall r), _⟩ =>
    decide (r.key = key) && decide ((failureState r.metadata).1 ≠ 0)
  | _ => false

def failureWrites {π : Type} (key : ProviderInstallKey) (log : WorkersLog π) : ℕ :=
  log.countP (isFailureWrite key)

theorem failureWrites_snoc {π : Type} (key : ProviderInstallKey) (log : WorkersLog π)
    (l : WorkersLabel π) : failureWrites key (log ++ [l]) =
      failureWrites key log + if isFailureWrite key l then 1 else 0 := by
  rw [failureWrites, List.countP_append, List.countP_singleton, failureWrites]

/-- A pass wrote a failure count that its own worker's limit does not exceed. -/
def LimitReached {π : Type} (pass : π → WorkerPass) (key : ProviderInstallKey) (log : WorkersLog π)
    (most : ℕ) : Prop :=
  ∃ i r answer, .act i ⟨.install (.updateInstall r), answer⟩ ∈ log ∧ r.key = key ∧
    (pass i).worker.maxFailures ≤ (failureState r.metadata).1 ∧
    (failureState r.metadata).1.toNat ≤ most

/-- The metadata is that of `r₀`, or `update_subscription_metadata` was applied to that: of metadata
that is no object it leaves nothing. -/
def Rewritten (r₀ r : ProviderInstallRecord) : Prop :=
  r.metadata = r₀.metadata ∨ ∃ lastSync failures degraded,
    r.metadata = updateSubscriptionMetadata r₀.metadata lastSync failures degraded

/-- The failures of `r₀` and those written since. -/
def mostFailures {π : Type} (key : ProviderInstallKey) (log : WorkersLog π)
    (r₀ : ProviderInstallRecord) : ℕ :=
  (failureState r₀.metadata).1.toNat + failureWrites key log

/-- What the steps of the passes may have made of `r₀`. -/
structure WithinWrites {π : Type} (pass : π → WorkerPass) (key : ProviderInstallKey)
    (log : WorkersLog π) (r₀ r : ProviderInstallRecord) : Prop where
  fields : r = { r₀ with subscriptionsState := r.subscriptionsState, metadata := r.metadata }
  metadata : Rewritten r₀ r
  failures : (failureState r.metadata).1.toNat ≤ mostFailures key log r₀
  degraded : (failureState r.metadata).2 = true → (failureState r₀.metadata).2 = true ∨
    LimitReached pass key log (mostFailures key log r₀)

section Within

variable {π : Type} {pass : π → WorkerPass} {key : ProviderInstallKey} {log : WorkersLog π}
  {r₀ record r : ProviderInstallRecord}

theorem mostFailures_le (l : WorkersLabel π) :
    mostFailures key log r₀ ≤ mostFailures key (log ++ [l]) r₀ := by
  rw [mostFailures, mostFailures, failureWrites_snoc]
  omega

theorem Rewritten.again (h : Rewritten r₀ record) {lastSync : String} {failures : UInt32}
    {degraded : Bool}
    (hr : r.metadata = updateSubscriptionMetadata record.metadata lastSync failures degraded) :
    Rewritten r₀ r := by
  refine .inr ⟨lastSync, failures, degraded, ?_⟩
  rcases h with h | ⟨_, _, _, h⟩
  · rw [hr, h]
  · rw [hr, h, updateSubscriptionMetadata_again]

theorem WithinWrites.refl (r₀ : ProviderInstallRecord) : WithinWrites pass key [] r₀ r₀ :=
  ⟨rfl, .inl rfl, Nat.le_add_right _ _, .inl⟩

theorem WithinWrites.same (h : WithinWrites pass key log r₀ r) : SameElsewhere r₀ r := by
  refine ⟨h.fields, ?_⟩
  rcases h.metadata with hmetadata | ⟨_, _, _, hmetadata⟩
  · rw [hmetadata]
  · rw [hmetadata, otherEntries_update]

theorem LimitReached.later {most most' : ℕ} (h : LimitReached pass key log most)
    (hle : most ≤ most') (l : WorkersLabel π) : LimitReached pass key (log ++ [l]) most' := by
  obtain ⟨i, r, answer, hmem, hkey, hmax, hmost⟩ := h
  exact ⟨i, r, answer, List.mem_append_left _ hmem, hkey, hmax, hmost.trans hle⟩

theorem WithinWrites.later (h : WithinWrites pass key log r₀ r) (l : WorkersLabel π) :
    WithinWrites pass key (log ++ [l]) r₀ r where
  fields := h.fields
  metadata := h.metadata
  failures := h.failures.trans (mostFailures_le l)
  degraded hdegraded := (h.degraded hdegraded).imp_right fun hreached =>
    hreached.later (mostFailures_le l) l

/-- A failure that is written counts one more. -/
theorem failures_failed (record : ProviderInstallRecord) (maxFailures : UInt32) :
    (failureState (record.failed maxFailures).metadata).1 ≠ 0 ∧
      (failureState (record.failed maxFailures).metadata).1.toNat ≤
        (failureState record.metadata).1.toNat + 1 := by
  have hstate : (failureState (record.failed maxFailures).metadata).1 =
      saturatingAdd (failureState record.metadata).1 1 :=
    congrArg Prod.fst (failureState_update ..)
  have hcount : (saturatingAdd (failureState record.metadata).1 1).toNat =
      min ((failureState record.metadata).1.toNat + 1) (2 ^ 32 - 1) :=
    toNat_saturatingAdd ..
  rw [hstate]
  refine ⟨fun hzero => ?_, by omega⟩
  rw [hzero, UInt32.toNat_zero] at hcount
  omega

/-- A record is degraded by a failure when it was, or the count written reaches the limit. -/
theorem degraded_failed (record : ProviderInstallRecord) (maxFailures : UInt32) :
    (failureState (record.failed maxFailures).metadata).2 = true ↔
      (failureState record.metadata).2 = true ∨
        maxFailures ≤ (failureState (record.failed maxFailures).metadata).1 := by
  have hstate : failureState (record.failed maxFailures).metadata =
      (saturatingAdd (failureState record.metadata).1 1,
        (failureState record.metadata).2 || decide (maxFailures ≤
          saturatingAdd (failureState record.metadata).1 1)) :=
    failureState_update ..
  rw [hstate, Bool.or_eq_true, decide_eq_true_eq]

theorem WithinWrites.written (h : WithinWrites pass key log r₀ record) {i : π}
    (hwrite : SyncedFrom (pass i).worker record r) (hkey : r.key = key)
    (answer : Except String Unit) :
    WithinWrites pass key (log ++ [.act i ⟨.install (.updateInstall r), answer⟩]) r₀ r := by
  rcases hwrite with rfl | ⟨state, now, rfl⟩
  · obtain ⟨hne, hcount⟩ := failures_failed record (pass i).worker.maxFailures
    have hmost : (failureState (record.failed (pass i).worker.maxFailures).metadata).1.toNat ≤
        mostFailures key (log ++ [.act i ⟨.install (.updateInstall
          (record.failed (pass i).worker.maxFailures)), answer⟩]) r₀ := by
      have hle := h.failures
      rw [mostFailures] at hle
      rw [mostFailures, failureWrites_snoc, isFailureWrite, hkey, decide_eq_true rfl,
        decide_eq_true hne, Bool.and_self, if_pos rfl]
      omega
    refine ⟨?_, h.metadata.again rfl, hmost, fun hdegraded => ?_⟩
    · rw [(failed_sameElsewhere record _).fields, h.fields]
    · rcases (degraded_failed record _).mp hdegraded with hbefore | hmax
      · exact (h.later _).degraded hbefore
      · exact .inr ⟨i, _, answer, by simp, hkey, hmax, hmost⟩
  · have hstate : failureState (record.synced state now).metadata = (0, false) :=
      failureState_update ..
    refine ⟨?_, h.metadata.again rfl, ?_, fun hdegraded => ?_⟩
    · rw [(synced_sameElsewhere record state now).fields, h.fields]
    · rw [hstate]
      exact Nat.zero_le _
    · rw [hstate] at hdegraded
      cases hdegraded

end Within

/-- What a step of a pass does to the store. -/
theorem workers_handle {π : Type} {readable : RefKind → String → Prop}
    {s s' : InMemoryInstallStore} {i : π} {e : Event workerInterface}
    (hs : (workersSystem π readable).handle i s e s') :
    (∃ r answer, e = ⟨.install (.updateInstall r), answer⟩ ∧ s' = s.insert r) ∨
    (∃ providerId listed, e = ⟨.listInstalls providerId, .ok listed⟩ ∧
      s.Lists providerId listed ∧ s' = s) ∨
    (∃ o a, e = ⟨.install o, a⟩ ∧ (∀ r, o ≠ .updateInstall r) ∧ s' = s) := by
  obtain ⟨o, a⟩ := e
  cases o with
  | listInstalls providerId =>
    obtain ⟨⟨listed, rfl, hlists⟩, rfl⟩ := hs
    exact .inr (.inl ⟨providerId, listed, rfl, hlists, rfl⟩)
  | install o =>
    cases o with
    | updateInstall r => exact .inl ⟨r, a, rfl, hs.2⟩
    | read kind reference => exact .inr (.inr ⟨_, a, rfl, nofun, hs.2⟩)
    | _ => exact .inr (.inr ⟨_, a, rfl, nofun, hs⟩)

section Runs

variable {π : Type} [DecidableEq π] {readable : RefKind → String → Prop} {pass : π → WorkerPass}
  {s₀ : InMemoryInstallStore} {log : WorkersLog π}
  {c : Config π InMemoryInstallStore (WorkerProg (List RuntimeDiagnostic))}
  {key : ProviderInstallKey}

/-- A record that began as the one under `key`. -/
def Descends (pass : π → WorkerPass) (s₀ : InMemoryInstallStore) (key : ProviderInstallKey)
    (log : WorkersLog π) (r : ProviderInstallRecord) : Prop :=
  ∃ r₀, s₀.get key = some r₀ ∧ WithinWrites pass key log r₀ r

/-- The record under `key` that is stored, and those that the passes have listed. -/
structure Kept (pass : π → WorkerPass) (s₀ : InMemoryInstallStore) (key : ProviderInstallKey)
    (log : WorkersLog π) (s : InMemoryInstallStore) : Prop where
  present : (s₀.get key).isSome = true → (s.get key).isSome = true
  stored : ∀ r, s.get key = some r → Descends pass s₀ key log r
  listed : ∀ i record, Listed (localHistory i log) record → record.key = key →
    Descends pass s₀ key log record

omit [DecidableEq π] in
theorem Descends.later {r : ProviderInstallRecord} (h : Descends pass s₀ key log r)
    (l : WorkersLabel π) : Descends pass s₀ key (log ++ [l]) r := by
  obtain ⟨r₀, hstart, hwithin⟩ := h
  exact ⟨r₀, hstart, hwithin.later l⟩

/-- A step that lists nothing new. -/
theorem listed_snoc_of_ne {i j : π} {e : Event workerInterface} {record : ProviderInstallRecord}
    (he : ∀ providerId, e.op ≠ .listInstalls providerId)
    (h : Listed (localHistory j (log ++ [.act i e])) record) :
    Listed (localHistory j log) record := by
  obtain ⟨providerId, listed, hmem, hrecord⟩ := h
  rw [localHistory_snoc_act, List.mem_append] at hmem
  rcases hmem with hmem | hmem
  · exact ⟨providerId, listed, hmem, hrecord⟩
  · split at hmem
    · exact absurd (congrArg Event.op (List.mem_singleton.mp hmem).symm) (he providerId)
    · cases hmem

theorem Kept.act {i : π} {e : Event workerInterface} {s s' : InMemoryInstallStore}
    (hk : Kept pass s₀ key log s)
    (hasked : FromListed (pass i).worker (localHistory i log) e.op)
    (hs : (workersSystem π readable).handle i s e s') :
    Kept pass s₀ key (log ++ [.act i e]) s' := by
  rcases workers_handle hs with ⟨r, answer, rfl, rfl⟩ | ⟨providerId, listed, rfl, hlists, rfl⟩ |
    ⟨o, a, rfl, hquiet, rfl⟩
  · have hlisted (j : π) (record : ProviderInstallRecord)
        (h : Listed (localHistory j (log ++ [.act i ⟨.install (.updateInstall r), answer⟩])) record)
        (hkey : record.key = key) :
        Descends pass s₀ key (log ++ [.act i ⟨.install (.updateInstall r), answer⟩]) record :=
      (hk.listed j record (listed_snoc_of_ne (by simp) h) hkey).later _
    by_cases hkey : r.key = key
    · have hself : (s.insert r).get key = some r := hkey ▸ s.get_insert_self r
      refine ⟨fun _ => hself ▸ rfl, fun r' hr' => ?_, hlisted⟩
      obtain rfl := Option.some.inj (hself.symm.trans hr')
      obtain ⟨record, hrecord, hwrite⟩ := hasked
      -- what is written keeps the key of the listed record that it was made of
      have hsame : record.key = key := by
        rcases hwrite with rfl | ⟨state, now, rfl⟩
        · exact hkey
        · exact hkey
      obtain ⟨r₀, hstart, hwithin⟩ := hk.listed i record hrecord hsame
      exact ⟨r₀, hstart, hwithin.written hwrite hkey answer⟩
    · have hother : (s.insert r).get key = s.get key :=
        s.get_insert_of_ne (Ne.symm hkey)
      refine ⟨fun h => hother ▸ hk.present h, fun r' hr' => ?_, hlisted⟩
      exact (hk.stored r' (hother.symm.trans hr')).later _
  · refine ⟨hk.present, fun r hr => (hk.stored r hr).later _, fun j record h hkey => ?_⟩
    obtain ⟨providerId', listed', hmem, hrecord⟩ := h
    rw [localHistory_snoc_act, List.mem_append] at hmem
    rcases hmem with hmem | hmem
    · exact (hk.listed j record ⟨providerId', listed', hmem, hrecord⟩ hkey).later _
    · split at hmem
      · cases List.mem_singleton.mp hmem
        exact (hk.stored record (hkey ▸ hlists.stored hrecord)).later _
      · cases hmem
  · refine ⟨hk.present, fun r hr => (hk.stored r hr).later _, fun j record h hkey => ?_⟩
    exact (hk.listed j record (listed_snoc_of_ne (by simp) h) hkey).later _

theorem Kept.env {record : ProviderInstallRecord} {s : InMemoryInstallStore}
    (hk : Kept pass s₀ key log s) (hne : record.key ≠ key) :
    Kept pass s₀ key (log ++ [.env record]) (s.insert record) := by
  have hother : (s.insert record).get key = s.get key := s.get_insert_of_ne hne.symm
  refine ⟨fun h => hother ▸ hk.present h, fun r hr => ?_, fun i record' h hkey => ?_⟩
  · exact (hk.stored r (hother.symm.trans hr)).later _
  · rw [localHistory_snoc_env] at h
    exact (hk.listed i record' h hkey).later _

theorem workers_kept
    (hr : (workersSystem π readable).Run (workersStart pass s₀) log c)
    (hothers : ∀ other, .env other ∈ log → other.key ≠ key) :
    Kept pass s₀ key log c.shared := by
  induction hr with
  | start =>
    refine ⟨id, fun r hr => ⟨r, hr, .refl r⟩, fun i record h _ => ?_⟩
    obtain ⟨providerId, listed, hmem, -⟩ := h
    cases hmem
  | @act log c i o k a s run asks answers ih =>
    have hlocal := (run.local i).snoc asks a
    have hasked := (pass_fromListed (pass i)).of_runs hlocal
    refine (ih fun other hmem => hothers other (List.mem_append_left _ hmem)).act ?_ answers
    simpa using hasked
  | @env log c record s run reacts ih =>
    cases reacts
    refine (ih fun other hmem => hothers other (List.mem_append_left _ hmem)).env ?_
    exact hothers record (by simp)

/-- No pass adds a record. -/
theorem Kept.absent {s : InMemoryInstallStore} (hk : Kept pass s₀ key log s)
    (hnone : s₀.get key = none) : s.get key = none := by
  cases hget : s.get key with
  | none => rfl
  | some r =>
    obtain ⟨r₀, hsome, -⟩ := hk.stored r hget
    cases hnone.symm.trans hsome

theorem Kept.within {s : InMemoryInstallStore} (hk : Kept pass s₀ key log s)
    {r₀ : ProviderInstallRecord} (hstart : s₀.get key = some r₀) :
    ∃ r, s.get key = some r ∧ WithinWrites pass key log r₀ r := by
  obtain ⟨r, hget⟩ := Option.isSome_iff_exists.mp (hk.present (hstart ▸ rfl))
  obtain ⟨r₀', hstart', hwithin⟩ := hk.stored r hget
  obtain rfl := Option.some.inj (hstart.symm.trans hstart')
  exact ⟨r, hget, hwithin⟩

/-- However passes interleave, they add no record, and change of a record nothing but its
subscriptions state and its metadata, where only `subscriptions` is set.  Its failures are at most
those at first and those written since, and it is degraded only if it was, or a pass wrote a count
of failures that reached the limit of its worker. -/
theorem workers_keep_records
    (hr : (workersSystem π readable).Run (workersStart pass s₀) log c)
    (hothers : ∀ other, .env other ∈ log → other.key ≠ key) :
    (s₀.get key = none → c.shared.get key = none) ∧
    ∀ r₀, s₀.get key = some r₀ → ∃ r, c.shared.get key = some r ∧
      WithinWrites pass key log r₀ r := by
  have hk := workers_kept hr hothers
  exact ⟨hk.absent, fun r₀ hstart => hk.within hstart⟩

end Runs

def downPasses (_ : Bool) : WorkerPass := ⟨impatientWorker, [githubSpec], fun _ => true⟩

def storeWithGithub : InMemoryInstallStore := InMemoryInstallStore.empty.insert githubInstall

/-- Two passes whose driver is down write the same failure: one of the two is lost. -/
theorem downPasses_run : ∃ log c,
    (workersSystem Bool fun _ _ => False).Run (workersStart downPasses storeWithGithub) log c ∧
      failureWrites githubInstall.key log = 2 ∧ (∀ other, .env other ∉ log) ∧
      c.shared.get githubInstall.key = some (githubInstall.failed 2) := by
  have hlists : storeWithGithub.Lists "events.github" [githubInstall] := List.Perm.refl _
  have h₀ : (workersSystem Bool fun _ _ => False).Run (workersStart downPasses storeWithGithub) []
    _ := .start
  have h₁ := h₀.acted true ⟨.listInstalls "events.github", .ok [githubInstall]⟩ rfl
    ⟨⟨_, rfl, hlists⟩, rfl⟩
  have h₂ := h₁.acted false ⟨.listInstalls "events.github", .ok [githubInstall]⟩ rfl
    ⟨⟨_, rfl, hlists⟩, rfl⟩
  have h₃ := h₂.acted true ⟨.install (.syncSubscriptions githubSpec
    ⟨githubInstall, .empty, .empty⟩), .error "down"⟩ rfl rfl
  have h₄ := h₃.acted false ⟨.install (.syncSubscriptions githubSpec
    ⟨githubInstall, .empty, .empty⟩), .error "down"⟩ rfl rfl
  have h₅ := h₄.acted true ⟨.install (.updateInstall (githubInstall.failed 2)), .ok ()⟩ rfl
    ⟨rfl, rfl⟩
  have h₆ := h₅.acted false ⟨.install (.updateInstall (githubInstall.failed 2)), .ok ()⟩ rfl
    ⟨rfl, rfl⟩
  exact ⟨_, _, h₆, by decide, by simp, InMemoryInstallStore.get_insert_self ..⟩

theorem workers_keep_records_twice : ∃ log, failureWrites githubInstall.key log = 2 ∧
    WithinWrites downPasses githubInstall.key log githubInstall (githubInstall.failed 2) := by
  obtain ⟨log, c, hr, htwo, hnone, hget⟩ := downPasses_run
  obtain ⟨r, hget', hwithin⟩ := (workers_keep_records hr
    fun other hother => absurd hother (hnone other)).2 githubInstall
      (InMemoryInstallStore.get_insert_self _ githubInstall)
  obtain rfl := Option.some.inj (hget.symm.trans hget')
  exact ⟨log, htwo, hwithin⟩

end GreenticEvents
