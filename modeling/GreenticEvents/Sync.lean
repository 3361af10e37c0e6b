import GreenticEvents.Install

/-!
# What one `sync_install` writes

The worker gets a record from an earlier listing and writes a whole record back.
-/

namespace GreenticEvents
open Data Effects Prog

abbrev InstallHistory := List (Event installInterface)

def written? : Event installInterface → Option ProviderInstallRecord
  | ⟨.updateInstall record, _⟩ => some record
  | _ => none

/-- The records written, oldest first. -/
def writes (h : InstallHistory) : List ProviderInstallRecord := h.filterMap written?

theorem writes_append (h h' : InstallHistory) : writes (h ++ h') = writes h ++ writes h' :=
  List.filterMap_append

@[simp] theorem writes_nil : writes [] = [] := rfl

def ProviderInstallRecord.refs (record : ProviderInstallRecord) : RefKind → List (String × String)
  | .config => record.configRefs.entries
  | .secret => record.secretRefs.entries

/-- A reference of the record could not be read. -/
def Unreadable (record : ProviderInstallRecord) (h : InstallHistory) : Prop :=
  ∃ kind, ∃ ref ∈ record.refs kind, ∃ err, ⟨.read kind ref.2, .error err⟩ ∈ h

/-- A run writes nothing, or once, from the record it was given. -/
inductive SyncTrace (worker : SubscriptionsWorker) (record : ProviderInstallRecord)
    (h : InstallHistory) : Option (Except String Unit) → Prop
  | unfinished (hw : writes h = []) : SyncTrace worker record h none
  | unresolved (err : String) (hw : writes h = []) (hread : Unreadable record h) :
      SyncTrace worker record h (some (.error err))
  | synced (state : Json) (now : String) (answer : Except String Unit)
      (hw : writes h = [record.synced state now])
      (hans : ⟨.updateInstall (record.synced state now), answer⟩ ∈ h) :
      SyncTrace worker record h (some answer)
  | failed (err : String) (hw : writes h = [record.failed worker.maxFailures]) :
      SyncTrace worker record h (some (.error err))

variable {worker : SubscriptionsWorker} {spec : EventProviderSpec} {record : ProviderInstallRecord}

/-- Operations that write nothing may come first. -/
theorem SyncTrace.after {h h' : InstallHistory} {v : Option (Except String Unit)}
    (ht : SyncTrace worker record h v) (hw : writes h' = []) :
    SyncTrace worker record (h' ++ h) v := by
  have happend : writes (h' ++ h) = writes h := by rw [writes_append, hw, List.nil_append]
  cases ht with
  | unfinished hw => exact .unfinished (happend.trans hw)
  | unresolved err hw hread =>
    obtain ⟨kind, ref, href, e, hmem⟩ := hread
    exact .unresolved err (happend.trans hw) ⟨kind, ref, href, e, List.mem_append_right _ hmem⟩
  | synced state now answer hw hans =>
    exact .synced state now answer (happend.trans hw) (List.mem_append_right _ hans)
  | failed err hw => exact .failed err (happend.trans hw)

theorem SyncTrace.cons {h : InstallHistory} {v : Option (Except String Unit)}
    {e : Event installInterface} (he : written? e = none) (ht : SyncTrace worker record h v) :
    SyncTrace worker record (e :: h) v := by
  have hone : writes [e] = [] := by simp [writes, he]
  exact ht.after hone

def InstallOp.isRead : InstallOp → Prop
  | .read _ _ => True
  | _ => False

theorem resolve_onlyAsks (record : ProviderInstallRecord) :
    (resolve record).OnlyAsks InstallOp.isRead := by
  have hrefs (kind : RefKind) (refs : List (String × String)) (values : BTreeMap String Json) :
      (readRefs kind refs values).OnlyAsks InstallOp.isRead := by
    induction refs generalizing values with
    | nil => trivial
    | cons ref refs ih =>
      refine ⟨trivial, fun answer => ?_⟩
      cases answer with
      | error err => trivial
      | ok value => exact ih _
  apply (hrefs .config _ _).bind
  intro config
  cases config with
  | error err => trivial
  | ok config =>
    apply (hrefs .secret _ _).bind
    intro secrets
    cases secrets <;> trivial

theorem resolve_writes {h : InstallHistory} {q : InstallProg (Except String ResolvedInstall)}
    (hr : Runs (resolve record) h q) : writes h = [] := by
  apply List.filterMap_eq_nil_iff.mpr
  intro e he
  have hread : e.op.isRead := (resolve_onlyAsks record).of_mem hr he
  obtain ⟨o, a⟩ := e
  cases o with
  | read kind reference => rfl
  | _ => exact absurd hread id

/-- The references in the order in which `resolve` reads them. -/
def ProviderInstallRecord.readOrder (record : ProviderInstallRecord) : List (RefKind × String) :=
  record.configRefs.entries.map (fun e => (.config, e.2)) ++
    record.secretRefs.entries.map fun e => (.secret, e.2)

def ReadsValue (ref : RefKind × String) (e : Event installInterface) : Prop :=
  ∃ value, e = ⟨.read ref.1 ref.2, .ok value⟩

/-- The references before `ref` were read, and `ref` was not. -/
def FirstUnreadable (order : List (RefKind × String)) (reads : InstallHistory)
    (ref : RefKind × String) : Prop :=
  ∃ before after readable err, order = before ++ ref :: after ∧
    reads = readable ++ [⟨.read ref.1 ref.2, .error err⟩] ∧
    List.Forall₂ ReadsValue before readable

def missingRef (ref : RefKind × String) : String := s!"missing {ref.1.text} ref {ref.2}"

/-- What a finished loop over references has read. -/
def ReadsAll (order : List (RefKind × String)) (reads : InstallHistory) {α : Type} :
    Except String α → Prop
  | .ok _ => List.Forall₂ ReadsValue order reads
  | .error err => ∃ ref, FirstUnreadable order reads ref ∧ err = missingRef ref

theorem FirstUnreadable.append {order : List (RefKind × String)} {reads : InstallHistory}
    {ref : RefKind × String} (h : FirstUnreadable order reads ref)
    (rest : List (RefKind × String)) : FirstUnreadable (order ++ rest) reads ref := by
  obtain ⟨before, after, readable, err, rfl, rfl, hread⟩ := h
  exact ⟨before, after ++ rest, readable, err, by simp, rfl, hread⟩

theorem FirstUnreadable.after {order first : List (RefKind × String)} {reads h : InstallHistory}
    {ref : RefKind × String} (hu : FirstUnreadable order reads ref)
    (hfirst : List.Forall₂ ReadsValue first h) :
    FirstUnreadable (first ++ order) (h ++ reads) ref := by
  obtain ⟨before, after, readable, err, rfl, rfl, hread⟩ := hu
  refine ⟨first ++ before, after, h ++ readable, err, by simp, by simp, ?_⟩
  exact List.rel_append hfirst hread

theorem readRefs_reads {kind : RefKind} {refs : List (String × String)}
    {values : BTreeMap String Json} {reads : InstallHistory}
    {result : Except String (BTreeMap String Json)}
    (hr : Runs (readRefs kind refs values) reads (.ret result)) :
    ReadsAll (refs.map fun e => (kind, e.2)) reads result := by
  induction refs generalizing values reads with
  | nil =>
    obtain ⟨rfl, hresult⟩ := runs_ret.mp hr
    cases hresult
    exact .nil
  | cons ref refs ih =>
    obtain ⟨key, reference⟩ := ref
    rw [readRefs, InstallProg.read, perform_bind, runs_ask_ret] at hr
    obtain ⟨answer, rest, rfl, hr⟩ := hr
    cases answer with
    | error err =>
      obtain ⟨rfl, hresult⟩ := runs_ret.mp hr
      cases hresult
      exact ⟨(kind, reference), ⟨[], _, [], err, rfl, rfl, .nil⟩, rfl⟩
    | ok value =>
      have hone : List.Forall₂ ReadsValue [(kind, reference)]
          [⟨.read kind reference, .ok value⟩] := .cons ⟨value, rfl⟩ .nil
      have hrest := ih hr
      cases result with
      | ok values => exact .cons ⟨value, rfl⟩ hrest
      | error err =>
        obtain ⟨ref, hu, herr⟩ := hrest
        exact ⟨ref, hu.after hone, herr⟩

/-- A failed `resolve` stopped at the first reference it could not read, and says which. -/
theorem resolve_reads {reads : InstallHistory} {result : Except String ResolvedInstall}
    (hr : Runs (resolve record) reads (.ret result)) :
    ReadsAll record.readOrder reads result ∧
      ∀ install, result = .ok install → install.record = record := by
  obtain ⟨config, h₁, h₂, rfl, hc, hr⟩ := runs_bind_ret hr
  have hconfig := readRefs_reads hc
  cases config with
  | error e =>
    obtain ⟨rfl, hresult⟩ := runs_ret.mp hr
    cases hresult
    obtain ⟨ref, hu, rfl⟩ := hconfig
    rw [List.append_nil]
    exact ⟨⟨ref, hu.append _, rfl⟩, nofun⟩
  | ok config =>
    obtain ⟨secrets, h₃, h₄, rfl, hs, hr⟩ := runs_bind_ret hr
    have hsecret := readRefs_reads hs
    cases secrets with
    | error e =>
      obtain ⟨rfl, hresult⟩ := runs_ret.mp hr
      cases hresult
      obtain ⟨ref, hu, rfl⟩ := hsecret
      rw [List.append_nil]
      exact ⟨⟨ref, hu.after hconfig, rfl⟩, nofun⟩
    | ok secrets =>
      obtain ⟨rfl, hresult⟩ := runs_ret.mp hr
      cases hresult
      rw [List.append_nil]
      refine ⟨List.rel_append hconfig hsecret, fun install hinstall => ?_⟩
      cases hinstall
      rfl

theorem resolve_error {h : InstallHistory} {err : String}
    (hr : Runs (resolve record) h (.ret (.error err))) : Unreadable record h := by
  obtain ⟨ref, ⟨before, after, readable, e, horder, rfl, -⟩, -⟩ := (resolve_reads hr).1
  have hmem : ref ∈ record.readOrder := by simp [horder]
  rcases List.mem_append.mp hmem with hmem | hmem
  · obtain ⟨entry, hentry, rfl⟩ := List.mem_map.mp hmem
    exact ⟨.config, entry, hentry, e, by simp⟩
  · obtain ⟨entry, hentry, rfl⟩ := List.mem_map.mp hmem
    exact ⟨.secret, entry, hentry, e, by simp⟩

theorem resolve_record {h : InstallHistory} {install : ResolvedInstall}
    (hr : Runs (resolve record) h (.ret (.ok install))) : install.record = record :=
  (resolve_reads hr).2 install rfl

theorem reportFailure_runs {err : String} {h : InstallHistory}
    {q : InstallProg (Except String Unit)} (hr : Runs (reportFailure worker record err) h q) :
    SyncTrace worker record h q.value? := by
  rw [reportFailure, InstallProg.updateInstall, perform_bind, runs_ask] at hr
  rcases hr with ⟨rfl, rfl⟩ | ⟨_, h, rfl, hr⟩
  · exact .unfinished rfl
  · obtain ⟨rfl, rfl⟩ := runs_ret.mp hr
    exact .failed err rfl

theorem syncLoop_runs {install : ResolvedInstall} (hinstall : install.record = record)
    {attempt left : ℕ} {lastErr : Option String} {h : InstallHistory}
    {q : InstallProg (Except String Unit)}
    (hr : Runs (syncLoop worker spec record install attempt left lastErr) h q) :
    SyncTrace worker record h q.value? := by
  -- only the last attempt and a success write, and nothing follows them
  induction left generalizing attempt lastErr h with
  | zero => exact reportFailure_runs hr
  | succ left ih =>
    rw [syncLoop, InstallProg.syncSubscriptions, perform_bind, runs_ask] at hr
    rcases hr with ⟨rfl, rfl⟩ | ⟨answer, h, rfl, hr⟩
    · exact .unfinished rfl
    · cases answer with
      | ok state =>
        dsimp only at hr
        rw [InstallProg.now, perform_bind, runs_ask] at hr
        rcases hr with ⟨rfl, rfl⟩ | ⟨now, h, rfl, hr⟩
        · exact .unfinished rfl
        · rw [InstallProg.updateInstall, perform, runs_ask, hinstall] at hr
          rcases hr with ⟨rfl, rfl⟩ | ⟨answer, h, rfl, hr⟩
          · exact .unfinished rfl
          · obtain ⟨rfl, rfl⟩ := runs_ret.mp hr
            exact .synced state now answer rfl (by simp)
      | error err =>
        apply SyncTrace.cons rfl
        dsimp only at hr
        split_ifs at hr
        · exact reportFailure_runs hr
        · rw [InstallProg.threadRng, perform_bind, runs_ask] at hr
          rcases hr with ⟨rfl, rfl⟩ | ⟨rng, h, rfl, hr⟩
          · exact .unfinished rfl
          · rw [InstallProg.sleep, perform_bind, runs_ask] at hr
            rcases hr with ⟨rfl, rfl⟩ | ⟨_, h, rfl, hr⟩
            · exact .unfinished rfl
            · exact .cons rfl (.cons rfl (ih hr))

theorem syncInstall_runs {h : InstallHistory} {q : InstallProg (Except String Unit)}
    (hr : Runs (syncInstall worker spec record) h q) : SyncTrace worker record h q.value? := by
  rcases runs_bind hr with ⟨o, k, hp, rfl⟩ | ⟨resolved, h₁, h₂, rfl, hp, hr⟩
  · exact .unfinished (resolve_writes hp)
  · have hw := resolve_writes hp
    cases resolved with
    | error err =>
      obtain ⟨rfl, rfl⟩ := runs_ret.mp hr
      rw [List.append_nil]
      exact .unresolved err hw (resolve_error hp)
    | ok install => exact (syncLoop_runs (resolve_record hp) hr).after hw

/-- The entries of the metadata other than `subscriptions`; metadata that is no object has none. -/
def otherEntries : Json → List (String × Json)
  | .object entries => entries.filter fun e => decide (e.1 ≠ "subscriptions")
  | _ => []

/-- The records agree but for `subscriptions_state` and for metadata, of which only the other
entries count: a sync drops metadata that is no object. -/
structure SameElsewhere (a b : ProviderInstallRecord) : Prop where
  fields : b = { a with subscriptionsState := b.subscriptionsState, metadata := b.metadata }
  entries : otherEntries b.metadata = otherEntries a.metadata

theorem SameElsewhere.trans {a b c : ProviderInstallRecord} (h : SameElsewhere a b)
    (h' : SameElsewhere b c) : SameElsewhere a c := by
  refine ⟨?_, h'.entries.trans h.entries⟩
  rw [h'.fields, h.fields]

theorem SameElsewhere.symm {a b : ProviderInstallRecord} (h : SameElsewhere a b) :
    SameElsewhere b a := by
  refine ⟨?_, h.entries.symm⟩
  rw [h.fields]

theorem SameElsewhere.key_eq {a b : ProviderInstallRecord} (h : SameElsewhere a b) :
    b.key = a.key := by
  rw [h.fields]
  rfl

theorem otherEntries_update (metadata : Json) (lastSync : String) (failures : UInt32)
    (degraded : Bool) :
    otherEntries (updateSubscriptionMetadata metadata lastSync failures degraded) =
      otherEntries metadata := by
  cases metadata with
  | object entries => exact filter_insertEntry "subscriptions" _ entries
  | _ => simp [updateSubscriptionMetadata, otherEntries, insertEntry]

/-- The metadata that a sync leaves does not depend on what it left before. -/
theorem updateSubscriptionMetadata_again (metadata : Json) (lastSync lastSync' : String)
    (failures failures' : UInt32) (degraded degraded' : Bool) :
    updateSubscriptionMetadata (updateSubscriptionMetadata metadata lastSync failures degraded)
      lastSync' failures' degraded' =
        updateSubscriptionMetadata metadata lastSync' failures' degraded' := by
  cases metadata with
  | object entries => exact congrArg Json.object (insertEntry_insertEntry ..)
  | _ => exact congrArg Json.object (insertEntry_insertEntry ..)

theorem synced_sameElsewhere (record : ProviderInstallRecord) (state : Json) (now : String) :
    SameElsewhere record (record.synced state now) :=
  ⟨rfl, otherEntries_update ..⟩

theorem failed_sameElsewhere (record : ProviderInstallRecord) (maxFailures : UInt32) :
    SameElsewhere record (record.failed maxFailures) :=
  ⟨rfl, otherEntries_update ..⟩

/-- What is written comes from the record given, and nothing is written twice. -/
theorem SyncTrace.writes_eq {h : InstallHistory} {v : Option (Except String Unit)}
    (ht : SyncTrace worker record h v) :
    writes h = [] ∨ ∃ r, writes h = [r] ∧ SameElsewhere record r := by
  cases ht with
  | unfinished hw | unresolved _ hw => exact .inl hw
  | synced state now _ hw => exact .inr ⟨_, hw, synced_sameElsewhere ..⟩
  | failed _ hw => exact .inr ⟨_, hw, failed_sameElsewhere ..⟩

theorem SyncTrace.write {h h' : InstallHistory} {v : Option (Except String Unit)}
    {r : ProviderInstallRecord} {answer : Except String Unit}
    (ht : SyncTrace worker record (h ++ ⟨.updateInstall r, answer⟩ :: h') v) :
    SameElsewhere record r ∧ writes h = [] := by
  have hwrites : writes (h ++ ⟨.updateInstall r, answer⟩ :: h') = writes h ++ r :: writes h' :=
    writes_append ..
  rcases ht.writes_eq with hnone | ⟨r', hone, hsame⟩
  · simp [hwrites] at hnone
  · rcases List.append_eq_singleton_iff.mp (hwrites ▸ hone) with ⟨hfirst, hlast⟩ | ⟨_, hlast⟩
    · obtain rfl := (List.cons.inj hlast).1
      exact ⟨hsame, hfirst⟩
    · cases hlast

abbrev InstallLog := List (Label Unit installInterface ProviderInstallRecord)

section Interleaved

variable {readable : RefKind → String → Prop} {s₀ : InMemoryInstallStore}
  {proc : Unit → InstallProg (Except String Unit)} {log : InstallLog}
  {c : Config Unit InMemoryInstallStore (InstallProg (Except String Unit))}

/-- A record that neither the worker nor others write stays as it is. -/
theorem get_unwritten {key : ProviderInstallKey}
    (hr : (installSystem readable).Run ⟨s₀, proc⟩ log c) (hw : writes (localHistory () log) = [])
    (hothers : ∀ other, .env other ∈ log → other.key ≠ key) :
    c.shared.get key = s₀.get key := by
  let Kept (log : InstallLog) (s : InMemoryInstallStore) : Prop :=
    writes (localHistory () log) = [] → (∀ other, .env other ∈ log → other.key ≠ key) →
      s.get key = s₀.get key
  have hact (log : InstallLog) (s : InMemoryInstallStore) (i : Unit) (e : Event installInterface)
      (s' : InMemoryInstallStore) (hkept : Kept log s)
      (hs : InMemoryInstallStore.handle readable s e s') : Kept (log ++ [.act i e]) s' := by
    intro hw hothers
    rw [localHistory_snoc_act, if_pos rfl, writes_append] at hw
    obtain ⟨hold, hone⟩ := List.append_eq_nil_iff.mp hw
    have hsame := hkept hold fun other hmem => hothers other (List.mem_append_left _ hmem)
    obtain ⟨o, a⟩ := e
    cases o with
    | updateInstall r => cases hone -- the worker has not written yet
    | read kind reference => rw [hs.2, hsame]
    | _ =>
      cases hs
      exact hsame
  have henv (log : InstallLog) (s : InMemoryInstallStore) (other : ProviderInstallRecord)
      (s' : InMemoryInstallStore) (hkept : Kept log s) (hs : s' = s.insert other) :
      Kept (log ++ [.env other]) s' := by
    intro hw hothers
    rw [localHistory_snoc_env] at hw
    have hne := hothers other (List.mem_append_right _ List.mem_cons_self)
    rw [hs, InMemoryInstallStore.get_insert_of_ne s hne.symm]
    exact hkept hw fun other hmem => hothers other (List.mem_append_left _ hmem)
  have hstart : Kept [] s₀ := fun _ _ => rfl
  have hkept : Kept log c.shared := hr.invariant hstart hact henv
  exact hkept hw hothers

/-- A write of `sync_install` carries the other fields of the record it was given.
It keeps those of the stored record exactly if the two agree there, and they do
if no one wrote the record since it was listed. -/
theorem sync_write {before : InstallLog} {r : ProviderInstallRecord} {answer : Except String Unit}
    (hr : (installSystem readable).Run ⟨s₀, fun _ => syncInstall worker spec record⟩
      (before ++ [.act () ⟨.updateInstall r, answer⟩]) c) :
    SameElsewhere record r ∧
    ∃ c', (installSystem readable).Run ⟨s₀, fun _ => syncInstall worker spec record⟩ before c' ∧
      c.shared = c'.shared.insert r ∧
      (∀ stored, c'.shared.get r.key = some stored →
        (SameElsewhere stored r ↔ SameElsewhere stored record)) ∧
      (s₀.get record.key = some record →
        (∀ other, .env other ∈ before → other.key ≠ record.key) →
        c'.shared.get r.key = some record) := by
  have ht := syncInstall_runs (hr.local ())
  rw [localHistory_snoc_act, if_pos rfl] at ht
  obtain ⟨hsame, hfirst⟩ := ht.write
  obtain ⟨c', hbefore, _, hinsert⟩ := hr.last_act
  refine ⟨hsame, c', hbefore, hinsert, fun stored _ => ?_, fun hlisted hothers => ?_⟩
  · constructor
    · intro hkept
      exact hkept.trans hsame.symm
    · intro hagree
      exact hagree.trans hsame
  · -- this write is the worker's first
    rw [hsame.key_eq, get_unwritten hbefore hfirst hothers]
    exact hlisted

end Interleaved

def githubSpec : EventProviderSpec where
  name := "events.github"
  kind := .source
  component := "events.github@1.0.0"
  defaultFlow := none
  customFlow := none
  capabilities := ⟨none, none, none, []⟩

def githubInstall : ProviderInstallRecord where
  tenant := ⟨"dev", ⟨"tenant", by decide⟩, .null⟩
  providerId := "events.github"
  installId := "install-1"
  packId := "events-github"
  packVersion := "1.0.0"
  createdAt := ⟨0⟩
  updatedAt := ⟨0⟩
  configRefs := .empty
  secretRefs := .empty
  webhookState := .null
  subscriptionsState := .null
  metadata := .null

def rehooked : ProviderInstallRecord := { githubInstall with webhookState := .string "registered" }

/-- The driver answers, the clock is read, another party changes the record. -/
def beforeWrite : InstallLog :=
  [.act () ⟨.syncSubscriptions githubSpec ⟨githubInstall, .empty, .empty⟩, .ok (.bool true)⟩,
    .act () ⟨.now, "t1"⟩, .env rehooked]

def githubWrite : Event installInterface :=
  ⟨.updateInstall (githubInstall.synced (.bool true) "t1"), .ok ()⟩

abbrev githubSystem := installSystem fun _ _ => True

def githubStart : Config Unit InMemoryInstallStore (InstallProg (Except String Unit)) :=
  ⟨InMemoryInstallStore.empty.insert githubInstall,
    fun _ => syncInstall .new githubSpec githubInstall⟩

theorem github_run : ∃ c c', githubSystem.Run githubStart beforeWrite c ∧
    c.shared.get githubInstall.key = some rehooked ∧
    githubSystem.Run githubStart (beforeWrite ++ [.act () githubWrite]) c' := by
  have hfull : Runs (syncInstall .new githubSpec githubInstall)
      ([⟨.syncSubscriptions githubSpec ⟨githubInstall, .empty, .empty⟩, .ok (.bool true)⟩,
        ⟨.now, "t1"⟩] ++ [githubWrite]) (.ret (.ok ())) :=
    .step rfl (.step rfl (.step rfl (.refl _)))
  obtain ⟨q, hfirst, hlast⟩ := hfull.split
  have hanswers : githubSystem.Run githubStart _ _ :=
    System.Run.acts (i := ()) hfirst rfl (.cons rfl (.cons rfl (.nil _)))
  have hother : githubSystem.Run githubStart beforeWrite _ := hanswers.env (e := rehooked) rfl
  have hserved : githubSystem.Served ()
      ((InMemoryInstallStore.empty.insert githubInstall).insert rehooked) [githubWrite] _ :=
    .cons ⟨rfl, rfl⟩ (.nil _)
  have hwritten : githubSystem.Run ⟨_, Function.update githubStart.proc () q⟩ _ _ :=
    System.Run.acts hlast (Function.update_self ..) hserved
  exact ⟨_, _, hother, InMemoryInstallStore.get_insert_self _ rehooked, hother.trans hwritten⟩

theorem sync_write_github :
    SameElsewhere githubInstall (githubInstall.synced (.bool true) "t1") := by
  obtain ⟨c, c', _, _, hr⟩ := github_run
  exact (sync_write hr).1

/-- Every write keeps the other fields of the record stored just before it. -/
def KeepsOtherFields (readable : RefKind → String → Prop) (worker : SubscriptionsWorker)
    (spec : EventProviderSpec) (record : ProviderInstallRecord) (s₀ : InMemoryInstallStore) :
    Prop :=
  ∀ before r answer c c',
    (installSystem readable).Run ⟨s₀, fun _ => syncInstall worker spec record⟩ before c →
    (installSystem readable).Run ⟨s₀, fun _ => syncInstall worker spec record⟩
      (before ++ [.act () ⟨.updateInstall r, answer⟩]) c' →
    ∀ stored, c.shared.get r.key = some stored → SameElsewhere stored r

/-- The new webhook state is overwritten with the listed one. -/
theorem webhook_update_lost : ¬ KeepsOtherFields (fun _ _ => True) .new githubSpec githubInstall
    (InMemoryInstallStore.empty.insert githubInstall) := by
  intro hkeeps
  obtain ⟨c, c', hbefore, hstored, hwrite⟩ := github_run
  have hsame := hkeeps _ _ _ _ _ hbefore hwrite rehooked hstored
  have hwebhook := congrArg ProviderInstallRecord.webhookState hsame.fields
  cases hwebhook

end GreenticEvents
