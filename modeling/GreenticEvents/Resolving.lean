import GreenticEvents.Sources
import GreenticEvents.Sync

/-!
# Unreadable references

`resolve` stops at the first reference it cannot read, and the code of the
diagnostic is found again in the text of its error.
-/

namespace GreenticEvents
open Data Effects Prog

theorem FirstUnreadable.unique {order : List (RefKind × String)} {reads : InstallHistory}
    {ref ref' : RefKind × String} (h : FirstUnreadable order reads ref)
    (h' : FirstUnreadable order reads ref') : ref = ref' := by
  obtain ⟨_, _, readable, err, _, hreads, _⟩ := h
  obtain ⟨_, _, readable', err', _, hreads', _⟩ := h'
  have hlast := List.append_inj_right' (hreads.symm.trans hreads') rfl
  injection hlast with hlast
  injection hlast with hop
  injection hop with hkind hreference
  exact Prod.ext hkind hreference

def RefKind.missingCode : RefKind → DiagnosticCode
  | .config => .missingConfig
  | .secret => .missingSecret

/-- A part without the separator lies on one side of it. -/
theorem infix_append_cons_iff {α : Type} {part l r : List α} {c : α} (hc : c ∉ part) :
    part <:+: l ++ c :: r ↔ part <:+: l ∨ part <:+: r := by
  constructor
  · rintro ⟨s, t, ht⟩
    rw [List.append_assoc] at ht
    rcases List.append_eq_append_iff.mp ht with ⟨as, rfl, has⟩ | ⟨bs, rfl, hbs⟩
    · -- the part begins before the separator, so it ends there too
      rcases List.append_eq_append_iff.mp has with ⟨cs, rfl, -⟩ | ⟨ds, rfl, hds⟩
      · exact .inl ⟨s, cs, by simp⟩
      · cases ds with
        | nil => exact .inl ⟨s, [], by simp⟩
        | cons d ds =>
          obtain rfl := (List.cons.inj hds).1
          exact absurd (by simp) hc
    · cases bs with
      | nil =>
        cases part with
        | nil => exact .inl List.nil_infix
        | cons d part =>
          obtain rfl := (List.cons.inj hbs).1
          exact absurd List.mem_cons_self hc
      | cons b bs =>
        have hr : bs ++ (part ++ t) = r := (List.cons.inj hbs).2.symm
        exact .inr ⟨bs, t, by rw [List.append_assoc, hr]⟩
  · rintro (hl | hr)
    · exact List.infix_append_of_infix_left hl
    · exact List.infix_append_of_infix_right (List.infix_cons hr)

theorem missingRef_toList (kind : RefKind) (reference : String) :
    (missingRef (kind, reference)).toList =
      s!"missing {kind.text} ref".toList ++ ' ' :: reference.toList := by
  have hsep : " ref ".toList = " ref".toList ++ [' '] := by simp
  simp [missingRef, toString, hsep]

theorem contains_missingRef {kind : RefKind} {reference part : String} (hpart : ' ' ∉ part.toList) :
    RetryPolicy.contains (missingRef (kind, reference)) part =
      (RetryPolicy.contains s!"missing {kind.text} ref" part ||
        RetryPolicy.contains reference part) := by
  simp only [RetryPolicy.contains, missingRef_toList, infix_append_cons_iff hpart, Bool.decide_or]

/-- The word `secret` comes from the kind or from the reference. -/
theorem contains_secret (kind : RefKind) (reference : String) :
    RetryPolicy.contains (missingRef (kind, reference)) "secret" =
      (decide (kind = .secret) || RetryPolicy.contains reference "secret") := by
  have hkind : RetryPolicy.contains s!"missing {kind.text} ref" "secret" =
      decide (kind = .secret) := by
    cases kind <;> decide
  rw [contains_missingRef (by simp), hkind]

theorem contains_config (reference : String) :
    RetryPolicy.contains (missingRef (.config, reference)) "config" = true := by
  have hkind : RetryPolicy.contains s!"missing {RefKind.config.text} ref" "config" = true := by
    decide
  rw [contains_missingRef (by simp), hkind, Bool.true_or]

/-- The code is that of the kind, unless `secret` occurs in a config reference. -/
theorem diagnosticCode_missingRef (kind : RefKind) (reference : String) :
    diagnosticCodeForResolveError (missingRef (kind, reference)) = kind.missingCode ↔
      (kind = .config → RetryPolicy.contains reference "secret" = false) := by
  rw [diagnosticCodeForResolveError, contains_secret]
  cases kind with
  | secret => simp [RefKind.missingCode]
  | config =>
    rw [contains_config]
    by_cases hsecret : RetryPolicy.contains reference "secret" = true
    · simp [hsecret, RefKind.missingCode]
    · simp [hsecret, RefKind.missingCode]

def resolveDiagnostic (record : ProviderInstallRecord) (err : String) : RuntimeDiagnostic :=
  ⟨record.providerId, some record.installId, diagnosticCodeForResolveError err, err⟩

/-- Every failed `resolve` is reported, and what else is reported has another code. -/
structure ReportsResolves (failed : ProviderInstallRecord → String → Prop)
    (diagnostics : List RuntimeDiagnostic) : Prop where
  reported : ∀ record err, failed record err → resolveDiagnostic record err ∈ diagnostics
  coded : ∀ d ∈ diagnostics, d.code = .malformedInstall ∨ d.code = .providerInitFailed ∨
    d.code = diagnosticCodeForResolveError d.message

theorem ReportsResolves.flatMap {π : Type} {failed : π → ProviderInstallRecord → String → Prop}
    {diagnostics : π → List RuntimeDiagnostic} (pieces : List π)
    (h : ∀ piece ∈ pieces, ReportsResolves (failed piece) (diagnostics piece)) :
    ReportsResolves (fun record err => ∃ piece ∈ pieces, failed piece record err)
      (pieces.flatMap diagnostics) := by
  constructor
  · rintro record err ⟨piece, hmem, hfailed⟩
    exact List.mem_flatMap.mpr ⟨piece, hmem, (h piece hmem).reported record err hfailed⟩
  · intro d hd
    obtain ⟨piece, hmem, hd⟩ := List.mem_flatMap.mp hd
    exact (h piece hmem).coded d hd

theorem ReportsResolves.mono {failed failed' : ProviderInstallRecord → String → Prop}
    {diagnostics : List RuntimeDiagnostic} (h : ReportsResolves failed diagnostics)
    (hfailed : ∀ record err, failed' record err → failed record err) :
    ReportsResolves failed' diagnostics :=
  ⟨fun record err h' => h.reported record err (hfailed record err h'), h.coded⟩

/-- The code of the kind is reported exactly when it is what the text leads to. -/
theorem ReportsResolves.missing_iff {failed : ProviderInstallRecord → String → Prop}
    {diagnostics : List RuntimeDiagnostic} (h : ReportsResolves failed diagnostics)
    {record : ProviderInstallRecord} {err : String} (hfailed : failed record err)
    (kind : RefKind) :
    ⟨record.providerId, some record.installId, kind.missingCode, err⟩ ∈ diagnostics ↔
      diagnosticCodeForResolveError err = kind.missingCode := by
  constructor
  · intro hmem
    rcases h.coded _ hmem with hcode | hcode | hcode
    · cases kind <;> cases hcode
    · cases kind <;> cases hcode
    · exact hcode.symm
  · intro hcode
    rw [← hcode]
    exact h.reported record err hfailed

def RouterFailed (h : RouterHistory) (record : ProviderInstallRecord) (err : String) : Prop :=
  ⟨.resolve record, .error err⟩ ∈ h

def SourceFailed (h : SourceHistory) (record : ProviderInstallRecord) (err : String) : Prop :=
  ⟨.resolve record, .error err⟩ ∈ h

theorem SinkPair.reports (spec : EventProviderSpec) (pair : SinkPair) :
    ReportsResolves (RouterFailed (pair.history spec)) pair.diagnostics := by
  obtain ⟨record, outcome⟩ := pair
  cases outcome <;> constructor <;>
    simp [RouterFailed, SinkPair.history, SinkPair.diagnostics, resolveDiagnostic]

theorem SourceStart.reports (spec : EventProviderSpec) (start : SourceStart) :
    ReportsResolves (SourceFailed (start.history spec)) start.diagnostics := by
  obtain ⟨record, outcome⟩ := start
  rcases outcome with err | ⟨install, err | _⟩ <;> constructor <;>
    simp [SourceFailed, SourceStart.history, SourceStart.diagnostics, resolveDiagnostic]

theorem SinkBlock.reports (block : SinkBlock) :
    ReportsResolves (RouterFailed block.history) block.diagnostics := by
  obtain ⟨spec, listing⟩ := block
  cases listing with
  | error err => constructor <;> simp [RouterFailed, SinkBlock.history, SinkBlock.diagnostics]
  | ok pairs =>
    apply (ReportsResolves.flatMap pairs fun pair _ => pair.reports spec).mono
    -- the listing itself is no failed `resolve`
    intro record err hfailed
    simpa [RouterFailed, SinkBlock.history] using hfailed

theorem SourceBlock.reports (block : SourceBlock) :
    ReportsResolves (SourceFailed block.history) block.diagnostics := by
  obtain ⟨spec, listing⟩ := block
  cases listing with
  | error err => constructor <;> simp [SourceFailed, SourceBlock.history, SourceBlock.diagnostics]
  | ok starts =>
    apply (ReportsResolves.flatMap starts fun start _ => start.reports spec).mono
    intro record err hfailed
    simpa [SourceFailed, SourceBlock.history] using hfailed

theorem buildSinkRouter_reports {providers : List EventProviderSpec} {h : RouterHistory}
    {router : SinkRouter} {diagnostics : List RuntimeDiagnostic}
    (hr : Runs (buildSinkRouter providers) h (.ret (router, diagnostics))) :
    ReportsResolves (RouterFailed h) diagnostics := by
  obtain ⟨blocks, -, rfl, -, rfl⟩ := buildSinkRouter_runs.mp hr
  apply (ReportsResolves.flatMap blocks fun block _ => block.reports).mono
  intro record err hfailed
  exact List.mem_flatMap.mp hfailed

theorem startSources_reports {providers : List EventProviderSpec} {h : SourceHistory}
    {diagnostics : List RuntimeDiagnostic}
    (hr : Runs (startSources providers) h (.ret diagnostics)) :
    ReportsResolves (SourceFailed h) diagnostics := by
  obtain ⟨blocks, -, rfl, rfl⟩ := startSources_runs.mp hr
  apply (ReportsResolves.flatMap blocks fun block _ => block.reports).mono
  intro record err hfailed
  exact List.mem_flatMap.mp hfailed

/-- A failed `resolve` is reported with the code of the first unreadable reference. -/
def ReportsKind (kind : RefKind) (record : ProviderInstallRecord) (err : String)
    (diagnostics : List RuntimeDiagnostic) : Prop :=
  ⟨record.providerId, some record.installId, kind.missingCode, err⟩ ∈ diagnostics

/-- Both loops report the kind of the first unreadable reference exactly when that is no
config reference with `secret` in it. -/
theorem reportsKind_iff {record : ProviderInstallRecord} {reads : InstallHistory} {err : String}
    (hresolve : Runs (resolve record) reads (.ret (.error err))) :
    ∃ kind reference, FirstUnreadable record.readOrder reads (kind, reference) ∧
      (∀ providers h router diagnostics,
        Runs (buildSinkRouter providers) h (.ret (router, diagnostics)) →
        ⟨.resolve record, .error err⟩ ∈ h →
        (ReportsKind kind record err diagnostics ↔
          (kind = .config → RetryPolicy.contains reference "secret" = false))) ∧
      ∀ providers h diagnostics,
        Runs (startSources providers) h (.ret diagnostics) →
        ⟨.resolve record, .error err⟩ ∈ h →
        (ReportsKind kind record err diagnostics ↔
          (kind = .config → RetryPolicy.contains reference "secret" = false)) := by
  obtain ⟨⟨kind, reference⟩, hfirst, rfl⟩ := (resolve_reads hresolve).1
  have hcode := diagnosticCode_missingRef kind reference
  refine ⟨kind, reference, hfirst, ?_, ?_⟩
  · intro providers h router diagnostics hr hfailed
    exact ((buildSinkRouter_reports hr).missing_iff hfailed kind).trans hcode
  · intro providers h diagnostics hr hfailed
    exact ((startSources_reports hr).missing_iff hfailed kind).trans hcode

def configInstall (reference : String) : ProviderInstallRecord :=
  { githubInstall with configRefs := BTreeMap.empty.insert "token" reference }

def failedRead (reference : String) : InstallHistory :=
  [⟨.read .config reference, .error "not found"⟩]

theorem failedRead_runs (reference : String) : Runs (resolve (configInstall reference))
    (failedRead reference) (.ret (.error (missingRef (.config, reference)))) :=
  .step rfl (.refl _)

theorem failedRead_first (reference : String) :
    FirstUnreadable (configInstall reference).readOrder (failedRead reference)
      (.config, reference) :=
  ⟨[], [], [], "not found", rfl, rfl, .nil⟩

def failedStart (reference : String) : SourceHistory :=
  [⟨.listInstalls "events.github", .ok [configInstall reference]⟩,
    ⟨.resolve (configInstall reference), .error (missingRef (.config, reference))⟩]

theorem failedStart_runs (reference : String) : Runs (startSources [githubSpec])
    (failedStart reference) (.ret [resolveDiagnostic (configInstall reference)
      (missingRef (.config, reference))]) :=
  .step rfl (.step rfl (.refl _))

theorem failedStart_failed (reference : String) :
    ⟨.resolve (configInstall reference), .error (missingRef (.config, reference))⟩ ∈
      failedStart reference :=
  List.mem_cons_of_mem _ List.mem_cons_self

theorem reportsKind_iff_github :
    let err := missingRef (.config, "config/github")
    ReportsKind .config (configInstall "config/github") err
      [resolveDiagnostic (configInstall "config/github") err] := by
  obtain ⟨kind, reference, hfirst, -, hsources⟩ := reportsKind_iff (failedRead_runs "config/github")
  cases hfirst.unique (failedRead_first "config/github")
  have hiff := hsources _ _ _ (failedStart_runs _) (failedStart_failed _)
  exact hiff.mpr fun _ => by decide

/-- An unreadable config reference is reported as a missing secret. -/
theorem config_reported_as_secret :
    ¬ ∀ (record : ProviderInstallRecord) (reads : InstallHistory) (err : String) (kind : RefKind)
        (reference : String), Runs (resolve record) reads (.ret (.error err)) →
      FirstUnreadable record.readOrder reads (kind, reference) →
      (∀ providers h router diagnostics,
        Runs (buildSinkRouter providers) h (.ret (router, diagnostics)) →
        ⟨.resolve record, .error err⟩ ∈ h → ReportsKind kind record err diagnostics) ∧
      ∀ providers h diagnostics, Runs (startSources providers) h (.ret diagnostics) →
        ⟨.resolve record, .error err⟩ ∈ h → ReportsKind kind record err diagnostics := by
  intro hall
  have hreports := (hall _ _ _ .config "vault/secret/token" (failedRead_runs _)
    (failedRead_first _)).2 _ _ _ (failedStart_runs _) (failedStart_failed _)
  have hcode := congrArg RuntimeDiagnostic.code (List.mem_singleton.mp hreports)
  revert hcode
  decide

end GreenticEvents
