import GreenticEvents.Builder
import GreenticEvents.Data.EachAfter

/-!
# Which settings a provider ends up with

Overrides are merged when a pack is loaded, when the provider is registered and
again in `build`.  The steps that matter are read off the calls, and the entry
of a name is described from those steps alone.
-/

namespace GreenticEvents
open Data

/-- What the calls on a builder amount to. -/
inductive BuilderStep where
  | replaced (overrides : Overrides)
  | loaded (spec : EventProviderSpec) (own : Option ProviderOverrides)
  | registered (provider : ProviderRegistration)

def packSteps (spec : PackSpec) : List BuilderStep :=
  match spec.events with
  | some events => events.providers.map fun provider =>
      .loaded provider (providerOverridesFromAnnotations provider.name spec.annotations)
  | none => []

def callSteps (loader : PackLoader) : BuilderCall → List BuilderStep
  | .withAcl _ => []
  | .withOverrides overrides => [.replaced overrides]
  | .registerProvider provider => [.registered provider]
  | .registerFromPackDir packDir _ _ =>
    match loadSpec loader packDir with
    | .ok spec => packSteps spec
    | .error _ => []

def steps (loader : PackLoader) (cs : List BuilderCall) : List BuilderStep :=
  cs.flatMap (callSteps loader)

def addsProvider : BuilderStep → Bool
  | .replaced _ => false
  | .loaded spec _ => decide (spec.kind ≠ .bridge)
  | .registered _ => true

/-- The map of the most recent `with_overrides`, and the steps since. -/
def lastOverrides (l : List BuilderStep) : Overrides × List BuilderStep :=
  l.foldl (fun acc step =>
    match step with
    | .replaced overrides => (overrides, [])
    | step => (acc.1, acc.2 ++ [step])) (.empty, [])

/-- The annotation overrides with which a step loads the provider `name`. -/
def ownOverrides (name : String) : BuilderStep → Option ProviderOverrides
  | .loaded spec own => if spec.name = name then own else none
  | _ => none

/-- The entry of the most recent `with_overrides` map as a whole, or else the
annotation overrides of the first provider of that name loaded since. -/
def entryAt (l : List BuilderStep) : Overrides := fun name =>
  ((lastOverrides l).1 name).or ((lastOverrides l).2.findSome? (ownOverrides name))

theorem entryAt_replaced (l : List BuilderStep) (overrides : Overrides) :
    entryAt (l ++ [.replaced overrides]) = overrides := by
  funext name
  simp [entryAt, lastOverrides]

theorem entryAt_registered (l : List BuilderStep) (provider : ProviderRegistration) :
    entryAt (l ++ [.registered provider]) = entryAt l := by
  funext name
  simp [entryAt, lastOverrides, ownOverrides, List.findSome?_append]

theorem entryAt_loaded (l : List BuilderStep) (spec : EventProviderSpec)
    (own : Option ProviderOverrides) :
    entryAt (l ++ [.loaded spec own]) = (entryAt l).orInsert spec.name own := by
  funext name
  by_cases h : spec.name = name
  · simp [entryAt, lastOverrides, ownOverrides, List.findSome?_append, Overrides.orInsert, h,
      Option.or_assoc]
  · simp [entryAt, lastOverrides, ownOverrides, List.findSome?_append, Overrides.orInsert, h,
      Ne.symm h]

/-- A registration as the builder keeps it before `build`. -/
def RegisteredAs (provider : ProviderRegistration) (overrides : Overrides)
    (spec : EventProviderSpec) : Prop :=
  provider = EventBusBuilder.registration overrides spec provider.handle

/-- A loaded provider is registered at its place, under the entry of that moment. -/
def LoadedAt (providers : List ProviderRegistration) (before : List BuilderStep)
    (step : BuilderStep) : Prop :=
  ∀ spec own, step = .loaded spec own → spec.kind ≠ .bridge →
    ∃ provider, providers[before.countP addsProvider]? = some provider ∧
      RegisteredAs provider (entryAt (before ++ [step])) spec

structure Follows (l : List BuilderStep) (b : EventBusBuilder) : Prop where
  overrides : b.overrides = entryAt l
  places : b.providers.length = l.countP addsProvider
  loaded : EachAfter (LoadedAt b.providers) l

theorem LoadedAt.append {providers : List ProviderRegistration} {before : List BuilderStep}
    {step : BuilderStep} (h : LoadedAt providers before step) (added : List ProviderRegistration) :
    LoadedAt (providers ++ added) before step := by
  intro spec own hstep hkind
  obtain ⟨provider, hat, has⟩ := h spec own hstep hkind
  have hlt := (List.getElem?_eq_some_iff.mp hat).1
  exact ⟨provider, (List.getElem?_append_left hlt).trans hat, has⟩

theorem Follows.new : Follows [] EventBusBuilder.new :=
  ⟨rfl, rfl, eachAfter_nil⟩

theorem Follows.replaced {l : List BuilderStep} {b : EventBusBuilder} (h : Follows l b)
    (overrides : Overrides) : Follows (l ++ [.replaced overrides]) (b.withOverrides overrides) where
  overrides := (entryAt_replaced l overrides).symm
  places := by simpa [addsProvider, EventBusBuilder.withOverrides] using h.places
  loaded := h.loaded.snoc fun spec own hstep => by cases hstep

theorem Follows.registered {l : List BuilderStep} {b : EventBusBuilder} (h : Follows l b)
    (provider : ProviderRegistration) :
    Follows (l ++ [.registered provider]) (b.registerProvider provider) where
  overrides := h.overrides.trans (entryAt_registered l provider).symm
  places := by simpa [addsProvider, EventBusBuilder.registerProvider] using h.places
  loaded := (h.loaded.mono fun _ _ hl => hl.append _).snoc fun spec own hstep => by cases hstep

/-- What loading one provider of a pack does to the builder. -/
theorem registerSpec_ok {b b' : EventBusBuilder} {annotations : BTreeMap String Json}
    {factory : EventProviderFactory} {bridges : Option BridgeFactory} {spec : EventProviderSpec}
    (hb : EventBusBuilder.registerSpec annotations factory bridges b spec = .ok b') :
    let overrides := b.overrides.orInsert spec.name
      (providerOverridesFromAnnotations spec.name annotations)
    b'.overrides = overrides ∧ ∃ added, b'.providers = b.providers ++ added ∧
      (spec.kind = .bridge ∧ added = [] ∨ spec.kind ≠ .bridge ∧
        ∃ handle, added = [EventBusBuilder.registration overrides spec handle]) := by
  intro overrides
  have hprovider (hkind : spec.kind ≠ .bridge)
      (hb : (factory spec >>= fun handle => pure { b with
        overrides := overrides
        providers := b.providers ++ [EventBusBuilder.registration overrides spec handle] }) =
          Except.ok b') :
      b'.overrides = overrides ∧ ∃ added, b'.providers = b.providers ++ added ∧
        (spec.kind = .bridge ∧ added = [] ∨ spec.kind ≠ .bridge ∧
          ∃ handle, added = [EventBusBuilder.registration overrides spec handle]) := by
    obtain ⟨handle, _, hb⟩ := except_bind_ok.mp hb
    obtain rfl := Except.ok.inj hb
    exact ⟨rfl, _, rfl, .inr ⟨hkind, handle, rfl⟩⟩
  unfold EventBusBuilder.registerSpec at hb
  cases hkind : spec.kind with
  | bridge =>
    rw [hkind] at hb
    -- a bridge leaves its overrides behind and adds no provider
    cases bridges with
    | none =>
      obtain rfl := Except.ok.inj hb
      exact ⟨rfl, [], (List.append_nil _).symm, .inl ⟨rfl, rfl⟩⟩
    | some bridges =>
      obtain ⟨_, _, hb⟩ := except_bind_ok.mp hb
      obtain ⟨_, _, hb⟩ := except_bind_ok.mp hb
      obtain rfl := Except.ok.inj hb
      exact ⟨rfl, [], (List.append_nil _).symm, .inl ⟨rfl, rfl⟩⟩
  | _ =>
    rw [hkind] at hb
    rw [← hkind]
    exact hprovider (by simp [hkind]) hb

theorem Follows.loaded_step {l : List BuilderStep} {b b' : EventBusBuilder} (h : Follows l b)
    {annotations : BTreeMap String Json} {factory : EventProviderFactory}
    {bridges : Option BridgeFactory} {spec : EventProviderSpec}
    (hb : EventBusBuilder.registerSpec annotations factory bridges b spec = .ok b') :
    Follows (l ++ [.loaded spec (providerOverridesFromAnnotations spec.name annotations)]) b' := by
  obtain ⟨hoverrides, added, hproviders, hadded⟩ := registerSpec_ok hb
  rw [h.overrides, ← entryAt_loaded] at hoverrides hadded
  have hbefore : EachAfter (LoadedAt b'.providers) l := by
    rw [hproviders]
    exact h.loaded.mono fun _ _ hl => hl.append added
  refine ⟨hoverrides, ?_, hbefore.snoc ?_⟩
  · rw [hproviders, List.length_append, h.places, List.countP_append, List.countP_singleton]
    rcases hadded with ⟨hkind, rfl⟩ | ⟨hkind, handle, rfl⟩ <;> simp [addsProvider, hkind]
  · rintro spec' own hstep hkind'
    obtain ⟨rfl, _⟩ := BuilderStep.loaded.inj hstep
    rcases hadded with ⟨hkind, _⟩ | ⟨_, handle, rfl⟩
    · exact absurd hkind hkind'
    · refine ⟨EventBusBuilder.registration _ spec handle, ?_, rfl⟩
      rw [hproviders, ← h.places, List.getElem?_append_right le_rfl, Nat.sub_self]
      rfl

theorem Follows.pack_steps {annotations : BTreeMap String Json} {factory : EventProviderFactory}
    {bridges : Option BridgeFactory} {specs : List EventProviderSpec} {l : List BuilderStep}
    {b b' : EventBusBuilder} (h : Follows l b)
    (hb : specs.foldlM (EventBusBuilder.registerSpec annotations factory bridges) b = .ok b') :
    Follows (l ++ specs.map fun spec =>
      .loaded spec (providerOverridesFromAnnotations spec.name annotations)) b' := by
  induction specs generalizing l b with
  | nil =>
    obtain rfl := Except.ok.inj hb
    simpa using h
  | cons spec specs ih =>
    rw [List.foldlM_cons] at hb
    obtain ⟨b₁, hfirst, hrest⟩ := except_bind_ok.mp hb
    rw [List.map_cons, List.append_cons]
    exact ih (h.loaded_step hfirst) hrest

theorem Follows.call_step {loader : PackLoader} {l : List BuilderStep} {b b' : EventBusBuilder}
    (h : Follows l b) {call : BuilderCall} (hb : b.call loader call = .ok b') :
    Follows (l ++ callSteps loader call) b' := by
  cases call with
  | withAcl rules =>
    obtain rfl := Except.ok.inj hb
    rw [callSteps, List.append_nil]
    exact ⟨h.overrides, h.places, h.loaded⟩
  | withOverrides overrides =>
    obtain rfl := Except.ok.inj hb
    exact h.replaced overrides
  | registerProvider provider =>
    obtain rfl := Except.ok.inj hb
    exact h.registered provider
  | registerFromPackDir packDir factory bridges =>
    obtain ⟨spec, hload, hb⟩ := except_bind_ok.mp hb
    have hspec : loadSpec loader packDir = .ok spec := by
      cases hl : loadSpec loader packDir with
      | error err => rw [hl] at hload; cases hload
      | ok spec' => rw [hl] at hload; exact hload
    rw [callSteps, hspec]
    dsimp only
    unfold packSteps
    cases hevents : spec.events with
    | none =>
      rw [hevents] at hb
      obtain rfl := Except.ok.inj hb
      simpa using h
    | some events =>
      rw [hevents] at hb
      exact h.pack_steps hb

theorem Follows.calls {loader : PackLoader} {cs : List BuilderCall} {l : List BuilderStep}
    {b b' : EventBusBuilder} (h : Follows l b)
    (hb : cs.foldlM (EventBusBuilder.call loader) b = .ok b') :
    Follows (l ++ steps loader cs) b' := by
  induction cs generalizing l b with
  | nil =>
    obtain rfl := Except.ok.inj hb
    simpa [steps] using h
  | cons call cs ih =>
    rw [List.foldlM_cons] at hb
    obtain ⟨b₁, hfirst, hrest⟩ := except_bind_ok.mp hb
    rw [steps, List.flatMap_cons, ← List.append_assoc]
    exact ih (h.call_step hfirst) hrest

/-- A setting of the entry at `build`, else of the entry at registration. -/
def effective {α : Type} (setting : ProviderOverrides → Option α)
    (atBuild atLoad : Option ProviderOverrides) : Option α :=
  (atBuild.bind setting).or (atLoad.bind setting)

def HasSettings (reg : ProviderRegistration) (atBuild atLoad : Option ProviderOverrides) : Prop :=
  reg.dlqTopic = effective ProviderOverrides.dlqTopic atBuild atLoad ∧
    reg.retry = (effective ProviderOverrides.retry atBuild atLoad).getD .default

theorem override_registration {overrides atLoad : Overrides} {spec : EventProviderSpec}
    {provider : ProviderRegistration} (h : RegisteredAs provider atLoad spec) :
    (EventBusBuilder.override overrides provider).descriptor = descriptorFromSpec spec ∧
      HasSettings (EventBusBuilder.override overrides provider) (overrides spec.name)
        (atLoad spec.name) := by
  rw [h]
  have hname : (EventBusBuilder.registration atLoad spec provider.handle).descriptor.name =
      spec.name := rfl
  unfold EventBusBuilder.override HasSettings effective
  rw [hname]
  cases overrides spec.name with
  | none => exact ⟨rfl, rfl, rfl⟩
  | some ov =>
    refine ⟨rfl, rfl, ?_⟩
    cases hr : ov.retry <;> simp [hr, EventBusBuilder.registration]

/-- No provider is loaded under this name. -/
def Unshared (name : String) (l : List BuilderStep) : Prop :=
  ∀ spec own, .loaded spec own ∈ l → spec.name ≠ name

theorem lastOverrides_snoc (l : List BuilderStep) {step : BuilderStep}
    (h : ∀ overrides, step ≠ .replaced overrides) :
    lastOverrides (l ++ [step]) = ((lastOverrides l).1, (lastOverrides l).2 ++ [step]) := by
  rw [lastOverrides, List.foldl_append]
  cases step with
  | replaced overrides => exact absurd rfl (h overrides)
  | _ => rfl

theorem entryAt_none {name : String} {l : List BuilderStep} (hname : Unshared name l)
    (hnone : ∀ overrides, .replaced overrides ∈ l → overrides name = none) :
    entryAt l name = none ∧ (lastOverrides l).1 name = none := by
  induction l using List.reverseRecOn with
  | nil => exact ⟨rfl, rfl⟩
  | append_singleton l step ih =>
    have hold := ih (fun spec own hmem => hname spec own (List.mem_append_left _ hmem))
      fun overrides hmem => hnone overrides (List.mem_append_left _ hmem)
    cases step with
    | replaced overrides =>
      have := hnone overrides (List.mem_append_right _ List.mem_cons_self)
      rw [entryAt_replaced, lastOverrides, List.foldl_append]
      exact ⟨this, this⟩
    | registered provider =>
      rw [entryAt_registered, lastOverrides_snoc l (by simp)]
      exact hold
    | loaded spec own =>
      have hne := hname spec own (List.mem_append_right _ List.mem_cons_self)
      rw [entryAt_loaded, lastOverrides_snoc l (by simp), Overrides.orInsert, if_neg hne.symm]
      exact hold

/-- The entry of `name` is that of the last `with_overrides` map, or `own` where
that map has none. -/
def MapElseOwn (l : List BuilderStep) (name : String) (own : Option ProviderOverrides) : Prop :=
  entryAt l name = (lastOverrides l).1 name ∨
    (lastOverrides l).1 name = none ∧ entryAt l name = own

/-- After a provider with a name of its own is loaded, its entry is its own
annotations until a `with_overrides` map takes the place of all entries. -/
theorem entryAt_unshared {before after : List BuilderStep} {spec : EventProviderSpec}
    {own : Option ProviderOverrides} (hname : Unshared spec.name (before ++ after))
    (hnone : ∀ overrides, .replaced overrides ∈ before → overrides spec.name = none) :
    MapElseOwn (before ++ .loaded spec own :: after) spec.name own := by
  have hbefore := entryAt_none (fun spec own hmem => hname spec own (List.mem_append_left _ hmem))
    hnone
  induction after using List.reverseRecOn with
  | nil =>
    refine .inr ?_
    rw [entryAt_loaded, lastOverrides_snoc before (by simp), Overrides.orInsert, if_pos rfl,
      hbefore.1]
    exact ⟨hbefore.2, rfl⟩
  | append_singleton after step ih =>
    have hold := ih fun spec own hmem => hname spec own (by
      rw [← List.append_assoc]
      exact List.mem_append_left _ hmem)
    rw [← List.cons_append, ← List.append_assoc]
    unfold MapElseOwn at hold ⊢
    cases step with
    | replaced overrides =>
      refine .inl ?_
      rw [entryAt_replaced, lastOverrides, List.foldl_append]
      rfl
    | registered provider =>
      rw [entryAt_registered, lastOverrides_snoc _ (by simp)]
      exact hold
    | loaded spec' own' =>
      have hne := hname spec' own' (by simp)
      rw [entryAt_loaded, lastOverrides_snoc _ (by simp), Overrides.orInsert, if_neg hne.symm]
      exact hold

/-- The settings of every non-bridge provider a pack registers, for any calls on
the builder. -/
theorem build_settings {loader : PackLoader} {cs : List BuilderCall} {b : EventBusBuilder}
    (hb : EventBusBuilder.calls loader cs = .ok b) {before after : List BuilderStep}
    {spec : EventProviderSpec} {own : Option ProviderOverrides}
    (hsteps : steps loader cs = before ++ .loaded spec own :: after) (hkind : spec.kind ≠ .bridge) :
    ∃ reg, b.build.providers[before.countP addsProvider]? = some reg ∧
      reg.descriptor = descriptorFromSpec spec ∧
      HasSettings reg (entryAt (steps loader cs) spec.name)
        (entryAt (before ++ [.loaded spec own]) spec.name) ∧
      (Unshared spec.name (before ++ after) →
        (∀ overrides, .replaced overrides ∈ before → overrides spec.name = none) →
        HasSettings reg ((lastOverrides (steps loader cs)).1 spec.name) own) := by
  have hf := Follows.new.calls hb
  rw [List.nil_append] at hf
  obtain ⟨provider, hat, has⟩ := hf.loaded before _ after hsteps spec own rfl hkind
  have hreg : (EventBusBuilder.override b.overrides provider).descriptor = descriptorFromSpec spec ∧
      HasSettings (EventBusBuilder.override b.overrides provider) (b.overrides spec.name) _ :=
    override_registration has
  rw [hf.overrides] at hreg
  refine ⟨EventBusBuilder.override b.overrides provider, ?_, ?_⟩
  · rw [EventBusBuilder.build, List.getElem?_map, hat]
    rfl
  · rw [hf.overrides]
    refine ⟨hreg.1, hreg.2, fun hname hnone => ?_⟩
    -- no earlier step has an entry for the name, so loading puts its own there
    have hload : entryAt (before ++ [.loaded spec own]) spec.name = own := by
      have hbefore := entryAt_none (fun s o hmem => hname s o (List.mem_append_left _ hmem)) hnone
      rw [entryAt_loaded, Overrides.orInsert, if_pos rfl, hbefore.1, Option.none_or]
    rw [hload] at hreg
    have hentry : MapElseOwn (before ++ .loaded spec own :: after) spec.name own :=
      entryAt_unshared hname hnone
    rw [← hsteps] at hentry
    rcases hentry with hmap | ⟨hnomap, hown⟩
    · rw [← hmap]
      exact hreg.2
    · rw [hnomap]
      simpa [HasSettings, effective, hown] using hreg.2

def mailSpec : EventProviderSpec where
  name := "mail"
  kind := .broker
  component := "mail@1.0.0"
  defaultFlow := none
  customFlow := none
  capabilities := ⟨none, none, none, ["mail.*"]⟩

def mailPack : PackSpec where
  packVersion := 1
  id := "mail-pack"
  version := "1.0.0"
  annotations :=
    BTreeMap.empty.insert "events.providers.mail.retry.max_retries" (.number (.posInt 7))
  events := some ⟨[mailSpec]⟩

def mailLoader : PackLoader := ⟨fun _ => .ok mailPack, fun _ => .ok ()⟩

def mailOverrides : Overrides :=
  fun name => if name = "mail" then some ⟨none, some "mail.dlq"⟩ else none

def loadMail : BuilderCall := .registerFromPackDir "packs/mail" (fun _ => .ok 0) none

def mailOwn : Option ProviderOverrides :=
  some ⟨some { RetryPolicy.default with maxRetries := 7 }, none⟩

theorem build_settings_mail : ∃ b reg,
    EventBusBuilder.calls mailLoader [loadMail, .withOverrides mailOverrides] = .ok b ∧
      b.build.providers[0]? = some reg ∧ HasSettings reg (mailOverrides "mail") mailOwn := by
  obtain ⟨b, hb⟩ : ∃ b,
      EventBusBuilder.calls mailLoader [loadMail, .withOverrides mailOverrides] = .ok b := ⟨_, rfl⟩
  have hsteps : steps mailLoader [loadMail, .withOverrides mailOverrides] =
      [] ++ .loaded mailSpec mailOwn :: [.replaced mailOverrides] := rfl
  obtain ⟨reg, hat, _, _, hsettings⟩ := build_settings hb hsteps (by decide)
  refine ⟨b, reg, hb, hat, hsettings ?_ ?_⟩
  · intro spec own hmem
    simp at hmem
  · intro overrides hmem
    simp at hmem

/-- Each setting is the one in the `with_overrides` map if that sets it, else the
one in the pack's annotations, else the default. -/
def SettingsByPrecedence (loader : PackLoader) (cs : List BuilderCall) (b : EventBusBuilder) :
    Prop :=
  ∀ before spec own after reg, steps loader cs = before ++ .loaded spec own :: after →
    spec.kind ≠ .bridge → b.build.providers[before.countP addsProvider]? = some reg →
    HasSettings reg ((lastOverrides (steps loader cs)).1 spec.name) own

/-- An entry that sets only the dead-letter topic, given before the pack is
loaded, also hides the pack's retry settings. -/
theorem overrides_hide_annotations :
    ¬ ∀ loader cs b, EventBusBuilder.calls loader cs = .ok b →
      SettingsByPrecedence loader cs b := by
  intro h
  obtain ⟨b, reg, hb, hat, hretry⟩ : ∃ b reg,
      EventBusBuilder.calls mailLoader [.withOverrides mailOverrides, loadMail] = .ok b ∧
        b.build.providers[0]? = some reg ∧ reg.retry.maxRetries = 3 :=
    ⟨_, _, rfl, rfl, rfl⟩
  have hsteps : steps mailLoader [.withOverrides mailOverrides, loadMail] =
      [.replaced mailOverrides] ++ .loaded mailSpec mailOwn :: [] := rfl
  have hsettings := h _ _ b hb _ mailSpec mailOwn [] reg hsteps (by decide) hat
  rw [hsettings.2] at hretry
  exact absurd hretry (by decide)

end GreenticEvents
