import GreenticEvents.Bridges
import GreenticEvents.Builder

/-!
# A bus with its bridges (`EventBusBuilder` in `bus.rs`, the adapters in `runner.rs`)

Each call registers providers and bridges; under a name the last bridge counts.
-/

namespace GreenticEvents
open Data Effects Prog

/-- `dyn BridgeFactory`, with the bridges that it builds. -/
structure BridgeMaker (I : Interface) (ReplyScope : Type) where
  buildMessageToEvent : String → Except String (MessageToEventBridge I ReplyScope)
  buildEventToMessage : String → Except String (EventToMessageBridge I ReplyScope)

def BridgeMaker.outcome {I : Interface} {ReplyScope : Type} (maker : BridgeMaker I ReplyScope) :
    BridgeFactory where
  buildMessageToEvent name := (maker.buildMessageToEvent name).map fun _ => ()
  buildEventToMessage name := (maker.buildEventToMessage name).map fun _ => ()

structure ServiceBuilder (I : Interface) (ReplyScope : Type) where
  bus : EventBusBuilder
  bridges : BridgeRegistry I ReplyScope

inductive ServiceCall (I : Interface) (ReplyScope : Type) where
  | withAcl (rules : List TopicAclRule)
  | withOverrides (overrides : Overrides)
  | registerProvider (provider : ProviderRegistration)
  | registerMessageToEventBridge (name : String) (bridge : MessageToEventBridge I ReplyScope)
  | registerEventToMessageBridge (name : String) (bridge : EventToMessageBridge I ReplyScope)
  | registerFromPackDir (packDir : String) (factory : EventProviderFactory)
      (makers : Option (BridgeMaker I ReplyScope))

variable {I : Interface} {ReplyScope : Type}

namespace ServiceBuilder

def new : ServiceBuilder I ReplyScope := ⟨.new, .new⟩

/-- One pass of the loop over the providers of a pack. -/
def registerSpec (annotations : BTreeMap String Json) (factory : EventProviderFactory)
    (makers : Option (BridgeMaker I ReplyScope)) (b : ServiceBuilder I ReplyScope)
    (spec : EventProviderSpec) : Except String (ServiceBuilder I ReplyScope) :=
  let own := providerOverridesFromAnnotations spec.name annotations
  let bus := { b.bus with overrides := b.bus.overrides.orInsert spec.name own }
  match spec.kind with
  | .bridge =>
    match makers with
    | some maker => do
      let toEvent ← (maker.buildMessageToEvent spec.name).mapError
        fun _ => "build message->event bridge"
      let bridges := b.bridges.registerMessageToEvent spec.name toEvent
      let toMessage ← (maker.buildEventToMessage spec.name).mapError
        fun _ => "build event->message bridge"
      return ⟨bus, bridges.registerEventToMessage spec.name toMessage⟩
    | none => .ok ⟨bus, b.bridges⟩
  | _ => do
    let handle ← factory spec
    let registration := EventBusBuilder.registration bus.overrides spec handle
    return ⟨{ bus with providers := bus.providers ++ [registration] }, b.bridges⟩

def call (loader : PackLoader) (b : ServiceBuilder I ReplyScope) :
    ServiceCall I ReplyScope → Except String (ServiceBuilder I ReplyScope)
  | .withAcl rules => .ok ⟨b.bus.withAcl rules, b.bridges⟩
  | .withOverrides overrides => .ok ⟨b.bus.withOverrides overrides, b.bridges⟩
  | .registerProvider provider => .ok ⟨b.bus.registerProvider provider, b.bridges⟩
  | .registerMessageToEventBridge name bridge =>
    .ok ⟨b.bus, b.bridges.registerMessageToEvent name bridge⟩
  | .registerEventToMessageBridge name bridge =>
    .ok ⟨b.bus, b.bridges.registerEventToMessage name bridge⟩
  | .registerFromPackDir packDir factory makers => do
    let spec ← (loadSpec loader packDir).mapError fun _ => "failed to load pack spec"
    match spec.events with
    | some events => events.providers.foldlM (registerSpec spec.annotations factory makers) b
    | none => return b

def calls (loader : PackLoader) (cs : List (ServiceCall I ReplyScope)) :
    Except String (ServiceBuilder I ReplyScope) :=
  cs.foldlM (call loader) new

/-- What `EventBus::bridges` returns after `build`. -/
def service (b : ServiceBuilder I ReplyScope) : BridgeService I ReplyScope := ⟨b.bridges⟩

end ServiceBuilder

/-- The call as the builder without bridges sees it. -/
def ServiceCall.onBus : ServiceCall I ReplyScope → Option BuilderCall
  | .withAcl rules => some (.withAcl rules)
  | .withOverrides overrides => some (.withOverrides overrides)
  | .registerProvider provider => some (.registerProvider provider)
  | .registerMessageToEventBridge _ _ => none
  | .registerEventToMessageBridge _ _ => none
  | .registerFromPackDir packDir factory makers =>
    some (.registerFromPackDir packDir factory (makers.map BridgeMaker.outcome))

namespace ServiceBuilder

theorem map_foldlM {α σ τ : Type} {f : σ → α → Except String σ} {g : τ → α → Except String τ}
    {view : σ → τ} (step : ∀ s a, (f s a).map view = g (view s) a) (l : List α) (s : σ) :
    (l.foldlM f s).map view = l.foldlM g (view s) := by
  induction l generalizing s with
  | nil => rfl
  | cons a l ih =>
    rw [List.foldlM_cons, List.foldlM_cons, ← step]
    cases f s a with
    | error err => rfl
    | ok s' => exact ih s'

theorem map_registerSpec (annotations : BTreeMap String Json) (factory : EventProviderFactory)
    (makers : Option (BridgeMaker I ReplyScope)) (b : ServiceBuilder I ReplyScope)
    (spec : EventProviderSpec) : (registerSpec annotations factory makers b spec).map bus =
      EventBusBuilder.registerSpec annotations factory (makers.map BridgeMaker.outcome) b.bus
        spec := by
  unfold registerSpec EventBusBuilder.registerSpec
  cases spec.kind with
  | bridge =>
    cases makers with
    | none => rfl
    | some maker =>
      simp only [Option.map_some, BridgeMaker.outcome]
      cases maker.buildMessageToEvent spec.name with
      | error err => rfl
      | ok toEvent =>
        cases maker.buildEventToMessage spec.name with
        | error err => rfl
        | ok toMessage => rfl
  | _ => cases factory spec <;> rfl

theorem map_call (loader : PackLoader) (b : ServiceBuilder I ReplyScope)
    (c : ServiceCall I ReplyScope) :
    (call loader b c).map bus = c.onBus.elim (.ok b.bus) (b.bus.call loader) := by
  cases c with
  | registerFromPackDir packDir factory makers =>
    simp only [call, ServiceCall.onBus, Option.elim_some, EventBusBuilder.call,
      EventBusBuilder.registerFromPackDir]
    cases loadSpec loader packDir with
    | error err => rfl
    | ok spec =>
      change Except.map bus (match spec.events with
        | some events => events.providers.foldlM (registerSpec spec.annotations factory makers) b
        | none => .ok b) = (match spec.events with
        | some events => events.providers.foldlM (EventBusBuilder.registerSpec spec.annotations
            factory (makers.map BridgeMaker.outcome)) b.bus
        | none => .ok b.bus)
      cases spec.events with
      | none => rfl
      | some events =>
        exact map_foldlM (map_registerSpec spec.annotations factory makers) events.providers b
  | _ => rfl

/-- Bridges change nothing of a bus but its bridges. -/
theorem map_calls (loader : PackLoader) (cs : List (ServiceCall I ReplyScope)) :
    (calls loader cs).map bus = EventBusBuilder.calls loader (cs.filterMap ServiceCall.onBus) := by
  have hfrom (b : ServiceBuilder I ReplyScope) : (cs.foldlM (call loader) b).map bus =
      (cs.filterMap ServiceCall.onBus).foldlM (EventBusBuilder.call loader) b.bus := by
    -- on the calls: one that the bus does not see leaves its part of the builder as it is
    induction cs generalizing b with
    | nil => rfl
    | cons c cs ih =>
      have hstep := map_call loader b c
      rw [List.foldlM_cons]
      cases hbus : c.onBus with
      | none =>
        rw [hbus, Option.elim_none] at hstep
        rw [List.filterMap_cons_none hbus]
        cases hb : call loader b c with
        | error err =>
          rw [hb] at hstep
          cases hstep
        | ok b' =>
          rw [hb] at hstep
          rw [← Except.ok.inj hstep]
          exact ih b'
      | some busCall =>
        rw [hbus, Option.elim_some] at hstep
        rw [List.filterMap_cons_some hbus, List.foldlM_cons, ← hstep]
        cases call loader b c with
        | error err => rfl
        | ok b' => exact ih b'
  exact hfrom new

end ServiceBuilder

inductive Registered (I : Interface) (ReplyScope : Type) where
  | rules (acl : List TopicAclRule)
  | provider (name : String) (topics : List String) (handle : ProviderInstance)
  | messageToEvent (name : String) (bridge : MessageToEventBridge I ReplyScope)
  | eventToMessage (name : String) (bridge : EventToMessageBridge I ReplyScope)

namespace Registered

def rules? : Registered I ReplyScope → Option (List TopicAclRule)
  | rules acl => some acl
  | _ => none

def provider? : Registered I ReplyScope → Option (String × List String × ProviderInstance)
  | provider name topics handle => some (name, topics, handle)
  | _ => none

def messageToEvent? : Registered I ReplyScope →
    Option (String × MessageToEventBridge I ReplyScope)
  | messageToEvent name bridge => some (name, bridge)
  | _ => none

def eventToMessage? : Registered I ReplyScope →
    Option (String × EventToMessageBridge I ReplyScope)
  | eventToMessage name bridge => some (name, bridge)
  | _ => none

end Registered

/-- What a provider of a pack registers if it loads: a bridge two bridges, any other itself. -/
def specRegistered (factory : EventProviderFactory) (makers : Option (BridgeMaker I ReplyScope))
    (spec : EventProviderSpec) : List (Registered I ReplyScope) :=
  match spec.kind with
  | .bridge =>
    match makers with
    | none => []
    | some maker =>
      match maker.buildMessageToEvent spec.name, maker.buildEventToMessage spec.name with
      | .ok toEvent, .ok toMessage =>
        [.messageToEvent spec.name toEvent, .eventToMessage spec.name toMessage]
      | _, _ => []
  | _ =>
    match factory spec with
    | .error _ => []
    | .ok handle => [.provider spec.name spec.capabilities.topics handle]

def packProviders (loader : PackLoader) (packDir : String) : List EventProviderSpec :=
  match loadSpec loader packDir with
  | .error _ => []
  | .ok spec => (spec.events.map EventsSection.providers).getD []

def ServiceCall.registered (loader : PackLoader) :
    ServiceCall I ReplyScope → List (Registered I ReplyScope)
  | .withAcl rules => [.rules rules]
  | .withOverrides _ => []
  | .registerProvider provider =>
    [.provider provider.descriptor.name provider.topics provider.handle]
  | .registerMessageToEventBridge name bridge => [.messageToEvent name bridge]
  | .registerEventToMessageBridge name bridge => [.eventToMessage name bridge]
  | .registerFromPackDir packDir factory makers =>
    (packProviders loader packDir).flatMap (specRegistered factory makers)

def lastNamed {α : Type} (name : String) (l : List (String × α)) : Option α :=
  l.reverse.lookup name

def ProviderRegistration.routed (reg : ProviderRegistration) :
    String × List String × ProviderInstance :=
  (reg.descriptor.name, reg.topics, reg.handle)

/-- The rules and providers of `l` take `b` to `b'`. -/
structure BusRegisters (b : EventBusBuilder) (l : List (Registered I ReplyScope))
    (b' : EventBusBuilder) : Prop where
  acl : b'.acl = { b.acl with rules := (l.filterMap Registered.rules?).getLast?.getD b.acl.rules }
  providers : b'.providers.map ProviderRegistration.routed =
    b.providers.map ProviderRegistration.routed ++ l.filterMap Registered.provider?

/-- The bridges of `l` take `r` to `r'`. -/
structure BridgesRegister (r : BridgeRegistry I ReplyScope) (l : List (Registered I ReplyScope))
    (r' : BridgeRegistry I ReplyScope) : Prop where
  messageToEvent : ∀ name, r'.messageToEvent name =
    (lastNamed name (l.filterMap Registered.messageToEvent?)).or (r.messageToEvent name)
  eventToMessage : ∀ name, r'.eventToMessage name =
    (lastNamed name (l.filterMap Registered.eventToMessage?)).or (r.eventToMessage name)

/-- What each step of a loop adds, the loop adds. -/
theorem foldlM_adds {σ α β : Type} {f : σ → α → Except String σ} {R : σ → List β → σ → Prop}
    (refl : ∀ s, R s [] s) (trans : ∀ s s' s'' l l', R s l s' → R s' l' s'' → R s (l ++ l') s'')
    {added : α → List β} (step : ∀ s a s', f s a = .ok s' → R s (added a) s') {l : List α}
    {s s' : σ} (hs : l.foldlM f s = .ok s') : R s (l.flatMap added) s' := by
  induction l generalizing s with
  | nil =>
    obtain rfl := Except.ok.inj hs
    exact refl s
  | cons a l ih =>
    rw [List.foldlM_cons] at hs
    obtain ⟨s₁, hfirst, hrest⟩ := except_bind_ok.mp hs
    exact trans _ _ _ _ _ (step s a s₁ hfirst) (ih hrest)

theorem BusRegisters.refl (b : EventBusBuilder) :
    BusRegisters b ([] : List (Registered I ReplyScope)) b :=
  ⟨rfl, (List.append_nil _).symm⟩

theorem BusRegisters.trans {b b' b'' : EventBusBuilder} {l l' : List (Registered I ReplyScope)}
    (h : BusRegisters b l b') (h' : BusRegisters b' l' b'') : BusRegisters b (l ++ l') b'' where
  acl := by
    rw [h'.acl, h.acl, List.filterMap_append, List.getLast?_append]
    cases (l'.filterMap Registered.rules?).getLast? <;> rfl
  providers := by rw [h'.providers, h.providers, List.filterMap_append, List.append_assoc]

/-- A pack's bridge registers no rules and no provider. -/
theorem specRegistered_bridge (factory : EventProviderFactory)
    (makers : Option (BridgeMaker I ReplyScope)) {spec : EventProviderSpec}
    (hkind : spec.kind = .bridge) :
    (specRegistered factory makers spec).filterMap Registered.rules? = [] ∧
      (specRegistered factory makers spec).filterMap Registered.provider? = [] := by
  simp only [specRegistered, hkind]
  cases makers with
  | none => exact ⟨rfl, rfl⟩
  | some maker =>
    dsimp only
    cases maker.buildMessageToEvent spec.name with
    | error err => exact ⟨rfl, rfl⟩
    | ok toEvent => cases maker.buildEventToMessage spec.name <;> exact ⟨rfl, rfl⟩

theorem registerSpec_registers {annotations : BTreeMap String Json}
    {factory : EventProviderFactory} {makers : Option (BridgeMaker I ReplyScope)}
    {b b' : EventBusBuilder} {spec : EventProviderSpec}
    (hb : EventBusBuilder.registerSpec annotations factory (makers.map BridgeMaker.outcome) b
      spec = .ok b') : BusRegisters b (specRegistered factory makers spec) b' := by
  unfold EventBusBuilder.registerSpec at hb
  cases hkind : spec.kind with
  | bridge =>
    obtain ⟨hrules, hproviders⟩ := specRegistered_bridge factory makers hkind
    rw [hkind] at hb
    have hsame : b'.acl = b.acl ∧ b'.providers = b.providers := by
      cases makers with
      | none =>
        obtain rfl := Except.ok.inj hb
        exact ⟨rfl, rfl⟩
      | some maker =>
        obtain ⟨_, -, hb⟩ := except_bind_ok.mp hb
        obtain ⟨_, -, hb⟩ := except_bind_ok.mp hb
        obtain rfl := Except.ok.inj hb
        exact ⟨rfl, rfl⟩
    constructor
    · rw [hsame.1, hrules]
      rfl
    · rw [hsame.2, hproviders, List.append_nil]
  | _ =>
    rw [hkind] at hb
    obtain ⟨handle, hhandle, hb⟩ := except_bind_ok.mp hb
    obtain rfl := Except.ok.inj hb
    simp only [specRegistered, hkind, hhandle]
    exact ⟨rfl, List.map_append⟩

/-- A call that the bus sees, and what it registers there. -/
theorem busCall_registers {loader : PackLoader} {b b' : EventBusBuilder}
    {c : ServiceCall I ReplyScope} {busCall : BuilderCall} (hc : c.onBus = some busCall)
    (hb : b.call loader busCall = .ok b') : BusRegisters b (c.registered loader) b' := by
  cases c with
  | withAcl rules =>
    cases hc
    obtain rfl := Except.ok.inj hb
    exact ⟨rfl, (List.append_nil _).symm⟩
  | withOverrides overrides =>
    cases hc
    obtain rfl := Except.ok.inj hb
    exact ⟨rfl, (List.append_nil _).symm⟩
  | registerProvider provider =>
    cases hc
    obtain rfl := Except.ok.inj hb
    exact ⟨rfl, List.map_append⟩
  | registerMessageToEventBridge name bridge => cases hc
  | registerEventToMessageBridge name bridge => cases hc
  | registerFromPackDir packDir factory makers =>
    cases hc
    obtain ⟨spec, hload, hb⟩ := except_bind_ok.mp hb
    rw [ServiceCall.registered, packProviders, mapError_ok.mp hload]
    change BusRegisters b (((spec.events.map EventsSection.providers).getD []).flatMap _) b'
    cases hevents : spec.events with
    | none =>
      rw [hevents] at hb
      obtain rfl := Except.ok.inj hb
      exact .refl b
    | some events =>
      rw [hevents] at hb
      exact foldlM_adds (R := BusRegisters) .refl (fun _ _ _ _ _ => .trans)
        (fun _ _ _ => registerSpec_registers) hb

theorem busCalls_register {loader : PackLoader} {cs : List (ServiceCall I ReplyScope)}
    {b b' : EventBusBuilder}
    (hb : (cs.filterMap ServiceCall.onBus).foldlM (EventBusBuilder.call loader) b = .ok b') :
    BusRegisters b (cs.flatMap (ServiceCall.registered loader)) b' := by
  induction cs generalizing b with
  | nil =>
    obtain rfl := Except.ok.inj hb
    exact .refl b
  | cons c cs ih =>
    cases hc : c.onBus with
    | none =>
      rw [List.filterMap_cons_none hc] at hb
      have hnone : BusRegisters b (c.registered loader) b := by
        cases c with
        | registerMessageToEventBridge name bridge => exact ⟨rfl, (List.append_nil _).symm⟩
        | registerEventToMessageBridge name bridge => exact ⟨rfl, (List.append_nil _).symm⟩
        | _ => cases hc
      exact hnone.trans (ih hb)
    | some busCall =>
      rw [List.filterMap_cons_some hc, List.foldlM_cons] at hb
      obtain ⟨b₁, hfirst, hrest⟩ := except_bind_ok.mp hb
      exact (busCall_registers hc hfirst).trans (ih hrest)

theorem lastNamed_append {α : Type} (name : String) (l l' : List (String × α)) :
    lastNamed name (l ++ l') = (lastNamed name l').or (lastNamed name l) := by
  rw [lastNamed, List.reverse_append, List.lookup_append]
  rfl

@[simp] theorem lastNamed_nil {α : Type} (name : String) :
    lastNamed name ([] : List (String × α)) = none := rfl

theorem lastNamed_singleton {α : Type} (name key : String) (a : α) :
    lastNamed name [(key, a)] = if name = key then some a else none := by
  by_cases h : name = key
  · simp [lastNamed, h]
  · have hb : (name == key) = false := beq_false_of_ne h
    simp [lastNamed, List.lookup_cons, hb, h]

/-- A bridge put under a name is the last one there. -/
theorem update_lastNamed {α : Type} (f : String → Option α) (name other : String) (a : α) :
    Function.update f name (some a) other = (lastNamed other [(name, a)]).or (f other) := by
  rw [lastNamed_singleton]
  by_cases h : other = name
  · simp [h]
  · simp [h]

theorem BridgesRegister.refl (r : BridgeRegistry I ReplyScope) : BridgesRegister r [] r :=
  ⟨fun _ => rfl, fun _ => rfl⟩

theorem BridgesRegister.trans {r r' r'' : BridgeRegistry I ReplyScope}
    {l l' : List (Registered I ReplyScope)} (h : BridgesRegister r l r')
    (h' : BridgesRegister r' l' r'') : BridgesRegister r (l ++ l') r'' where
  messageToEvent name := by
    rw [h'.messageToEvent, h.messageToEvent, List.filterMap_append, lastNamed_append,
      Option.or_assoc]
  eventToMessage name := by
    rw [h'.eventToMessage, h.eventToMessage, List.filterMap_append, lastNamed_append,
      Option.or_assoc]

section Bridges

variable (r : BridgeRegistry I ReplyScope) (name : String)

theorem registers_messageToEvent (bridge : MessageToEventBridge I ReplyScope) :
    BridgesRegister r [.messageToEvent name bridge] (r.registerMessageToEvent name bridge) :=
  ⟨fun other => update_lastNamed r.messageToEvent name other bridge, fun _ => rfl⟩

theorem registers_eventToMessage (bridge : EventToMessageBridge I ReplyScope) :
    BridgesRegister r [.eventToMessage name bridge] (r.registerEventToMessage name bridge) :=
  ⟨fun _ => rfl, fun other => update_lastNamed r.eventToMessage name other bridge⟩

end Bridges

theorem registerSpec_bridges {annotations : BTreeMap String Json}
    {factory : EventProviderFactory} {makers : Option (BridgeMaker I ReplyScope)}
    {b b' : ServiceBuilder I ReplyScope} {spec : EventProviderSpec}
    (hb : ServiceBuilder.registerSpec annotations factory makers b spec = .ok b') :
    BridgesRegister b.bridges (specRegistered factory makers spec) b'.bridges := by
  unfold ServiceBuilder.registerSpec at hb
  unfold specRegistered
  cases hkind : spec.kind with
  | bridge =>
    rw [hkind] at hb
    cases makers with
    | none =>
      obtain rfl := Except.ok.inj hb
      exact .refl _
    | some maker =>
      obtain ⟨toEvent, hevent, hb⟩ := except_bind_ok.mp hb
      obtain ⟨toMessage, hmessage, hb⟩ := except_bind_ok.mp hb
      obtain rfl := Except.ok.inj hb
      simp only [mapError_ok.mp hevent, mapError_ok.mp hmessage]
      exact (registers_messageToEvent b.bridges spec.name toEvent).trans
        (registers_eventToMessage _ spec.name toMessage)
  | _ =>
    rw [hkind] at hb
    obtain ⟨handle, hhandle, hb⟩ := except_bind_ok.mp hb
    obtain rfl := Except.ok.inj hb
    simp only [hhandle]
    exact ⟨fun _ => rfl, fun _ => rfl⟩

theorem call_bridges {loader : PackLoader} {b b' : ServiceBuilder I ReplyScope}
    {c : ServiceCall I ReplyScope} (hb : ServiceBuilder.call loader b c = .ok b') :
    BridgesRegister b.bridges (c.registered loader) b'.bridges := by
  cases c with
  | registerMessageToEventBridge name bridge =>
    obtain rfl := Except.ok.inj hb
    exact registers_messageToEvent b.bridges name bridge
  | registerEventToMessageBridge name bridge =>
    obtain rfl := Except.ok.inj hb
    exact registers_eventToMessage b.bridges name bridge
  | registerFromPackDir packDir factory makers =>
    obtain ⟨spec, hload, hb⟩ := except_bind_ok.mp hb
    rw [ServiceCall.registered, packProviders, mapError_ok.mp hload]
    change BridgesRegister b.bridges
      (((spec.events.map EventsSection.providers).getD []).flatMap _) b'.bridges
    cases hevents : spec.events with
    | none =>
      rw [hevents] at hb
      obtain rfl := Except.ok.inj hb
      exact .refl _
    | some events =>
      rw [hevents] at hb
      exact foldlM_adds (R := fun b l b' => BridgesRegister b.bridges l b'.bridges)
        (fun _ => .refl _) (fun _ _ _ _ _ => .trans) (fun _ _ _ => registerSpec_bridges) hb
  | _ =>
    obtain rfl := Except.ok.inj hb
    exact ⟨fun _ => rfl, fun _ => rfl⟩

section Built

variable {loader : PackLoader} {cs : List (ServiceCall I ReplyScope)}
  {b : ServiceBuilder I ReplyScope}

theorem calls_bridges (hb : ServiceBuilder.calls loader cs = .ok b) :
    BridgesRegister .new (cs.flatMap (ServiceCall.registered loader)) b.bridges :=
  foldlM_adds (R := fun b l b' => BridgesRegister b.bridges l b'.bridges) (fun _ => .refl _)
    (fun _ _ _ _ _ => .trans) (fun _ _ _ => call_bridges) hb

theorem handleMessage_registered (hb : ServiceBuilder.calls loader cs = .ok b) (name : String)
    (message : ChannelMessageEnvelope ReplyScope) :
    b.service.handleMessage name message = callBridge name (lastNamed name
      ((cs.flatMap (ServiceCall.registered loader)).filterMap Registered.messageToEvent?))
        message := by
  have hbridge := (calls_bridges hb).messageToEvent name
  rw [BridgeService.handleMessage]
  exact congrArg (callBridge name · message) (hbridge.trans (Option.or_none ..))

theorem handleEvent_registered (hb : ServiceBuilder.calls loader cs = .ok b) (name : String)
    (event : EventEnvelope) :
    b.service.handleEvent name event = callBridge name (lastNamed name
      ((cs.flatMap (ServiceCall.registered loader)).filterMap Registered.eventToMessage?))
        event := by
  have hbridge := (calls_bridges hb).eventToMessage name
  rw [BridgeService.handleEvent]
  exact congrArg (callBridge name · event) (hbridge.trans (Option.or_none ..))

theorem routed_override (overrides : Overrides) (reg : ProviderRegistration) :
    (EventBusBuilder.override overrides reg).routed = reg.routed := by
  unfold EventBusBuilder.override
  cases overrides reg.descriptor.name <;> rfl

/-- Which providers and which bridges a built bus has: the providers that were registered, one for
each provider of a pack that is not a bridge, in order; under each name the bridge registered last;
the rules given last, with everything allowed that no rule matches. -/
theorem built_service (hb : ServiceBuilder.calls loader cs = .ok b) :
    let registered := cs.flatMap (ServiceCall.registered loader)
    b.bus.build.providers.map ProviderRegistration.routed =
      registered.filterMap Registered.provider? ∧
    b.bus.build.acl = ⟨(registered.filterMap Registered.rules?).getLast?.getD [], true⟩ ∧
    (∀ name message, b.service.handleMessage name message =
      callBridge name (lastNamed name (registered.filterMap Registered.messageToEvent?)) message) ∧
    ∀ name event, b.service.handleEvent name event =
      callBridge name (lastNamed name (registered.filterMap Registered.eventToMessage?)) event := by
  -- the bus is the one that `EventBusBuilder` makes of the same calls
  have hbus : EventBusBuilder.calls loader (cs.filterMap ServiceCall.onBus) = .ok b.bus := by
    rw [← ServiceBuilder.map_calls, hb]
    rfl
  have hr := busCalls_register hbus
  have hbuilt : b.bus.build.providers.map ProviderRegistration.routed =
      b.bus.providers.map ProviderRegistration.routed := by
    rw [EventBusBuilder.build, List.map_map]
    exact List.map_congr_left fun reg _ => routed_override b.bus.overrides reg
  exact ⟨hbuilt.trans hr.providers, hr.acl, handleMessage_registered hb, handleEvent_registered hb⟩

end Built

def mailroomSpec : EventProviderSpec where
  name := "mailroom"
  kind := .broker
  component := "mailroom@1.0.0"
  defaultFlow := none
  customFlow := none
  capabilities := ⟨none, none, none, ["mail.*"]⟩

def chatSpec : EventProviderSpec where
  name := "chat"
  kind := .bridge
  component := "chat@1.0.0"
  defaultFlow := none
  customFlow := none
  capabilities := ⟨none, none, none, []⟩

def chatLoader : PackLoader where
  read _ := .ok ⟨1, "chat-pack", "1.0.0", .empty, some ⟨[mailroomSpec, chatSpec]⟩⟩
  validate _ := .ok ()

/-- Bridges that take everything and answer nothing. -/
def silentMaker : BridgeMaker I ReplyScope where
  buildMessageToEvent _ := .ok fun _ => ret (.ok [])
  buildEventToMessage _ := .ok fun _ => ret (.ok [])

/-- The pack, then another bridge under the name of the pack's own. -/
def chatCalls : List (ServiceCall runnerInterface Unit) :=
  [.registerFromPackDir "packs/chat" (fun _ => .ok 0) (some silentMaker),
    .registerMessageToEventBridge "chat" fun _ => ret (.error "away")]

theorem built_service_chat : ∃ b, ServiceBuilder.calls chatLoader chatCalls = .ok b ∧
    b.bus.build.providers.map ProviderRegistration.routed = [("mailroom", ["mail.*"], 0)] ∧
    ∀ message, b.service.handleMessage "chat" message = ret (.error (.bridgeError "away")) := by
  obtain ⟨b, hb⟩ : ∃ b, ServiceBuilder.calls chatLoader chatCalls = .ok b := ⟨_, rfl⟩
  obtain ⟨hproviders, -, hmessages, -⟩ := built_service hb
  exact ⟨b, hb, hproviders, fun message => hmessages "chat" message⟩

end GreenticEvents
