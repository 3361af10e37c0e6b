import GreenticEvents.BusBridges

/-!
# Bridges hosted by the runner (the bridge adapters in `runner.rs`)
-/

namespace GreenticEvents
open Data Effects Prog

inductive BridgeClientOp where
  | handleMessage (name : String) (message : WitChannelMessageEnvelope)
  | handleEvent (name : String) (event : WitEventEnvelope)

@[reducible] def BridgeClientOp.Ans : BridgeClientOp → Type
  | handleMessage _ _ => Except String (List WitEventEnvelope)
  | handleEvent _ _ => Except String (List WitChannelMessageEnvelope)

abbrev bridgeInterface : Interface := ⟨BridgeClientOp, BridgeClientOp.Ans⟩

variable {ReplyScope : Type}

structure RunnerMessageToEventBridgeAdapter where
  name : String

/-- The first event that does not parse fails the call. -/
def RunnerMessageToEventBridgeAdapter.handleMessage (codec : WitCodec)
    (adapter : RunnerMessageToEventBridgeAdapter) :
    MessageToEventBridge bridgeInterface ReplyScope := fun message => do
  match ← Prog.perform (I := bridgeInterface)
    (.handleMessage adapter.name (toWitMessage message)) with
  | .error err => return .error err
  | .ok events => return events.mapM (fromWitEvent codec)

structure RunnerEventToMessageBridgeAdapter where
  name : String

def RunnerEventToMessageBridgeAdapter.handleEvent (printer : WitPrinter)
    (adapter : RunnerEventToMessageBridgeAdapter) :
    EventToMessageBridge bridgeInterface ReplyScope := fun event =>
  match toWitEvent printer event with
  | .error err => return .error err
  | .ok wit => do
    match ← Prog.perform (I := bridgeInterface) (.handleEvent adapter.name wit) with
    | .error err => return .error err
    | .ok messages => return .ok (messages.map fromWitMessage)

def runnerWitBridgeFactory (codec : WitCodec) (printer : WitPrinter) :
    BridgeMaker bridgeInterface ReplyScope where
  buildMessageToEvent name :=
    .ok ((RunnerMessageToEventBridgeAdapter.mk name).handleMessage codec)
  buildEventToMessage name :=
    .ok ((RunnerEventToMessageBridgeAdapter.mk name).handleEvent printer)

section Calls

variable (codec : WitCodec) (printer : WitPrinter) (name : String)

/-- What a message handler makes of the client's answer. -/
def decodedEvents (answer : Except String (List WitEventEnvelope)) : Result (List EventEnvelope) :=
  (answer >>= List.mapM (fromWitEvent codec)).mapError .bridgeError

def decodedMessages (answer : Except String (List WitChannelMessageEnvelope)) :
    Result (List (ChannelMessageEnvelope ReplyScope)) :=
  (answer.map (List.map fromWitMessage)).mapError .bridgeError

theorem callBridge_message (message : ChannelMessageEnvelope ReplyScope) :
    callBridge name (some ((RunnerMessageToEventBridgeAdapter.mk name).handleMessage codec))
      message =
      (ask (BridgeClientOp.handleMessage name (toWitMessage message)) fun answer =>
        ret (decodedEvents codec answer) : Prog bridgeInterface _) := by
  change (ask (BridgeClientOp.handleMessage name (toWitMessage message)) fun answer => _ :
    Prog bridgeInterface _) = _
  congr 1
  funext answer
  cases answer with
  | error err => rfl
  | ok wits =>
    change (ret (wits.mapM (fromWitEvent codec)) >>= _) =
      ret ((wits.mapM (fromWitEvent codec)).mapError EventBusError.bridgeError)
    cases wits.mapM (fromWitEvent codec) with
    | error err => rfl
    | ok events => rfl

theorem callBridge_event {event : EventEnvelope} {wit : WitEventEnvelope}
    (hwit : toWitEvent printer event = .ok wit) :
    callBridge name (some ((RunnerEventToMessageBridgeAdapter.mk name).handleEvent printer))
      event =
      (ask (BridgeClientOp.handleEvent name wit) fun answer =>
        ret (decodedMessages answer) :
          Prog bridgeInterface (Result (List (ChannelMessageEnvelope ReplyScope)))) := by
  rw [callBridge, RunnerEventToMessageBridgeAdapter.handleEvent]
  simp only [hwit]
  change (ask (BridgeClientOp.handleEvent name wit) fun answer => _ :
    Prog bridgeInterface _) = _
  congr 1
  funext answer
  cases answer with
  | error err => rfl
  | ok messages => rfl

theorem callBridge_unprinted {event : EventEnvelope} {err : String}
    (hwit : toWitEvent printer event = .error err) :
    callBridge name (some ((RunnerEventToMessageBridgeAdapter.mk name).handleEvent printer))
      event =
      (ret (.error (.bridgeError err)) :
        Prog bridgeInterface (Result (List (ChannelMessageEnvelope ReplyScope)))) := by
  rw [callBridge, RunnerEventToMessageBridgeAdapter.handleEvent]
  simp only [hwit]
  rfl

end Calls

theorem lastNamed_eq_none {α : Type} {name : String} {l : List (String × α)}
    (h : ∀ entry ∈ l, entry.1 ≠ name) : lastNamed name l = none := by
  apply List.lookup_eq_none_iff.mpr
  intro entry hentry
  exact bne_iff_ne.mpr (h entry (List.mem_reverse.mp hentry)).symm

theorem lastNamed_same {α : Type} {name : String} {a : α} {l : List (String × α)}
    (hmem : (name, a) ∈ l) (hsame : ∀ b, (name, b) ∈ l → b = a) : lastNamed name l = some a := by
  cases hlast : lastNamed name l with
  | none =>
    have hne := List.lookup_eq_none_iff.mp hlast (name, a) (List.mem_reverse.mpr hmem)
    simp at hne
  | some b =>
    obtain ⟨pre, post, hl, -⟩ := List.lookup_eq_some_iff.mp hlast
    have hb : (name, b) ∈ l := List.mem_reverse.mp (by simp [hl])
    rw [hsame b hb]

/-- The name under which a bridge is registered. -/
def Registered.bridge? {I : Interface} : Registered I ReplyScope → Option String
  | messageToEvent name _ => some name
  | eventToMessage name _ => some name
  | _ => none

theorem messageToEvent?_bridge {I : Interface} (r : Registered I ReplyScope)
    (entry : String × MessageToEventBridge I ReplyScope) (h : r.messageToEvent? = some entry) :
    r.bridge? = some entry.1 := by
  cases r with
  | messageToEvent name bridge => exact congrArg (Option.map Prod.fst) h
  | _ => cases h

theorem eventToMessage?_bridge {I : Interface} (r : Registered I ReplyScope)
    (entry : String × EventToMessageBridge I ReplyScope) (h : r.eventToMessage? = some entry) :
    r.bridge? = some entry.1 := by
  cases r with
  | eventToMessage name bridge => exact congrArg (Option.map Prod.fst) h
  | _ => cases h

theorem lastNamed_registered {I : Interface} {α : Type} {name : String} {a : α}
    {f : Registered I ReplyScope → Option (String × α)}
    (hf : ∀ r entry, f r = some entry → r.bridge? = some entry.1)
    {l mid l' : List (Registered I ReplyScope)}
    (hmem : ∃ r ∈ mid, f r = some (name, a))
    (hsame : ∀ r ∈ mid, ∀ b, f r = some (name, b) → b = a)
    (hlater : ∀ r ∈ l', r.bridge? ≠ some name) :
    lastNamed name ((l ++ mid ++ l').filterMap f) = some a := by
  have hmid : lastNamed name (mid.filterMap f) = some a := by
    refine lastNamed_same (List.mem_filterMap.mpr hmem) fun b hb => ?_
    obtain ⟨r, hr, hentry⟩ := List.mem_filterMap.mp hb
    exact hsame r hr b hentry
  have hafter : lastNamed name (l'.filterMap f) = none := by
    apply lastNamed_eq_none
    intro entry hentry hname
    obtain ⟨r, hr, hfr⟩ := List.mem_filterMap.mp hentry
    exact hlater r hr (hname ▸ hf r entry hfr)
  rw [List.filterMap_append, List.filterMap_append, lastNamed_append, lastNamed_append, hafter,
    hmid]
  rfl

variable {codec : WitCodec} {printer : WitPrinter}

def hostedBridges (codec : WitCodec) (printer : WitPrinter) (name : String) :
    List (Registered bridgeInterface ReplyScope) :=
  [.messageToEvent name ((RunnerMessageToEventBridgeAdapter.mk name).handleMessage codec),
    .eventToMessage name ((RunnerEventToMessageBridgeAdapter.mk name).handleEvent printer)]

theorem specRegistered_hosted {factory : EventProviderFactory} {spec : EventProviderSpec}
    {r : Registered bridgeInterface ReplyScope} {name : String}
    (hr : r ∈ specRegistered factory (some (runnerWitBridgeFactory codec printer)) spec)
    (hname : r.bridge? = some name) : r ∈ hostedBridges codec printer name := by
  unfold specRegistered at hr
  cases hkind : spec.kind with
  | bridge =>
    rw [hkind] at hr
    change r ∈ hostedBridges codec printer spec.name at hr
    have hspec : spec.name = name := by
      simp only [hostedBridges, List.mem_cons, List.not_mem_nil, or_false] at hr
      rcases hr with rfl | rfl <;> exact Option.some.inj hname
    rwa [hspec] at hr
  | _ =>
    rw [hkind] at hr
    cases hhandle : factory spec with
    | error err => simp [hhandle] at hr
    | ok handle =>
      simp only [hhandle, List.mem_singleton] at hr
      rw [hr] at hname
      cases hname

theorem hosted_message {name : String}
    {bridge : MessageToEventBridge bridgeInterface ReplyScope}
    {r : Registered bridgeInterface ReplyScope} (hr : r ∈ hostedBridges codec printer name)
    (hbridge : r.messageToEvent? = some (name, bridge)) :
    bridge = (RunnerMessageToEventBridgeAdapter.mk name).handleMessage codec := by
  simp only [hostedBridges, List.mem_cons, List.not_mem_nil, or_false] at hr
  rcases hr with rfl | rfl
  · exact (congrArg Prod.snd (Option.some.inj hbridge)).symm
  · cases hbridge

theorem hosted_event {name : String} {bridge : EventToMessageBridge bridgeInterface ReplyScope}
    {r : Registered bridgeInterface ReplyScope} (hr : r ∈ hostedBridges codec printer name)
    (hbridge : r.eventToMessage? = some (name, bridge)) :
    bridge = (RunnerEventToMessageBridgeAdapter.mk name).handleEvent printer := by
  simp only [hostedBridges, List.mem_cons, List.not_mem_nil, or_false] at hr
  rcases hr with rfl | rfl
  · cases hbridge
  · exact (congrArg Prod.snd (Option.some.inj hbridge)).symm

theorem mapM_fromWitEvent {events : List EventEnvelope} {wits : List WitEventEnvelope}
    (hreads : ∀ event ∈ events, ReadsBackPrinted codec printer event)
    (hwits : events.mapM (toWitEvent printer) = .ok wits) :
    wits.mapM (fromWitEvent codec) = .ok events := by
  induction events generalizing wits with
  | nil =>
    obtain rfl := Except.ok.inj hwits
    rfl
  | cons event events ih =>
    rw [List.mapM_cons] at hwits
    obtain ⟨wit, hwit, hwits⟩ := except_bind_ok.mp hwits
    obtain ⟨rest, hrest, hwits⟩ := except_bind_ok.mp hwits
    obtain rfl := Except.ok.inj hwits
    obtain ⟨wit', hwit', hback⟩ :=
      fromWitEvent_toWitEvent (hreads event List.mem_cons_self)
    obtain rfl := Except.ok.inj (hwit.symm.trans hwit')
    have hevents := ih (fun e he => hreads e (List.mem_cons_of_mem _ he)) hrest
    rw [List.mapM_cons]
    exact except_bind_ok.mpr ⟨event, hback, except_bind_ok.mpr ⟨events, hevents, rfl⟩⟩

theorem map_fromWitMessage (messages : List (ChannelMessageEnvelope ReplyScope)) :
    (messages.map toWitMessage).map fromWitMessage =
      messages.map ChannelMessageEnvelope.carried := by
  rw [List.map_map]
  exact List.map_congr_left fun message _ => fromWitMessage_toWitMessage message

/-- Under the name of a pack's bridge, the pack's own is the last. -/
theorem hosted_last {loader : PackLoader} {packDir : String} {factory : EventProviderFactory}
    {before after : List (ServiceCall bridgeInterface ReplyScope)} {spec : EventProviderSpec}
    (hspec : spec ∈ packProviders loader packDir) (hkind : spec.kind = .bridge)
    (hlater : ∀ r ∈ after.flatMap (ServiceCall.registered loader), r.bridge? ≠ some spec.name) :
    let registered := (before ++ .registerFromPackDir packDir factory
      (some (runnerWitBridgeFactory codec printer)) :: after).flatMap
        (ServiceCall.registered loader)
    lastNamed spec.name (registered.filterMap Registered.messageToEvent?) =
      some ((RunnerMessageToEventBridgeAdapter.mk spec.name).handleMessage codec) ∧
    lastNamed spec.name (registered.filterMap Registered.eventToMessage?) =
      some ((RunnerEventToMessageBridgeAdapter.mk spec.name).handleEvent printer) := by
  intro registered
  have hcalls : registered = before.flatMap (ServiceCall.registered loader) ++
      (packProviders loader packDir).flatMap
        (specRegistered factory (some (runnerWitBridgeFactory codec printer))) ++
      after.flatMap (ServiceCall.registered loader) := by
    rw [List.append_assoc]
    exact List.flatMap_append
  -- of all that is registered under the name the last is of this pack
  have hown : ∀ r : Registered bridgeInterface ReplyScope,
      r ∈ hostedBridges codec printer spec.name → r ∈ (packProviders loader packDir).flatMap
        (specRegistered factory (some (runnerWitBridgeFactory codec printer))) := by
    intro r hr
    refine List.mem_flatMap.mpr ⟨spec, hspec, ?_⟩
    rw [specRegistered, hkind]
    exact hr
  have hsame : ∀ r : Registered bridgeInterface ReplyScope,
      r ∈ (packProviders loader packDir).flatMap
        (specRegistered factory (some (runnerWitBridgeFactory codec printer))) →
      r.bridge? = some spec.name → r ∈ hostedBridges codec printer spec.name := by
    intro r hr hname
    obtain ⟨provider, -, hr⟩ := List.mem_flatMap.mp hr
    exact specRegistered_hosted hr hname
  rw [hcalls]
  constructor
  · refine lastNamed_registered messageToEvent?_bridge
      ⟨_, hown _ List.mem_cons_self, rfl⟩ (fun r hr bridge hbridge => ?_) hlater
    exact hosted_message (hsame r hr (messageToEvent?_bridge r _ hbridge)) hbridge
  · refine lastNamed_registered eventToMessage?_bridge
      ⟨_, hown _ (List.mem_cons_of_mem _ List.mem_cons_self), rfl⟩ (fun r hr bridge hbridge => ?_)
      hlater
    exact hosted_event (hsame r hr (eventToMessage?_bridge r _ hbridge)) hbridge

/-- A bridge that a pack declares, loaded through the runner's factory, when no later call registers
another bridge under its name: a message is given to the client once, and the events returned are
those of the client's answer; an event that can be written likewise.  What the client encodes comes
back decoded. -/
theorem pack_bridges {loader : PackLoader} {packDir : String} {factory : EventProviderFactory}
    {before after : List (ServiceCall bridgeInterface ReplyScope)}
    {b : ServiceBuilder bridgeInterface ReplyScope} {spec : EventProviderSpec}
    (hb : ServiceBuilder.calls loader (before ++ .registerFromPackDir packDir factory
      (some (runnerWitBridgeFactory codec printer)) :: after) = .ok b)
    (hspec : spec ∈ packProviders loader packDir) (hkind : spec.kind = .bridge)
    (hlater : ∀ r ∈ after.flatMap (ServiceCall.registered loader), r.bridge? ≠ some spec.name) :
    (∀ message h r, Runs (b.service.handleMessage spec.name message) h (ret r) ↔
      ∃ answer, h = [⟨.handleMessage spec.name (toWitMessage message), answer⟩] ∧
        r = decodedEvents codec answer) ∧
    (∀ event h r, Runs (b.service.handleEvent spec.name event) h (ret r) ↔
      (∃ err, toWitEvent printer event = .error err ∧ h = [] ∧ r = .error (.bridgeError err)) ∨
      ∃ wit answer, toWitEvent printer event = .ok wit ∧
        h = [⟨.handleEvent spec.name wit, answer⟩] ∧ r = decodedMessages answer) ∧
    (∀ events wits, (∀ event ∈ events, ReadsBackPrinted codec printer event) →
      events.mapM (toWitEvent printer) = .ok wits → decodedEvents codec (.ok wits) = .ok events) ∧
    ∀ messages : List (ChannelMessageEnvelope ReplyScope),
      decodedMessages (.ok (messages.map toWitMessage)) =
        .ok (messages.map ChannelMessageEnvelope.carried) := by
  obtain ⟨hmessage, hevent⟩ := hosted_last hspec hkind hlater
  refine ⟨fun message h r => ?_, fun event h r => ?_, fun events wits hreads hwits => ?_,
    fun messages => ?_⟩
  · rw [handleMessage_registered hb, hmessage, callBridge_message]
    exact runs_ask_once
  · rw [handleEvent_registered hb, hevent]
    cases hwit : toWitEvent printer event with
    | error err =>
      rw [callBridge_unprinted printer spec.name hwit, runs_ret]
      simp
    | ok wit =>
      rw [callBridge_event printer spec.name hwit, runs_ask_once]
      simp
  · exact congrArg (Except.mapError EventBusError.bridgeError) (mapM_fromWitEvent hreads hwits)
  · exact congrArg Except.ok (map_fromWitMessage messages)

/-- The client answers an order with the message `correlatedMessage`. -/
theorem pack_bridges_chat : ∃ b : ServiceBuilder bridgeInterface Unit,
    ServiceBuilder.calls chatLoader [.registerFromPackDir "packs/chat" (fun _ => .ok 0)
      (some (runnerWitBridgeFactory epochCodec epochPrinter))] = .ok b ∧
    ∃ wit, Runs (b.service.handleEvent "chat" (order tenantA))
      [⟨.handleEvent "chat" wit, .ok [toWitMessage correlatedMessage]⟩]
      (ret (.ok [correlatedMessage.carried])) := by
  obtain ⟨b, hb⟩ : ∃ b : ServiceBuilder bridgeInterface Unit,
      ServiceBuilder.calls chatLoader ([] ++ [.registerFromPackDir "packs/chat" (fun _ => .ok 0)
        (some (runnerWitBridgeFactory epochCodec epochPrinter))]) = .ok b := ⟨_, rfl⟩
  have hspec : chatSpec ∈ packProviders chatLoader "packs/chat" :=
    List.mem_cons_of_mem _ List.mem_cons_self
  obtain ⟨-, hevents, -, hdecoded⟩ := pack_bridges hb hspec rfl
    fun r hr => absurd hr List.not_mem_nil
  have hreads : ReadsBackPrinted epochCodec epochPrinter (order tenantA) :=
    ⟨rfl, rfl, "null", rfl, rfl⟩
  obtain ⟨wit, hwit, -⟩ := fromWitEvent_toWitEvent hreads
  have hanswer := hdecoded [correlatedMessage]
  exact ⟨b, hb, wit, (hevents _ _ _).mpr (.inr ⟨wit, _, hwit, rfl, hanswer.symm⟩)⟩

end GreenticEvents
