import GreenticEvents.Codec
import GreenticEvents.Publish

/-!
# A bus over runner-hosted brokers (`RunnerBrokerProvider::publish` in `runner.rs`)

A publish gives its events to the client, a subscription takes what the client returns.
-/

namespace GreenticEvents
open Data Effects Prog

/-- The client's `publish`, beside what else a publish on a bus asks. -/
inductive HostedOp where
  | bus (o : BusOp)
  | publish (event : WitEventEnvelope)

@[reducible] def HostedOp.Ans : HostedOp → Type
  | bus o => o.Ans
  | publish _ => Except String Unit

abbrev hostedInterface : Interface := ⟨HostedOp, HostedOp.Ans⟩

/-- An event that cannot be written is not given to the client. -/
def RunnerBrokerProvider.publish (printer : WitPrinter) (event : EventEnvelope) :
    Prog hostedInterface (Except String Unit) :=
  match toWitEvent printer event with
  | .error err => return .error err
  | .ok wit => Prog.perform (I := hostedInterface) (.publish wit)

/-- All providers are brokers of one client, as `RunnerWitProviderFactory` builds them. -/
def hostedStep (printer : WitPrinter) : (o : BusOp) → Prog hostedInterface o.Ans
  | .publish _ event => RunnerBrokerProvider.publish printer event
  | o => Prog.perform (I := hostedInterface) (.bus o)

def EventBus.hostedPublish (printer : WitPrinter) (bus : EventBus) (event : EventEnvelope) :
    Prog hostedInterface (Result Unit) :=
  (bus.publish event).interpret (hostedStep printer)

abbrev HostedHistory := List (Event hostedInterface)

def given? : Event hostedInterface → Option (WitEventEnvelope × Except String Unit)
  | ⟨.publish wit, answer⟩ => some (wit, answer)
  | _ => none

/-- The events given to the client, each with its answer. -/
def given (h : HostedHistory) : List (WitEventEnvelope × Except String Unit) := h.filterMap given?

theorem given_append (h h' : HostedHistory) : given (h ++ h') = given h ++ given h' :=
  List.filterMap_append

/-- What the client is given of a call of its provider. -/
def ProviderCall.wired (printer : WitPrinter) (call : ProviderCall) :
    Option (WitEventEnvelope × Except String Unit) :=
  match toWitEvent printer call.event with
  | .ok wit => some (wit, call.result)
  | .error _ => none

/-- A call whose event cannot be written fails with that error. -/
def ProviderCall.Written (printer : WitPrinter) (call : ProviderCall) : Prop :=
  ∀ err, toWitEvent printer call.event = .error err → call.result = .error err

theorem brokerPublish_runs {printer : WitPrinter} (provider : ProviderInstance)
    {event : EventEnvelope} {piece : HostedHistory} {result : Except String Unit}
    (hr : Runs (RunnerBrokerProvider.publish printer event) piece (ret result)) :
    given piece = (ProviderCall.wired printer ⟨provider, event, result⟩).toList ∧
      ProviderCall.Written printer ⟨provider, event, result⟩ := by
  unfold RunnerBrokerProvider.publish at hr
  unfold ProviderCall.wired ProviderCall.Written
  dsimp only
  cases hwit : toWitEvent printer event with
  | error err =>
    rw [hwit] at hr
    obtain ⟨rfl, hresult⟩ := runs_ret.mp hr
    refine ⟨rfl, fun err' herr => ?_⟩
    rw [ret.inj hresult, Except.error.inj herr]
  | ok wit =>
    rw [hwit] at hr
    obtain ⟨answer, rfl, rfl⟩ := runs_ask_once.mp hr
    exact ⟨rfl, fun err herr => nomatch herr⟩

theorem otherStep_runs {o : BusOp} {answer : o.Ans} {piece : HostedHistory}
    (hr : Runs (Prog.perform (I := hostedInterface) (.bus o)) piece (ret answer)) :
    given piece = [] := by
  obtain ⟨_, rfl, -⟩ := runs_ask_once.mp hr
  rfl

theorem fulfilled_given {printer : WitPrinter} {h₀ : BusHistory} {h : HostedHistory}
    (hf : Fulfilled (hostedStep printer) h₀ h) :
    given h = (calls h₀).filterMap (ProviderCall.wired printer) ∧
      ∀ call ∈ calls h₀, call.Written printer := by
  induction hf with
  | nil => exact ⟨rfl, by simp [calls]⟩
  | @cons o a h₀ piece h here rest ih =>
    obtain ⟨hgiven, hwritten⟩ := ih
    rw [given_append, hgiven]
    cases o with
    | publish provider event =>
      obtain ⟨hpiece, hcall⟩ := brokerPublish_runs provider here
      have hcalls : calls (⟨.publish provider event, a⟩ :: h₀) =
        ⟨provider, event, a⟩ :: calls h₀ := rfl
      rw [hpiece, hcalls]
      refine ⟨?_, List.forall_mem_cons.mpr ⟨hcall, hwritten⟩⟩
      rw [List.filterMap_cons]
      cases ProviderCall.wired printer ⟨provider, event, a⟩ <;> rfl
    | _ =>
      rw [otherStep_runs here]
      exact ⟨rfl, hwritten⟩

def refusals (wit : WitEventEnvelope) (errs : List String) :
    List (WitEventEnvelope × Except String Unit) :=
  errs.map fun err => (wit, .error err)

/-- Every attempt at `event` was refused, the last with `reason`, and then the client was given the
dead letter for `reason` under the registration that the topic is routed to. -/
def DeadLettered (codec : WitCodec) (bus : EventBus) (event : EventEnvelope)
    (given : List (WitEventEnvelope × Except String Unit)) (provider : ProviderRegistration)
    (reason : String) : Prop :=
  bus.providerForTopic event.topic = .ok provider ∧
    ∃ wit letter errs answer, fromWitEvent codec wit = .ok event ∧
      fromWitEvent codec letter = .ok (deadLetter provider event reason) ∧
      given = refusals wit (errs ++ [reason]) ++ [(letter, answer)]

/-- What a publish of `event` on `bus` has given to the client. -/
inductive Outgoing (codec : WitCodec) (bus : EventBus) (event : EventEnvelope)
    (given : List (WitEventEnvelope × Except String Unit)) : EventEnvelope → Prop
  | itself : Outgoing codec bus event given event
  | letter {provider : ProviderRegistration} {reason : String}
      (last : DeadLettered codec bus event given provider reason) :
      Outgoing codec bus event given (deadLetter provider event reason)

/-- What a finished publish of `event` has had accepted by the client. -/
def Accepted (codec : WitCodec) (bus : EventBus) (event : EventEnvelope)
    (given : List (WitEventEnvelope × Except String Unit)) : Result Unit → Prop
  | .ok () => ∃ wit errs, fromWitEvent codec wit = .ok event ∧
      given = refusals wit errs ++ [(wit, .ok ())]
  | .error (.deliveryFailed name reason) => ∃ provider, name = provider.descriptor.name ∧
      DeadLettered codec bus event given provider reason
  | .error _ => given = []

section Given

variable {codec : WitCodec} {printer : WitPrinter} {bus : EventBus} {event : EventEnvelope}
  {provider : ProviderRegistration}

theorem mem_refusals {wit wit' : WitEventEnvelope} {errs : List String}
    {answer : Except String Unit} (h : (wit', answer) ∈ refusals wit errs) : wit' = wit := by
  obtain ⟨err, -, hentry⟩ := List.mem_map.mp h
  exact (Prod.mk.inj hentry).1.symm

theorem wired_failedCalls {wit : WitEventEnvelope} (hwit : toWitEvent printer event = .ok wit)
    (errs : List String) :
    (failedCalls provider event errs).filterMap (ProviderCall.wired printer) =
      refusals wit errs := by
  rw [failedCalls, List.filterMap_map, refusals, ← List.filterMap_eq_map]
  apply List.filterMap_congr
  intro err _
  simp only [Function.comp, ProviderCall.wired, hwit]

/-- A dead letter is written and read back like its event. -/
theorem ReadsBackPrinted.deadLetter (h : ReadsBackPrinted codec printer event)
    (provider : ProviderRegistration) (reason : String) :
    ReadsBackPrinted codec printer (deadLetter provider event reason) :=
  ⟨h.time, h.id, h.payload⟩

theorem wired_deadLettered (hreads : ReadsBackPrinted codec printer event)
    (ha : Admitted bus event provider) (errs : List String) (err : String)
    (answer : Except String Unit) :
    DeadLettered codec bus event ((failedCalls provider event (errs ++ [err]) ++
      [deadLetterCall provider event err answer]).filterMap (ProviderCall.wired printer))
        provider err := by
  obtain ⟨wit, hwit, hback⟩ := fromWitEvent_toWitEvent hreads
  obtain ⟨letter, hletter, hback'⟩ := fromWitEvent_toWitEvent (hreads.deadLetter provider err)
  refine ⟨ha.routed, wit, letter, errs, answer, hback, hback', ?_⟩
  rw [List.filterMap_append, wired_failedCalls hwit]
  simp [ProviderCall.wired, deadLetterCall, hletter]

/-- What is given of the calls of a publish is the event or its dead letter. -/
theorem wired_outgoing (hreads : ReadsBackPrinted codec printer event) {calls : List ProviderCall}
    (hcalls : CallsOf bus event calls) {wit : WitEventEnvelope} {answer : Except String Unit}
    (hgiven : (wit, answer) ∈ calls.filterMap (ProviderCall.wired printer)) :
    ∃ e, fromWitEvent codec wit = .ok e ∧
      Outgoing codec bus event (calls.filterMap (ProviderCall.wired printer)) e := by
  obtain ⟨wit₀, hwit₀, hback₀⟩ := fromWitEvent_toWitEvent hreads
  have hitself {given : List (WitEventEnvelope × Except String Unit)} (h : wit = wit₀) :
      ∃ e, fromWitEvent codec wit = .ok e ∧ Outgoing codec bus event given e :=
    ⟨event, h ▸ hback₀, .itself⟩
  cases hcalls with
  | none => exact absurd hgiven List.not_mem_nil
  | attempted ha errs =>
    rw [wired_failedCalls hwit₀] at hgiven
    exact hitself (mem_refusals hgiven)
  | delivered ha errs =>
    rw [List.filterMap_append, wired_failedCalls hwit₀, List.mem_append] at hgiven
    rcases hgiven with hgiven | hgiven
    · exact hitself (mem_refusals hgiven)
    · simp only [ProviderCall.wired, hwit₀, List.filterMap_cons, List.filterMap_nil,
        List.mem_singleton] at hgiven
      exact hitself (Prod.mk.inj hgiven).1
  | @deadLettered provider ha errs err result =>
    -- the last entry is the letter, all before it are attempts
    have hlast := wired_deadLettered hreads ha errs err result
    obtain ⟨-, wit₁, letter, errs', answer', hback₁, hletter, heq⟩ := id hlast
    rw [heq, List.mem_append] at hgiven
    rcases hgiven with hgiven | hgiven
    · obtain rfl := mem_refusals hgiven
      exact ⟨event, hback₁, .itself⟩
    · obtain rfl := (Prod.mk.inj (List.mem_singleton.mp hgiven)).1
      exact ⟨_, hletter, .letter hlast⟩

/-- An operation that is not finished has not asked anything. -/
theorem hostedStep_unfinished {o : BusOp} {piece : HostedHistory} {o' : HostedOp}
    {k : o'.Ans → Prog hostedInterface o.Ans}
    (hr : Runs (hostedStep printer o) piece (ask (I := hostedInterface) o' k)) : piece = [] := by
  have honce {α : Type} {o₁ : HostedOp} {f : o₁.Ans → α} {k : o'.Ans → Prog hostedInterface α}
      (hr : Runs (ask (I := hostedInterface) o₁ fun a => ret (f a)) piece
        (ask (I := hostedInterface) o' k)) : piece = [] := by
    rcases runs_ask.mp hr with ⟨rfl, -⟩ | ⟨a, h, rfl, hrest⟩
    · rfl
    · obtain ⟨-, hret⟩ := runs_ret.mp hrest
      cases hret
  cases o with
  | publish provider event =>
    change Runs (RunnerBrokerProvider.publish printer event) _ _ at hr
    unfold RunnerBrokerProvider.publish at hr
    cases hwit : toWitEvent printer event with
    | error err =>
      rw [hwit] at hr
      obtain ⟨rfl, -⟩ := runs_ret.mp hr
      rfl
    | ok wit =>
      rw [hwit] at hr
      exact honce hr
  | _ => exact honce hr

/-- A publish over the client, finished or not, is one on the bus. -/
theorem hostedPublish_given {h : HostedHistory} {q : Prog hostedInterface (Result Unit)}
    (hr : Runs (bus.hostedPublish printer event) h q) :
    ∃ calls, CallsOf bus event calls ∧
      given h = calls.filterMap (ProviderCall.wired printer) := by
  obtain ⟨h₀, r, h₁, h₂, rfl, hr₀, hanswered, hlast⟩ := interpret_cut hr
  -- an operation of the client is one step, so an unfinished one has asked nothing
  have hnone : h₂ = [] := by
    rcases hlast with rfl | ⟨o, o', k, hrest⟩
    · rfl
    · exact hostedStep_unfinished hrest
  rw [hnone, List.append_nil]
  exact ⟨calls h₀, publish_callsOf hr₀, (fulfilled_given hanswered).1⟩

theorem hostedPublish_outgoing (hreads : ReadsBackPrinted codec printer event) {h : HostedHistory}
    {q : Prog hostedInterface (Result Unit)} (hr : Runs (bus.hostedPublish printer event) h q)
    {wit : WitEventEnvelope} {answer : Except String Unit} (hgiven : (wit, answer) ∈ given h) :
    ∃ e, fromWitEvent codec wit = .ok e ∧ Outgoing codec bus event (given h) e := by
  obtain ⟨calls, hcalls, hwired⟩ := hostedPublish_given hr
  rw [hwired] at hgiven ⊢
  exact wired_outgoing hreads hcalls hgiven

theorem hostedPublish_accepted (hreads : ReadsBackPrinted codec printer event)
    {h : HostedHistory} {result : Result Unit}
    (hr : Runs (bus.hostedPublish printer event) h (ret result)) :
    Accepted codec bus event (given h) result := by
  obtain ⟨h₀, hr₀, hf⟩ := interpret_runs.mp hr
  obtain ⟨hgiven, -⟩ := fulfilled_given hf
  have ht := publish_returned hr₀
  rw [hgiven, ← footprint_calls]
  generalize footprint h₀ = f at ht
  cases ht with
  | denied refused =>
    obtain rfl := TopicAcl.check_error refused
    rfl
  | unrouted allowed unrouted =>
    obtain rfl := providerForTopic_error unrouted
    rfl
  | duplicate provider ha key hkey => rfl
  | passed provider ha hd =>
    cases hd with
    | delivered errs =>
      obtain ⟨wit, hwit, hback⟩ := fromWitEvent_toWitEvent hreads
      refine ⟨wit, errs, hback, ?_⟩
      rw [List.filterMap_append, wired_failedCalls hwit]
      simp [ProviderCall.wired, hwit]
    | reported errs err result =>
      exact ⟨provider, rfl, wired_deadLettered hreads ha errs err result⟩

end Given

/-- Any number of publishes on buses over one client, and a subscription to which the client returns
only what it was given: whatever the consumer receives was published, or is the dead letter of
something whose last attempt was refused, with every field as it was.  A publish that succeeds had
its event accepted once, after refusals only; one whose delivery failed had nothing accepted but
that dead letter. -/
theorem hosted_delivery {ι : Type} {codec : WitCodec} {printer : WitPrinter} {bus : ι → EventBus}
    {event : ι → EventEnvelope} {h : ι → HostedHistory} {task : PollingTask} {log : PollLog}
    {c : Config Unit SubscriptionChannel (RunnerProg Bool)}
    (hpublish : ∀ i, ∃ q, Runs ((bus i).hostedPublish printer (event i)) (h i) q)
    (hreads : ∀ i, ReadsBackPrinted codec printer (event i))
    (hpoll : (pollSystem codec task).Run spawned log c)
    (hclient : ∀ wit, .ok (some wit) ∈ responses (localHistory () log) →
      ∃ i answer, (wit, answer) ∈ given (h i)) :
    (∀ e ∈ received log, ∃ i, Outgoing codec (bus i) (event i) (given (h i)) e) ∧
    ∀ i result, Runs ((bus i).hostedPublish printer (event i)) (h i) (ret result) →
      Accepted codec (bus i) (event i) (given (h i)) result := by
  refine ⟨fun e he => ?_, fun i result hr => hostedPublish_accepted (hreads i) hr⟩
  obtain ⟨wit, hwit, hdecoded⟩ := mem_decodable ((received_decodable hpoll).subset he)
  obtain ⟨i, answer, hgiven⟩ := hclient wit hwit
  obtain ⟨q, hr⟩ := hpublish i
  obtain ⟨e', hdecoded', hout⟩ := hostedPublish_outgoing (hreads i) hr hgiven
  rw [Except.ok.inj (hdecoded.symm.trans hdecoded')]
  exact ⟨i, hout⟩

def epochWit : WitEventEnvelope := { witOrder tenantA with time := "1970-01-01T00:00:00+00:00" }

def refusedLetter : EventEnvelope :=
  { order tenantA with topic := "orders.dlq", metadata := .insert .empty "dlq_reason" "down" }

def letterWit : WitEventEnvelope :=
  { epochWit with topic := "orders.dlq", metadata := .insert .empty "dlq_reason" "down" }

/-- The client refuses the event and takes its dead letter. -/
def refusedHistory : HostedHistory := [
  ⟨.bus .aclCheck, ()⟩, ⟨.bus .routing, ()⟩, ⟨.bus (.record .eventsIn), ()⟩,
  ⟨.publish epochWit, .error "down"⟩, ⟨.bus (.record .eventsFailed), ()⟩,
  ⟨.publish letterWit, .ok ()⟩, ⟨.bus (.record .eventsDlq), ()⟩]

theorem refusedHistory_runs :
    Runs (wildcardBus.hostedPublish epochPrinter (order tenantA)) refusedHistory
      (ret (.error (.deliveryFailed "broker" "down"))) :=
  .step rfl (.step rfl (.step rfl (.step rfl (.step rfl (.step rfl (.step rfl (.refl _)))))))

theorem hosted_delivery_refused :
    let given := [(epochWit, .error "down"), (letterWit, .ok ())]
    (∀ e ∈ received (oneDelivery orderTask letterWit refusedLetter),
      Outgoing epochCodec wildcardBus (order tenantA) given e) ∧
    Accepted epochCodec wildcardBus (order tenantA) given
      (.error (.deliveryFailed "broker" "down")) := by
  intro given
  have hreads : ReadsBackPrinted epochCodec epochPrinter (order tenantA) :=
    ⟨rfl, rfl, "null", rfl, rfl⟩
  have hdecodes : fromWitEvent epochCodec letterWit = .ok refusedLetter := rfl
  obtain ⟨c, hpoll⟩ := oneDelivery_run orderTask hdecodes
  have hpublish (_ : Unit) : ∃ q,
      Runs (wildcardBus.hostedPublish epochPrinter (order tenantA)) refusedHistory q :=
    ⟨_, refusedHistory_runs⟩
  obtain ⟨hreceived, haccepted⟩ := hosted_delivery hpublish (fun _ => hreads) hpoll (by
    intro wit hwit
    cases List.mem_singleton.mp hwit
    exact ⟨(), .ok (), List.mem_cons_of_mem _ List.mem_cons_self⟩)
  exact ⟨fun e he => (hreceived e he).elim fun _ h => h, haccepted () _ refusedHistory_runs⟩

end GreenticEvents
