import GreenticEvents.Data.EachAfter
import GreenticEvents.Effects.Interleaving
import GreenticEvents.Runner

/-!
# A polling task and its consumer

The task polls the client and fills the channel while the consumer receives
from it or drops it at any time.
-/

namespace GreenticEvents
open Data Effects Prog

abbrev RunnerHistory := List (Event runnerInterface)

def response? : Event runnerInterface → Option (Except String (Option WitEventEnvelope))
  | ⟨.nextEvent _ _, response⟩ => some response
  | _ => none

def enqueued? : Event runnerInterface → Option EventEnvelope
  | ⟨.send event, .ok ()⟩ => some event
  | _ => none

def acked? : Event runnerInterface → Option String
  | ⟨.ackEvent _ id, _⟩ => some id
  | _ => none

def responses (h : RunnerHistory) : List (Except String (Option WitEventEnvelope)) :=
  h.filterMap response?

def enqueued (h : RunnerHistory) : List EventEnvelope := h.filterMap enqueued?

def acked (h : RunnerHistory) : List String := h.filterMap acked?

@[simp] theorem responses_nil : responses [] = [] := rfl

@[simp] theorem enqueued_nil : enqueued [] = [] := rfl

theorem enqueued_append (h h' : RunnerHistory) :
    enqueued (h ++ h') = enqueued h ++ enqueued h' :=
  List.filterMap_append

theorem acked_append (h h' : RunnerHistory) : acked (h ++ h') = acked h ++ acked h' :=
  List.filterMap_append

/-- The decoded events before the first client error or undecodable event. -/
def decodable (codec : WitCodec) :
    List (Except String (Option WitEventEnvelope)) → List EventEnvelope
  | [] => []
  | .error _ :: _ => []
  | .ok none :: rest => decodable codec rest
  | .ok (some wit) :: rest =>
    match fromWitEvent codec wit with
    | .ok event => event :: decodable codec rest
    | .error _ => []

section Pass

variable (codec : WitCodec) (task : PollingTask)

def PollingTask.polled (response : Except String (Option WitEventEnvelope)) :
    Event runnerInterface :=
  ⟨.nextEvent task.subscriptionId task.timeout, response⟩

def PollingTask.acking (event : EventEnvelope) (result : Except String Unit) :
    Event runnerInterface :=
  ⟨.ackEvent task.subscriptionId event.id.raw, result⟩

def sending (event : EventEnvelope) (result : Except EventEnvelope Unit) :
    Event runnerInterface :=
  ⟨.send event, result⟩

section Reading

variable {task} (h : RunnerHistory) (event : EventEnvelope)

@[simp] theorem responses_polled (response : Except String (Option WitEventEnvelope)) :
    responses (task.polled response :: h) = response :: responses h := rfl

@[simp] theorem responses_sending (result : Except EventEnvelope Unit) :
    responses (sending event result :: h) = responses h := rfl

@[simp] theorem responses_acking (result : Except String Unit) :
    responses (task.acking event result :: h) = responses h := rfl

@[simp] theorem enqueued_polled (response : Except String (Option WitEventEnvelope)) :
    enqueued (task.polled response :: h) = enqueued h := rfl

@[simp] theorem enqueued_sending : enqueued (sending event (.ok ()) :: h) = event :: enqueued h :=
  rfl

@[simp] theorem enqueued_acking (result : Except String Unit) :
    enqueued (task.acking event result :: h) = enqueued h := rfl

end Reading

/-- What a pass has done, and whether it returned `continue` or `break`. -/
inductive PollTrace : RunnerHistory → Option Bool → Prop
  | start : PollTrace [] none
  | failed (err : String) : PollTrace [task.polled (.error err)] (some false)
  | undecodable (wit : WitEventEnvelope) {err : String}
      (hdec : fromWitEvent codec wit = .error err) :
      PollTrace [task.polled (.ok (some wit))] (some false)
  | idle : PollTrace [task.polled (.ok none)] none
  | slept : PollTrace [task.polled (.ok none), ⟨.sleep (.fromMillis 10), ()⟩] (some true)
  | decoded (wit : WitEventEnvelope) {event : EventEnvelope}
      (hdec : fromWitEvent codec wit = .ok event) :
      PollTrace [task.polled (.ok (some wit))] none
  | refused (wit : WitEventEnvelope) {event back : EventEnvelope}
      (hdec : fromWitEvent codec wit = .ok event) :
      PollTrace [task.polled (.ok (some wit)), sending event (.error back)] (some false)
  | unacked (wit : WitEventEnvelope) {event : EventEnvelope}
      (hdec : fromWitEvent codec wit = .ok event) (hmode : task.options.ackMode = .auto) :
      PollTrace [task.polled (.ok (some wit)), sending event (.ok ())] none
  | manual (wit : WitEventEnvelope) {event : EventEnvelope}
      (hdec : fromWitEvent codec wit = .ok event) (hmode : task.options.ackMode ≠ .auto) :
      PollTrace [task.polled (.ok (some wit)), sending event (.ok ())] (some true)
  | acknowledged (wit : WitEventEnvelope) {event : EventEnvelope} (result : Except String Unit)
      (hdec : fromWitEvent codec wit = .ok event) (hmode : task.options.ackMode = .auto) :
      PollTrace [task.polled (.ok (some wit)), sending event (.ok ()), task.acking event result]
        (some true)

end Pass

variable {codec : WitCodec} {task : PollingTask} {h : RunnerHistory}

theorem poll_runs {q : RunnerProg Bool} (hr : Runs (task.poll codec) h q) :
    PollTrace codec task h q.value? := by
  -- the run may end before any of the operations, and each gives a case of its own
  rw [PollingTask.poll, RunnerProg.nextEvent, perform_bind, runs_ask] at hr
  rcases hr with ⟨rfl, rfl⟩ | ⟨response, h, rfl, hr⟩
  · exact .start
  · match response with
    | .error err =>
      obtain ⟨rfl, rfl⟩ := runs_ret.mp hr
      exact .failed err
    | .ok none =>
      dsimp only at hr
      rw [RunnerProg.sleep, perform_bind, runs_ask] at hr
      rcases hr with ⟨rfl, rfl⟩ | ⟨_, h, rfl, hr⟩
      · exact .idle
      · obtain ⟨rfl, rfl⟩ := runs_ret.mp hr
        exact .slept
    | .ok (some wit) =>
      cases hdec : fromWitEvent codec wit with
      | error err =>
        simp only [hdec] at hr
        obtain ⟨rfl, rfl⟩ := runs_ret.mp hr
        exact .undecodable wit hdec
      | ok event =>
        simp only [hdec] at hr
        rw [RunnerProg.send, perform_bind, runs_ask] at hr
        rcases hr with ⟨rfl, rfl⟩ | ⟨sent, h, rfl, hr⟩
        · exact .decoded wit hdec
        · cases sent with
          | error back =>
            obtain ⟨rfl, rfl⟩ := runs_ret.mp hr
            exact .refused wit hdec
          | ok u =>
            dsimp only at hr
            split_ifs at hr with hmode
            · rw [RunnerProg.ackEvent, perform_bind, runs_ask] at hr
              rcases hr with ⟨rfl, rfl⟩ | ⟨result, h, rfl, hr⟩
              · exact .unacked wit hdec hmode
              · obtain ⟨rfl, rfl⟩ := runs_ret.mp hr
                exact .acknowledged wit result hdec hmode
            · obtain ⟨rfl, rfl⟩ := runs_ret.mp hr
              exact .manual wit hdec hmode

/-- Passes that continued, and one more that may be unfinished. -/
structure TaskTrace (codec : WitCodec) (task : PollingTask) (h : RunnerHistory)
    (rounds : List RunnerHistory) (last : RunnerHistory) : Prop where
  cut : h = rounds.flatten ++ last
  full : ∀ r ∈ rounds, PollTrace codec task r (some true)
  rest : ∃ v, PollTrace codec task last v

theorem task_runs {q : RunnerProg Bool}
    (hr : After (forever (task.poll codec)) (.ret true) h q) :
    ∃ rounds last, TaskTrace codec task h rounds last := by
  rcases forever_rounds hr with hr | ⟨first, rounds, last, rfl, hfirst, hrounds, hlast⟩
  · obtain ⟨rfl, rfl⟩ := runs_ret.mp hr
    exact ⟨[], [], rfl, by simp, none, .start⟩
  · obtain ⟨rfl, _⟩ := runs_ret.mp hfirst
    refine ⟨rounds, last, rfl, fun r hmem => ?_, _, poll_runs hlast⟩
    exact poll_runs (hrounds r hmem)

section Round

variable {r : RunnerHistory} {v : Option Bool}

/-- A pass that continued enqueued what the client returned in it. -/
theorem PollTrace.decodable_append (ht : PollTrace codec task r (some true)) (h : RunnerHistory) :
    decodable codec (responses (r ++ h)) = enqueued r ++ decodable codec (responses h) := by
  cases ht with
  | slept => rfl
  | manual wit hdec | acknowledged wit result hdec =>
    simp [decodable, hdec]

theorem PollTrace.enqueued_decodable (ht : PollTrace codec task r v) :
    enqueued r <+: decodable codec (responses r) := by
  cases ht with
  | start | failed | undecodable | idle | slept => exact List.nil_prefix
  | decoded wit hdec | refused wit hdec => exact List.nil_prefix
  | unacked wit hdec | manual wit hdec | acknowledged wit result hdec =>
    simp [decodable, hdec]

theorem PollTrace.acked_auto (ht : PollTrace codec task r (some true))
    (hmode : task.options.ackMode = .auto) :
    acked r = (enqueued r).map fun event => event.id.raw := by
  cases ht with
  | slept => rfl
  | manual _ _ hmanual => exact absurd hmode hmanual
  | acknowledged => rfl

theorem PollTrace.acked_enqueued (ht : PollTrace codec task r v) :
    acked r <+: (enqueued r).map fun event => event.id.raw := by
  cases ht with
  | acknowledged => exact List.prefix_rfl
  | _ => exact List.nil_prefix

theorem PollTrace.acked_manual (ht : PollTrace codec task r v)
    (hmode : task.options.ackMode ≠ .auto) : acked r = [] := by
  cases ht with
  | acknowledged _ _ _ hauto => exact absurd hauto hmode
  | _ => rfl

/-- An acknowledgement comes directly after the enqueue of its own event. -/
def AcksOwn (before : RunnerHistory) (e : Event runnerInterface) : Prop :=
  ∀ id ∈ acked? e, ∃ pre event, before = pre ++ [sending event (.ok ())] ∧ id = event.id.raw

/-- Nothing comes after an enqueue that failed. -/
def AfterNoFailure (before : RunnerHistory) (_ : Event runnerInterface) : Prop :=
  ∀ event back, sending event (.error back) ∉ before

theorem PollTrace.acks_own (ht : PollTrace codec task r v) : EachAfter AcksOwn r := by
  cases ht with
  | acknowledged wit result hdec hmode =>
    simp only [eachAfter_cons, eachAfter_nil, and_true]
    refine ⟨by simp [AcksOwn, acked?, PollingTask.polled], by simp [AcksOwn, acked?, sending], ?_⟩
    intro id hid
    exact ⟨[_], _, rfl, (Option.some.inj hid).symm⟩
  | _ => simp [AcksOwn, acked?, PollingTask.polled, sending]

theorem PollTrace.after_no_failure (ht : PollTrace codec task r v) :
    EachAfter AfterNoFailure r := by
  cases ht <;> simp [AfterNoFailure, PollingTask.polled, sending]

theorem PollTrace.no_failure (ht : PollTrace codec task r (some true)) (event back) :
    sending event (.error back) ∉ r := by
  cases ht <;> simp [PollingTask.polled, PollingTask.acking, sending]

end Round

namespace TaskTrace

variable {rounds : List RunnerHistory} {last : RunnerHistory}

/-- The task enqueues, in order, what the client returned before its first failure. -/
theorem enqueued_decodable (ht : TaskTrace codec task h rounds last) :
    enqueued h <+: decodable codec (responses h) := by
  obtain ⟨rfl, hfull, v, hrest⟩ := ht
  induction rounds with
  | nil => exact hrest.enqueued_decodable
  | cons r rounds ih =>
    rw [List.flatten_cons, List.append_assoc, (hfull r List.mem_cons_self).decodable_append,
      enqueued_append, List.prefix_append_right_inj]
    exact ih fun r' hr' => hfull r' (List.mem_cons_of_mem r hr')

theorem acked_enqueued (ht : TaskTrace codec task h rounds last)
    (hmode : task.options.ackMode = .auto) :
    acked h <+: (enqueued h).map fun event => event.id.raw := by
  obtain ⟨rfl, hfull, v, hrest⟩ := ht
  induction rounds with
  | nil => exact hrest.acked_enqueued
  | cons r rounds ih =>
    rw [List.flatten_cons, List.append_assoc, acked_append, enqueued_append, List.map_append,
      (hfull r List.mem_cons_self).acked_auto hmode, List.prefix_append_right_inj]
    exact ih fun r' hr' => hfull r' (List.mem_cons_of_mem r hr')

theorem acked_manual (ht : TaskTrace codec task h rounds last)
    (hmode : task.options.ackMode ≠ .auto) : acked h = [] := by
  obtain ⟨rfl, hfull, v, hrest⟩ := ht
  induction rounds with
  | nil => exact hrest.acked_manual hmode
  | cons r rounds ih =>
    rw [List.flatten_cons, List.append_assoc, acked_append,
      (hfull r List.mem_cons_self).acked_manual hmode, List.nil_append]
    exact ih fun r' hr' => hfull r' (List.mem_cons_of_mem r hr')

theorem acks_own (ht : TaskTrace codec task h rounds last) : EachAfter AcksOwn h := by
  obtain ⟨rfl, hfull, v, hrest⟩ := ht
  apply EachAfter.rounds (fun r hr => (hfull r hr).acks_own) hrest.acks_own
  intro r _ before e hown id hid
  obtain ⟨pre, event, rfl, rfl⟩ := hown id hid
  exact ⟨r ++ pre, event, (List.append_assoc ..).symm, rfl⟩

theorem after_no_failure (ht : TaskTrace codec task h rounds last) :
    EachAfter AfterNoFailure h := by
  obtain ⟨rfl, hfull, v, hrest⟩ := ht
  apply EachAfter.rounds (fun r hr => (hfull r hr).after_no_failure) hrest.after_no_failure
  intro r hr before e hnone event back hmem
  rcases List.mem_append.mp hmem with hmem | hmem
  · exact (hfull r hr).no_failure event back hmem
  · exact hnone event back hmem

end TaskTrace

def pollSystem (codec : WitCodec) (task : PollingTask) :
    System Unit runnerInterface ConsumerAction SubscriptionChannel (RunnerProg Bool) where
  next := Prog.forever (task.poll codec)
  handle _ := SubscriptionChannel.handle
  react := SubscriptionChannel.react

/-- The task has just been spawned on a new channel. -/
def spawned : Config Unit SubscriptionChannel (RunnerProg Bool) := ⟨.new, fun _ => .ret true⟩

abbrev PollLog := List (Label Unit runnerInterface ConsumerAction)

def received? : Label Unit runnerInterface ConsumerAction → Option EventEnvelope
  | .env (.recv event) => some event
  | _ => none

def received (log : PollLog) : List EventEnvelope := log.filterMap received?

/-- The channel holds what was enqueued and not yet received. -/
structure ChannelFifo (log : PollLog) (s : SubscriptionChannel) : Prop where
  held : s.receiver = true → enqueued (localHistory () log) = received log ++ s.queue
  ordered : received log <+: enqueued (localHistory () log)

theorem received_snoc (log : PollLog) (l : Label Unit runnerInterface ConsumerAction) :
    received (log ++ [l]) = received log ++ (received? l).toList := by
  rw [received, List.filterMap_append]
  cases hl : received? l <;> simp [received, hl]

theorem channelFifo_act {log : PollLog} {s s' : SubscriptionChannel} {i : Unit}
    {e : Event runnerInterface} (hinv : ChannelFifo log s)
    (hs : SubscriptionChannel.handle s e s') : ChannelFifo (log ++ [.act i e]) s' := by
  have hreceived : received (log ++ [.act i e]) = received log := by
    rw [received_snoc]
    exact List.append_nil _
  have henqueued : enqueued (localHistory () (log ++ [.act i e])) =
      enqueued (localHistory () log) ++ enqueued [e] := by
    rw [localHistory_snoc_act, if_pos rfl, enqueued_append]
  have hkept (hnone : enqueued [e] = []) (hsame : s' = s) :
      ChannelFifo (log ++ [.act i e]) s' := by
    rw [hnone, List.append_nil] at henqueued
    subst hsame
    exact ⟨by rw [hreceived, henqueued]; exact hinv.held,
      by rw [hreceived, henqueued]; exact hinv.ordered⟩
  obtain ⟨o, a⟩ := e
  cases o with
  | send event =>
    cases a with
    | error back => exact hkept rfl hs.2
    | ok u =>
      obtain ⟨room, halive, rfl⟩ := hs
      have hone : enqueued [⟨.send event, .ok u⟩] = [event] := rfl
      rw [hone] at henqueued
      constructor
      · intro _
        rw [hreceived, henqueued, hinv.held halive, List.append_assoc]
        rfl
      · rw [hreceived, henqueued]
        exact hinv.ordered.trans (List.prefix_append ..)
  | _ => exact hkept rfl hs

theorem channelFifo_env {log : PollLog} {s s' : SubscriptionChannel} {a : ConsumerAction}
    (hinv : ChannelFifo log s) (hs : s.react a s') : ChannelFifo (log ++ [.env a]) s' := by
  cases a with
  | recv event =>
    obtain ⟨halive, _, hqueue⟩ := hs
    have hheld := hinv.held halive
    rw [hqueue] at hheld
    have hreceived : received (log ++ [.env (.recv event)]) = received log ++ [event] :=
      received_snoc ..
    constructor
    · intro _
      rw [hreceived, localHistory_snoc_env, hheld, List.append_assoc, List.singleton_append]
    · rw [hreceived, localHistory_snoc_env, hheld, List.append_cons _ event s'.queue]
      exact List.prefix_append ..
  | drop =>
    -- the queued events are lost, and nothing is received from here on
    have hreceived : received (log ++ [.env .drop]) = received log := by
      rw [received_snoc]
      exact List.append_nil _
    constructor
    · intro halive
      exact absurd (hs.1.symm.trans halive) Bool.false_ne_true
    · rw [hreceived, localHistory_snoc_env]
      exact hinv.ordered

variable {log : PollLog} {c : Config Unit SubscriptionChannel (RunnerProg Bool)}

theorem channelFifo (hr : (pollSystem codec task).Run spawned log c) :
    ChannelFifo log c.shared :=
  hr.invariant ⟨fun _ => rfl, List.nil_prefix⟩ (fun _ _ _ _ _ hinv hs => channelFifo_act hinv hs)
    fun _ _ _ _ hinv hs => channelFifo_env hinv hs

theorem received_decodable (hr : (pollSystem codec task).Run spawned log c) :
    received log <+: decodable codec (responses (localHistory () log)) := by
  obtain ⟨rounds, last, ht⟩ := task_runs (hr.local ())
  exact (channelFifo hr).ordered.trans ht.enqueued_decodable

/-- The consumer receives a prefix of the decoded events.  In auto mode the acks
follow the enqueued events one by one, each directly after its own enqueue; in
manual mode there are none; after a failed enqueue the task does nothing. -/
theorem polling_delivery (hr : (pollSystem codec task).Run spawned log c) :
    let h := localHistory () log
    received log <+: decodable codec (responses h) ∧
    (task.options.ackMode = .auto →
      acked h <+: (enqueued h).map (fun event => event.id.raw) ∧
      ∀ before subscription id result after,
        h = before ++ ⟨.ackEvent subscription id, result⟩ :: after →
        ∃ pre event, before = pre ++ [sending event (.ok ())] ∧ id = event.id.raw) ∧
    (task.options.ackMode = .manual → acked h = []) ∧
    ∀ before event back after, h = before ++ sending event (.error back) :: after → after = [] := by
  intro h
  obtain ⟨rounds, last, ht⟩ := task_runs (hr.local ())
  refine ⟨received_decodable hr, fun hmode => ⟨ht.acked_enqueued hmode, ?_⟩,
    fun hmode => ht.acked_manual (by simp [hmode]), ?_⟩
  · intro before subscription id result after hcut
    exact ht.acks_own before _ after hcut id rfl
  · intro before event back after hcut
    cases after with
    | nil => rfl
    | cons e after =>
      rw [List.append_cons] at hcut
      exact absurd (List.mem_append_right _ List.mem_cons_self)
        (ht.after_no_failure _ e after hcut event back)

def oneDelivery (task : PollingTask) (wit : WitEventEnvelope) (event : EventEnvelope) : PollLog :=
  [.act () (task.polled (.ok (some wit))), .act () (sending event (.ok ())), .env (.recv event)]

variable (task) in
theorem oneDelivery_run {wit : WitEventEnvelope} {event : EventEnvelope}
    (hdec : fromWitEvent codec wit = .ok event) :
    ∃ c, (pollSystem codec task).Run spawned (oneDelivery task wit event) c := by
  have hpoll : ∃ q, Runs (task.poll codec)
      [task.polled (.ok (some wit)), sending event (.ok ())] q := by
    rw [PollingTask.poll, RunnerProg.nextEvent, perform_bind]
    apply Exists.intro
    apply After.step rfl
    simp only [hdec]
    exact .step rfl (.refl _)
  obtain ⟨q, hq⟩ := hpoll
  have hserved : (pollSystem codec task).Served () .new
      [task.polled (.ok (some wit)), sending event (.ok ())]
      (SubscriptionChannel.new.push event (by decide)) :=
    .cons rfl (.cons ⟨by decide, rfl, rfl⟩ (.nil _))
  have htask : (pollSystem codec task).Run spawned _ _ :=
    System.Run.acts (forever_again hq) rfl hserved
  have hrecv : (SubscriptionChannel.new.push event (by decide)).react (.recv event) .new :=
    ⟨rfl, rfl, rfl⟩
  exact ⟨_, htask.env hrecv⟩

def utcCodec : WitCodec where
  parseFromRfc3339 s := if s = "1970-01-01T00:00:00Z" then .ok ⟨0⟩ else .error "bad time"
  eventId s := if s.isEmpty then .error "empty id" else .ok ⟨s⟩
  jsonFromStr s := if s = "null" then .ok .null else .error "bad payload"

def witOrder (tenant : TenantCtx) : WitEventEnvelope where
  id := "evt-1"
  topic := "orders"
  type := "created"
  source := "shop"
  tenant := tenant
  subject := none
  time := "1970-01-01T00:00:00Z"
  correlationId := none
  payloadJson := "null"
  metadata := .empty

def order (tenant : TenantCtx) : EventEnvelope where
  id := ⟨"evt-1"⟩
  topic := "orders"
  type := "created"
  source := "shop"
  tenant := tenant
  subject := none
  time := ⟨0⟩
  correlationId := none
  payload := .null
  metadata := .empty

theorem witOrder_decodes (tenant : TenantCtx) :
    fromWitEvent utcCodec (witOrder tenant) = .ok (order tenant) := rfl

def orderTask : PollingTask := ⟨"sub-1", .fromMillis 1000, .default⟩

def laterOrder : EventEnvelope := { order tenantA with id := ⟨"evt-2"⟩ }

def laterWit : WitEventEnvelope := { witOrder tenantA with id := "evt-2" }

/-- Two events are acknowledged, the second without success, and the consumer takes the first and
goes; a third event cannot be enqueued. -/
def droppedDelivery : PollLog := [
  .act () (orderTask.polled (.ok (some (witOrder tenantA)))),
  .act () (sending (order tenantA) (.ok ())), .act () (orderTask.acking (order tenantA) (.ok ())),
  .act () (orderTask.polled (.ok none)), .act () ⟨.sleep (.fromMillis 10), ()⟩,
  .act () (orderTask.polled (.ok (some laterWit))), .act () (sending laterOrder (.ok ())),
  .env (.recv (order tenantA)), .act () (orderTask.acking laterOrder (.error "closed")), .env .drop,
  .act () (orderTask.polled (.ok (some (witOrder tenantB)))),
  .act () (sending (order tenantB) (.error (order tenantB)))]

theorem droppedDelivery_run :
    ∃ c, (pollSystem utcCodec orderTask).Run spawned droppedDelivery c := by
  have h₀ : (pollSystem utcCodec orderTask).Run spawned [] _ := .start
  have h₁ := h₀.acted () (orderTask.polled (.ok (some (witOrder tenantA)))) rfl rfl
  have h₂ := h₁.acted () (sending (order tenantA) (.ok ())) rfl ⟨by decide, rfl, rfl⟩
  have h₃ := h₂.acted () (orderTask.acking (order tenantA) (.ok ())) rfl rfl
  have h₄ := h₃.acted () (orderTask.polled (.ok none)) rfl rfl
  have h₅ := h₄.acted () ⟨.sleep (.fromMillis 10), ()⟩ rfl rfl
  have h₆ := h₅.acted () (orderTask.polled (.ok (some laterWit))) rfl rfl
  have h₇ := h₆.acted () (sending laterOrder (.ok ())) rfl ⟨by decide, rfl, rfl⟩
  have h₈ := h₇.reacted (.recv (order tenantA))
    (s := SubscriptionChannel.new.push laterOrder (by decide)) ⟨rfl, rfl, rfl⟩
  have h₉ := h₈.acted () (orderTask.acking laterOrder (.error "closed")) rfl rfl
  have h₁₀ := h₉.reacted .drop (s := ⟨[], Nat.zero_le _, false⟩) ⟨rfl, rfl⟩
  have h₁₁ := h₁₀.acted () (orderTask.polled (.ok (some (witOrder tenantB)))) rfl rfl
  have h₁₂ := h₁₁.acted () (sending (order tenantB) (.error (order tenantB))) rfl ⟨rfl, rfl⟩
  exact ⟨_, h₁₂⟩

theorem polling_delivery_dropped :
    let h := localHistory () droppedDelivery
    [order tenantA] <+: decodable utcCodec (responses h) ∧
    ["evt-1", "evt-2"] <+: (enqueued h).map (fun event => event.id.raw) ∧
    ∀ before event back after, h = before ++ sending event (.error back) :: after → after = [] := by
  obtain ⟨c, hr⟩ := droppedDelivery_run
  obtain ⟨hreceived, hacked, -, hfailed⟩ := polling_delivery hr
  exact ⟨hreceived, (hacked rfl).1, hfailed⟩

theorem mem_decodable {event : EventEnvelope}
    {rs : List (Except String (Option WitEventEnvelope))} (hmem : event ∈ decodable codec rs) :
    ∃ wit, .ok (some wit) ∈ rs ∧ fromWitEvent codec wit = .ok event := by
  fun_induction decodable codec rs with
  | case1 => cases hmem
  | case2 => cases hmem
  | case3 rest ih =>
    obtain ⟨wit, hwit, hdec⟩ := ih hmem
    exact ⟨wit, List.mem_cons_of_mem _ hwit, hdec⟩
  | case4 wit rest first hdec ih =>
    rcases List.mem_cons.mp hmem with rfl | hmem
    · exact ⟨wit, List.mem_cons_self, hdec⟩
    · obtain ⟨wit', hwit, hdec'⟩ := ih hmem
      exact ⟨wit', List.mem_cons_of_mem _ hwit, hdec'⟩
  | case5 => cases hmem

/-- Every event obtained from the subscription has the tenant id that asked for it. -/
def DeliversOnlyTenant (codec : WitCodec) (bus : EventBus)
    (runner : ProviderInstance → RunnerBrokerProvider) (topic : String) (tenant : TenantCtx)
    (options : SubscriptionOptions) : Prop :=
  ∀ h task log c, Runs (bus.subscribe runner topic tenant options) h (.ret (.ok task)) →
    (pollSystem codec task).Run spawned log c →
    ∀ event ∈ received log, event.tenant.tenant = tenant.tenant

section Tenants

variable {bus : EventBus} {runner : ProviderInstance → RunnerBrokerProvider} {topic : String}
  {tenant : TenantCtx} {options : SubscriptionOptions} {h₀ : RunnerHistory}

theorem subscribe_allowed
    (hs : Runs (bus.subscribe runner topic tenant options) h₀ (.ret (.ok task))) :
    bus.acl.allowSubscribe tenant topic = .ok () := by
  cases hacl : bus.acl.allowSubscribe tenant topic with
  | ok u => rfl
  | error err =>
    rw [EventBus.subscribe, hacl] at hs
    obtain ⟨_, hq⟩ := runs_ret.mp hs
    cases hq

/-- A subscription yields what the client returns for it, with the tenants the
client put there: the tenant that subscribed decides only whether the ACL lets
it, and nothing filters the events afterwards. -/
theorem received_from_client {log : PollLog} {c : Config Unit SubscriptionChannel (RunnerProg Bool)}
    (hs : Runs (bus.subscribe runner topic tenant options) h₀ (.ret (.ok task)))
    (hr : (pollSystem codec task).Run spawned log c) :
    let returned := responses (localHistory () log)
    (∀ event ∈ received log, ∃ wit, .ok (some wit) ∈ returned ∧
      fromWitEvent codec wit = .ok event ∧ event.tenant = wit.tenant) ∧
    ((∀ wit, .ok (some wit) ∈ returned → wit.tenant.tenant = tenant.tenant) →
      ∀ event ∈ received log, event.tenant.tenant = tenant.tenant) ∧
    ∀ other, bus.acl.allowSubscribe other topic = .ok () →
      bus.subscribe runner topic other options = bus.subscribe runner topic tenant options := by
  intro returned
  have hclient (event : EventEnvelope) (hmem : event ∈ received log) :
      ∃ wit, .ok (some wit) ∈ returned ∧ fromWitEvent codec wit = .ok event ∧
        event.tenant = wit.tenant := by
    obtain ⟨wit, hwit, hdec⟩ := mem_decodable ((received_decodable hr).subset hmem)
    exact ⟨wit, hwit, hdec, fromWitEvent_tenant hdec⟩
  refine ⟨hclient, fun honly event hmem => ?_, fun other hother => ?_⟩
  · obtain ⟨wit, hwit, _, htenant⟩ := hclient event hmem
    rw [htenant]
    exact honly wit hwit
  · rw [EventBus.subscribe, EventBus.subscribe, hother, subscribe_allowed hs]
    rfl

end Tenants

def orderRunner : ProviderInstance → RunnerBrokerProvider :=
  fun _ => .new ⟨"broker", .broker, .nats, .atLeastOnce, .none, none, []⟩ ["*"]

theorem order_subscribed : Runs (wildcardBus.subscribe orderRunner "orders" tenantA .default)
    [⟨.subscribe "orders" SubscriptionOptions.default.toWit, .ok "sub-1"⟩]
    (.ret (.ok orderTask)) :=
  .step rfl (.refl _)

theorem received_from_client_order :
    ∃ wit, fromWitEvent utcCodec wit = .ok (order tenantB) ∧
      (order tenantB).tenant = wit.tenant := by
  obtain ⟨c, hr⟩ := oneDelivery_run orderTask (witOrder_decodes tenantB)
  obtain ⟨wit, _, hdec, htenant⟩ := (received_from_client order_subscribed hr).1 (order tenantB)
    List.mem_cons_self
  exact ⟨wit, hdec, htenant⟩

/-- Tenant `tenant-a` receives an event of `tenant-b`. -/
theorem subscription_leaks_tenant :
    ¬ DeliversOnlyTenant utcCodec wildcardBus orderRunner "orders" tenantA .default := by
  intro honly
  obtain ⟨c, hr⟩ := oneDelivery_run orderTask (witOrder_decodes tenantB)
  have := honly _ _ _ _ order_subscribed hr (order tenantB) List.mem_cons_self
  exact absurd this (by decide)

end GreenticEvents
