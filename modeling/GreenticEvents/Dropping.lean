import GreenticEvents.Effects.Retry
import GreenticEvents.Polling

/-!
# Dropped subscriptions

The polling task learns that its handle was dropped when a send fails; an empty
poll sends nothing.
-/

namespace GreenticEvents
open Effects Prog

/-- The program of the task between two operations. -/
inductive TaskPoint (task : PollingTask) : RunnerProg Bool → Prop
  | ended : TaskPoint task (.ret false)
  | again : TaskPoint task (.ret true)
  | asleep : TaskPoint task (.ask (.sleep (.fromMillis 10)) fun _ => .ret true)
  | acking (id : String) :
      TaskPoint task (.ask (.ackEvent task.subscriptionId id) fun _ => .ret true)
  | sending (event : EventEnvelope) {k : Except EventEnvelope Unit → RunnerProg Bool}
      (refused : ∀ back, k (.error back) = .ret false) (sent : TaskPoint task (k (.ok ()))) :
      TaskPoint task (.ask (.send event) k)

/-- No send stands between the task and its next poll. -/
def pollsAgain : RunnerProg Bool → Bool
  | .ret continues => continues
  | .ask (.send _) _ => false
  | .ask _ _ => true

variable {codec : WitCodec} {task : PollingTask}

/-- What the task does with the client's answer to a poll. -/
theorem poll_next (codec : WitCodec) (task : PollingTask) :
    ∃ k, (task.poll codec).next = some ⟨.nextEvent task.subscriptionId task.timeout, k⟩ ∧
      (∀ response, TaskPoint task (k response)) ∧
      (∀ response, response ≠ .ok none → pollsAgain (k response) = false) ∧
      k (.ok none) = .ask (.sleep (.fromMillis 10)) fun _ => .ret true := by
  rw [PollingTask.poll, RunnerProg.nextEvent, perform_bind]
  refine ⟨_, rfl, ?_, ?_, rfl⟩
  · rintro (err | wit)
    · exact .ended
    · cases wit with
      | none => exact .asleep
      | some wit =>
        cases hdec : fromWitEvent codec wit with
        | error err =>
          simp only [hdec]
          exact .ended
        | ok event =>
          simp only [hdec]
          apply TaskPoint.sending event fun _ => rfl
          dsimp only
          split_ifs
          · exact .acking _
          · exact .again
  · rintro (err | wit) hresponse
    · rfl
    · cases wit with
      | none => exact absurd rfl hresponse
      | some wit => cases hdec : fromWitEvent codec wit <;> simp only [hdec] <;> rfl

theorem TaskPoint.step {p : RunnerProg Bool} (hp : TaskPoint task p) {o : RunnerOp}
    {k : o.Ans → RunnerProg Bool} (asks : forever (task.poll codec) p = some ⟨o, k⟩) (a : o.Ans) :
    TaskPoint task (k a) := by
  cases hp with
  | ended => cases asks
  | again =>
    obtain ⟨k', hnext, hpoint, -⟩ := poll_next codec task
    cases hnext.symm.trans asks
    exact hpoint a
  | asleep | acking =>
    cases asks
    exact .again
  | sending event refused sent =>
    cases asks
    cases a with
    | error back => exact refused back ▸ .ended
    | ok u => exact sent

theorem taskPoint {h : RunnerHistory} {p q : RunnerProg Bool} (hp : TaskPoint task p)
    (hr : After (forever (task.poll codec)) p h q) : TaskPoint task q :=
  hr.invariant hp fun _ _ _ hpoint asks => hpoint.step asks

abbrev PollResponse := Except String (Option WitEventEnvelope)

/-- The client's answers, oldest first. A poll stands in a log where it is started:
the answer does not depend on the channel. -/
def answered (log : PollLog) : List PollResponse := responses (localHistory () log)

theorem answered_append (log log' : PollLog) :
    answered (log ++ log') = answered log ++ answered log' := by
  rw [answered, localHistory_append]
  exact List.filterMap_append

/-- The polls since the drop: the first one, unless it was empty, ended the task or left
it before a send. -/
def PollsSince (again : Bool) (p : RunnerProg Bool) : List PollResponse → Prop
  | [] => pollsAgain p = true → again = true
  | first :: rest => again = true ∧ (first ≠ .ok none → rest = [] ∧ pollsAgain p = false)

/-- What a step of the task does when the receiver is gone. -/
theorem TaskPoint.step_dropped {p : RunnerProg Bool} (hp : TaskPoint task p) {o : RunnerOp}
    {k : o.Ans → RunnerProg Bool} {a : o.Ans} {s s' : SubscriptionChannel}
    (hs : s.receiver = false) (asks : forever (task.poll codec) p = some ⟨o, k⟩)
    (answers : s.handle ⟨o, a⟩ s') :
    s'.receiver = false ∧
      ((responses [⟨o, a⟩] = [] ∧ pollsAgain (k a) = pollsAgain p) ∨
        ∃ response, responses [⟨o, a⟩] = [response] ∧ pollsAgain p = true ∧
          (response ≠ .ok none → pollsAgain (k a) = false)) := by
  cases hp with
  | ended => cases asks
  | again =>
    -- a poll is the only step that is answered by the client
    obtain ⟨k', hnext, -, hstops, -⟩ := poll_next codec task
    cases hnext.symm.trans asks
    cases answers
    exact ⟨hs, .inr ⟨a, rfl, rfl, hstops a⟩⟩
  | asleep | acking =>
    cases asks
    cases answers
    exact ⟨hs, .inl ⟨rfl, rfl⟩⟩
  | sending event refused sent =>
    cases asks
    cases a with
    | error back =>
      obtain ⟨-, rfl⟩ := answers
      refine ⟨hs, .inl ⟨rfl, ?_⟩⟩
      rw [refused back]
      rfl
    | ok u =>
      obtain ⟨-, halive, -⟩ := answers
      exact absurd (hs.symm.trans halive) Bool.false_ne_true

theorem PollsSince.step {again : Bool} {p q : RunnerProg Bool} {polled since : List PollResponse}
    (h : PollsSince again p since)
    (hstep : (polled = [] ∧ pollsAgain q = pollsAgain p) ∨
      ∃ response, polled = [response] ∧ pollsAgain p = true ∧
        (response ≠ .ok none → pollsAgain q = false)) :
    PollsSince again q (since ++ polled) := by
  rcases hstep with ⟨rfl, hsame⟩ | ⟨response, rfl, hagain, hstops⟩
  · rw [List.append_nil]
    cases since <;> simpa only [PollsSince, hsame] using h
  · cases since with
    | nil => exact ⟨h hagain, fun hne => ⟨rfl, hstops hne⟩⟩
    | cons first rest =>
      -- another poll only comes after an empty one
      refine ⟨h.1, fun hne => ?_⟩
      have hnot := (h.2 hne).2
      exact absurd (hnot.symm.trans hagain) Bool.false_ne_true

variable {c c' : Config Unit SubscriptionChannel (RunnerProg Bool)} {log : PollLog}

theorem dropped_run (hr : (pollSystem codec task).Run c log c')
    (hpoint : TaskPoint task (c.proc ())) (hdropped : c.shared.receiver = false) :
    c'.shared.receiver = false ∧
      PollsSince (pollsAgain (c.proc ())) (c'.proc ()) (answered log) := by
  induction hr with
  | start => exact ⟨hdropped, id⟩
  | @act log c' i o k a s run asks answers ih =>
    obtain ⟨hs, hsince⟩ := ih
    have hhere := taskPoint hpoint (run.local ())
    obtain ⟨hs', hstep⟩ := hhere.step_dropped hs asks answers
    refine ⟨hs', ?_⟩
    have hlog : answered (log ++ [.act i ⟨o, a⟩]) = answered log ++ responses [⟨o, a⟩] :=
      answered_append ..
    have hproc : Function.update c'.proc i (k a) () = k a := Function.update_self ..
    rw [hlog]
    exact hproc ▸ hsince.step hstep
  | @env log c' e s run reacts ih =>
    obtain ⟨hs, hsince⟩ := ih
    have hlog : answered (log ++ [.env e]) = answered log := by
      rw [answered_append]
      exact List.append_nil _
    rw [hlog]
    refine ⟨?_, hsince⟩
    cases e with
    | recv event => exact absurd (hs.symm.trans reacts.1) Bool.false_ne_true
    | drop => exact reacts.1

/-- Whatever else happens, at most one poll is started after the drop. -/
def StopsPolling (codec : WitCodec) (task : PollingTask) (answers : ℕ → PollResponse)
    (before : PollLog) : Prop :=
  ∀ after c, (pollSystem codec task).Run spawned (before ++ .env .drop :: after) c →
    Begins (answered (before ++ .env .drop :: after)) answers → (answered after).length ≤ 1

theorem answered_drop (before after : PollLog) :
    answered (before ++ .env .drop :: after) = answered before ++ answered after :=
  answered_append before (.env .drop :: after)

variable (codec) in
/-- Without a send on the way, the task comes to its next poll. -/
theorem TaskPoint.reaches {p : RunnerProg Bool} (hp : TaskPoint task p)
    (hagain : pollsAgain p = true) (s : SubscriptionChannel) :
    ∃ h, After (forever (task.poll codec)) p h (.ret true) ∧ responses h = [] ∧
      (pollSystem codec task).Served () s h s := by
  cases hp with
  | ended => cases hagain
  | again => exact ⟨[], .refl _, rfl, .nil s⟩
  | asleep =>
    exact ⟨[⟨.sleep (.fromMillis 10), ()⟩], .step rfl (.refl _), rfl, .cons rfl (.nil s)⟩
  | acking id =>
    exact ⟨[⟨.ackEvent task.subscriptionId id, .ok ()⟩], .step rfl (.refl _), rfl,
      .cons rfl (.nil s)⟩
  | sending => cases hagain

def idlePolls (task : PollingTask) (response : PollResponse) : RunnerHistory :=
  [task.polled (.ok none), ⟨.sleep (.fromMillis 10), ()⟩, task.polled response]

theorem idlePolls_after (codec : WitCodec) (task : PollingTask) (response : PollResponse) :
    ∃ q, After (forever (task.poll codec)) (.ret true) (idlePolls task response) q := by
  obtain ⟨k, hnext, -, -, hidle⟩ := poll_next codec task
  refine ⟨k response, .step hnext ?_⟩
  rw [hidle]
  exact .step rfl (.step hnext (.refl _))

theorem idlePolls_served (response : PollResponse) (s : SubscriptionChannel) :
    (pollSystem codec task).Served () s (idlePolls task response) s :=
  .cons rfl (.cons rfl (.cons rfl (.nil s)))

theorem answered_acts (h : RunnerHistory) :
    answered (h.map (.act ()) : PollLog) = responses h := by
  have hlocal : localHistory () (h.map (.act ()) : PollLog) = h := by
    induction h with
    | nil => rfl
    | cons e h ih =>
      rw [List.map_cons, localHistory, if_pos rfl, ih]
  rw [answered, hlocal]

/-- After an empty poll the task polls again, although nobody listens. -/
theorem polls_twice {before : PollLog} (hr : (pollSystem codec task).Run spawned before c)
    (hagain : pollsAgain (c.proc ()) = true) (response : PollResponse) :
    ∃ after c', (pollSystem codec task).Run spawned (before ++ .env .drop :: after) c' ∧
      answered after = [.ok none, response] := by
  let dropped : SubscriptionChannel := ⟨[], Nat.zero_le _, false⟩
  have hdrop : (pollSystem codec task).Run spawned (before ++ [.env .drop]) ⟨dropped, c.proc⟩ :=
    hr.env ⟨rfl, rfl⟩
  obtain ⟨quiet, hquiet, hnone, hserved⟩ :=
    (taskPoint .again (hr.local ())).reaches codec hagain dropped
  obtain ⟨q, hidle⟩ := idlePolls_after codec task response
  have hfirst := hdrop.trans (System.Run.acts hquiet rfl hserved)
  have hall := hfirst.trans
    (System.Run.acts hidle (Function.update_self ..) (idlePolls_served response dropped))
  rw [List.append_assoc, ← List.append_cons] at hall
  refine ⟨_, _, hall, ?_⟩
  rw [answered_append, answered_acts, answered_acts, hnone]
  rfl

/-- The task starts at most one more poll exactly when it is past its last one, or about to
send, at the drop, or when its next poll brings an event or an error. -/
theorem stopsPolling_iff {before : PollLog} {answers : ℕ → PollResponse}
    (hr : (pollSystem codec task).Run spawned before c) (ha : Begins (answered before) answers) :
    StopsPolling codec task answers before ↔
      (pollsAgain (c.proc ()) = true → answers (answered before).length ≠ .ok none) := by
  constructor
  · intro hstops hagain hidle
    -- an idle poll after the drop leads to the next one
    obtain ⟨after, c', hr', hafter⟩ :=
      polls_twice hr hagain (answers ((answered before).length + 1))
    have hbegins : Begins (answered (before ++ .env .drop :: after)) answers := by
      rw [answered_drop, begins_append, hafter]
      refine ⟨ha, begins_cons.mpr ⟨hidle.symm, begins_cons.mpr ⟨rfl, begins_nil _⟩⟩⟩
    have hone := hstops after c' hr' hbegins
    rw [hafter] at hone
    exact absurd hone (Nat.not_succ_le_self 1)
  · intro hcond after c' hr' ha'
    rw [List.append_cons] at hr'
    obtain ⟨c₁, hdrop, hafter⟩ := hr'.split
    obtain ⟨c₂, hbefore, hgone, hproc⟩ := hdrop.last_env
    have hsame : c₁.proc () = c.proc () := by
      rw [hproc]
      exact (hbefore.local ()).unique (hr.local ())
    have hpoint : TaskPoint task (c₁.proc ()) := hsame ▸ taskPoint .again (hr.local ())
    obtain ⟨-, hsince⟩ := dropped_run hafter hpoint hgone.1
    rw [hsame] at hsince
    rw [answered_drop, begins_append] at ha'
    cases hpolls : answered after with
    | nil => exact Nat.zero_le 1
    | cons first rest =>
      rw [hpolls] at hsince ha'
      obtain ⟨hagain, hstops⟩ := hsince
      have hfirst := (begins_cons.mp ha'.2).1
      have hne : first ≠ .ok none := hfirst ▸ hcond hagain
      rw [(hstops hne).1]
      exact le_rfl

def busyBroker : ℕ → PollResponse := fun _ => .ok (some (witOrder tenantA))

def idleBroker : ℕ → PollResponse := fun _ => .ok none

/-- Dropped after the first event, the task stops at the second. -/
theorem stopsPolling_iff_busy : StopsPolling utcCodec orderTask busyBroker
    (oneDelivery orderTask (witOrder tenantA) (order tenantA)) := by
  obtain ⟨c, hr⟩ := oneDelivery_run orderTask (witOrder_decodes tenantA)
  have ha : Begins (answered (oneDelivery orderTask (witOrder tenantA) (order tenantA)))
      busyBroker := begins_cons.mpr ⟨rfl, begins_nil _⟩
  refine (stopsPolling_iff hr ha).mpr fun _ hidle => ?_
  cases hidle

/-- An idle broker is polled again after the drop. -/
theorem idle_broker_polled :
    ¬ ∀ (codec : WitCodec) (task : PollingTask) (answers : ℕ → PollResponse) (before : PollLog)
        (c : Config Unit SubscriptionChannel (RunnerProg Bool)),
      (pollSystem codec task).Run spawned before c → Begins (answered before) answers →
      StopsPolling codec task answers before := by
  intro hall
  have hstart : (pollSystem utcCodec orderTask).Run spawned [] spawned := .start
  have hstops := hall _ _ idleBroker _ _ hstart (begins_nil _)
  obtain ⟨after, c, hr, hafter⟩ := polls_twice hstart rfl (.ok none)
  have hbegins : Begins (answered ([] ++ .env .drop :: after)) idleBroker := by
    rw [answered_drop, hafter]
    exact begins_cons.mpr ⟨rfl, begins_cons.mpr ⟨rfl, begins_nil _⟩⟩
  have hone := hstops after c hr hbegins
  rw [hafter] at hone
  exact absurd hone (Nat.not_succ_le_self 1)

end GreenticEvents
