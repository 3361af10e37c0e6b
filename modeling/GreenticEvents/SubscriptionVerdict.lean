import GreenticEvents.SubscriptionCheck

namespace GreenticEvents.SubscriptionCheck
open Data Effects Prog

variable {e : EventEnvelope} {broker : EventProviderSpec} {pattern : String}

theorem isBlank_sampleTopic (pattern : String) :
    isBlank (sampleTopic pattern) = isBlank pattern := by
  rw [isBlank, sampleTopic_toList, List.all_flatMap, isBlank]
  congr 1
  funext c
  split_ifs with hc
  · subst hc
    decide
  · exact (List.all_cons ..).trans (Bool.and_true _)

theorem subscriptionTopic_routed (hfirst : broker.capabilities.topics.head? = some pattern) :
    (dryRunBus broker 0).providerForTopic (subscriptionTopic broker) =
      .ok (registrationFromSpec broker 0) := by
  have htopic : subscriptionTopic broker = sampleTopic pattern := by
    rw [subscriptionTopic, hfirst]
  rw [htopic]
  exact providerForTopic_eq_ok.mpr
    ⟨[], [], rfl, ⟨pattern, List.mem_of_head? hfirst, matchesPattern_sampleTopic pattern⟩, by simp⟩

theorem dryRunBus_allows (broker : EventProviderSpec) (tenant : TenantCtx) (topic : String) :
    (dryRunBus broker 0).acl.allowPublish tenant topic = .ok () ∧
      (dryRunBus broker 0).acl.allowSubscribe tenant topic = .ok () :=
  ⟨TopicAcl.check_ok.mpr rfl, TopicAcl.check_ok.mpr rfl⟩

/-- What the check still does at its last wait; the next ones go back to its first step. -/
def awaiting : CheckProg (Except String Unit) := do
  return judgeReceived (← CheckProg.nextEvent)

def published : CheckProg (Except String Unit) := do
  CheckProg.bus (.record .eventsOut)
  awaiting

def publishing (topic : String) : CheckProg (Except String Unit) := do
  CheckProg.bus .aclCheck
  CheckProg.bus .routing
  CheckProg.bus (.record .eventsIn)
  CheckProg.provider (.push (subscriptionEvent topic))
  CheckProg.provider (.broadcast (subscriptionEvent topic))
  published

def subscribing (topic : String) : CheckProg (Except String Unit) := do
  CheckProg.provider (.openReceiver ())
  CheckProg.provider (.spawn ())
  publishing topic

theorem tryBroker_routed (hfirst : broker.capabilities.topics.head? = some pattern) :
    tryBroker broker = subscribing (subscriptionTopic broker) := by
  have hroute := subscriptionTopic_routed hfirst
  have hacl := dryRunBus_allows broker checkTenant (subscriptionTopic broker)
  unfold tryBroker EventBus.subscribeDryRun EventBus.subscribedProvider EventBus.publish
  simp only [hacl.2, hroute, subscriptionEvent, hacl.1]
  rfl

theorem tryBroker_unrouted (hnone : broker.capabilities.topics.head? = none) :
    tryBroker broker = .ret (.error "no provider registered for topic greentic.events.test") := by
  have htopics : broker.capabilities.topics = [] := List.head?_eq_none_iff.mp hnone
  have hroute : (dryRunBus broker 0).providerForTopic "greentic.events.test" =
      .error (.noProvider "greentic.events.test") := by
    have hbus : (dryRunBus broker 0).providers = [registrationFromSpec broker 0] := rfl
    rw [EventBus.providerForTopic, hbus]
    simp [registrationFromSpec, htopics]
  have hacl := dryRunBus_allows broker checkTenant "greentic.events.test"
  have htopic : subscriptionTopic broker = "greentic.events.test" := by
    rw [subscriptionTopic, hnone]
  unfold tryBroker EventBus.subscribeDryRun EventBus.subscribedProvider
  simp only [htopic, hacl.2, hroute]
  rfl

/-- The task between the broadcast and the wait for the next event. -/
inductive Fetched (e : EventEnvelope) (s : DryRunState Unit) : DryRunProg Unit Bool → Prop
  | unread (here : s.feed.passed () = some 0) (empty : (s.channel ()).queue = []) :
      Fetched e s (.ret true)
  | held (here : s.feed.passed () = some 1) (empty : (s.channel ()).queue = []) :
      Fetched e s (DryRun.holding () e)
  | queued (here : s.feed.passed () = some 1) (one : (s.channel ()).queue = [e]) :
      Fetched e s (.ret true)

/-- Operations that neither the subscription nor its task notices. -/
def Quiet : CheckOp → Prop
  | .bus .aclCheck | .bus .routing | .bus (.record _) | .provider (.push _) => True
  | _ => False

/-- The check is about to broadcast `e`. -/
inductive Publishing (e : EventEnvelope) : CheckProg (Except String Unit) → Prop
  | quiet {o : CheckOp} {f : o.Ans → CheckProg (Except String Unit)} (unheard : Quiet o)
      (rest : ∀ a, Publishing e (f a)) : Publishing e (.ask o f)
  | broadcast : Publishing e (.ask (.provider (.broadcast e)) fun _ => published)

theorem publishing_publishing (topic : String) :
    Publishing (subscriptionEvent topic) (publishing topic) :=
  .quiet trivial fun _ => .quiet trivial fun _ => .quiet trivial fun _ => .quiet trivial fun _ =>
    .broadcast

/-- Nothing is in the channel or was broadcast. -/
structure Calm (s : CheckState) : Prop where
  empty : s.provider.channel () = .new
  sent : s.provider.feed.sent = []
  dropped : s.dropped = false

inductive Stage (topic : String) (s : CheckState) :
    CheckProg (Except String Unit) → Option (DryRunProg Unit Bool) → Prop
  | opening (calm : Calm s) (unspawned : s.provider.spawned () = false) :
      Stage topic s (subscribing topic) (some (.ret true))
  | spawning (calm : Calm s) (unspawned : s.provider.spawned () = false)
      (here : s.provider.feed.passed () = some 0) :
      Stage topic s (do CheckProg.provider (.spawn ()); publishing topic) (some (.ret true))
  | publishing {p : CheckProg (Except String Unit)} (calm : Calm s)
      (spawned : s.provider.spawned () = true) (here : s.provider.feed.passed () = some 0)
      (left : Publishing (subscriptionEvent topic) p) : Stage topic s p (some (.ret true))
  | published {p : CheckProg (Except String Unit)} {task : DryRunProg Unit Bool}
      (left : p = published ∨ p = awaiting) (spawned : s.provider.spawned () = true)
      (sent : s.provider.feed.sent = [subscriptionEvent topic])
      (alive : (s.provider.channel ()).receiver = true) (dropped : s.dropped = false)
      (fetched : Fetched (subscriptionEvent topic) s.provider task) : Stage topic s p (some task)
  | returned {r : Except String Unit} {task : Option (DryRunProg Unit Bool)} :
      Stage topic s (.ret r) task

variable {topic : String} {s s' : CheckState} {p : CheckProg (Except String Unit)}
  {task : Option (DryRunProg Unit Bool)}

/-- A quiet step leaves what the subscription and its task act on. -/
theorem Quiet.unchanged {o : CheckOp} {a : o.Ans} (ho : Quiet o) (hs : s.handle ⟨o, a⟩ s') :
    s'.provider.feed = s.provider.feed ∧ s'.provider.channel = s.provider.channel ∧
      s'.provider.spawned = s.provider.spawned ∧ s'.dropped = s.dropped := by
  cases o with
  | bus o =>
    obtain ⟨bus, -, rfl⟩ := hs
    exact ⟨rfl, rfl, rfl, rfl⟩
  | provider o =>
    cases o with
    | push e =>
      obtain ⟨provider, rfl, rfl⟩ := hs
      exact ⟨rfl, rfl, rfl, rfl⟩
    | _ => exact ho.elim
  | next | drop => exact ho.elim

theorem Quiet.answered {o : CheckOp} (ho : Quiet o) (s : CheckState) :
    ∃ (a : o.Ans) (s' : CheckState), s.handle ⟨o, a⟩ s' := by
  cases o with
  | bus o =>
    cases o with
    | aclCheck | routing => exact ⟨(), s, s.bus, rfl, rfl⟩
    | record m => exact ⟨(), _, _, rfl, rfl⟩
    | _ => exact ho.elim
  | provider o =>
    cases o with
    | push e => exact ⟨(), _, _, rfl, rfl⟩
    | _ => exact ho.elim
  | next | drop => exact ho.elim

theorem Fetched.received {provider : DryRunState Unit} {task : DryRunProg Unit Bool}
    {received : EventEnvelope} (hf : Fetched e s.provider task)
    (hr : s.provider.react ((), .recv received) provider) : received = e := by
  obtain ⟨-, channel, ⟨-, -, hqueue⟩, -⟩ := hr
  cases hf with
  | unread here empty | held here empty =>
    rw [empty] at hqueue
    cases hqueue
  | queued here one =>
    rw [one] at hqueue
    exact (List.cons.inj hqueue).1.symm

/-- A step of the check. -/
theorem Stage.check_step {o : CheckOp} {f : o.Ans → CheckProg (Except String Unit)} {a : o.Ans}
    (hs : Stage topic s p task) (asks : p.next = some ⟨o, f⟩) (answers : s.handle ⟨o, a⟩ s') :
    Stage topic s' (f a) task := by
  cases hs with
  | opening calm unspawned =>
    cases asks
    obtain ⟨provider, rfl, rfl⟩ := answers
    refine .spawning ⟨calm.empty, calm.sent, calm.dropped⟩ unspawned ?_
    show Function.update s.provider.feed.passed () (some s.provider.feed.sent.length) () = some 0
    rw [Function.update_self, calm.sent]
    rfl
  | spawning calm unspawned here =>
    cases asks
    obtain ⟨provider, rfl, rfl⟩ := answers
    have hspawned : Function.update s.provider.spawned () true () = true :=
      Function.update_self ..
    exact .publishing ⟨calm.empty, calm.sent, calm.dropped⟩ hspawned here
      (publishing_publishing topic)
  | publishing calm spawned here left =>
    cases left with
    | broadcast =>
      cases asks
      obtain ⟨provider, rfl, rfl⟩ := answers
      have hqueue : (s.provider.channel ()).queue = [] := by
        rw [calm.empty]
        rfl
      have halive : (s.provider.channel ()).receiver = true := by
        rw [calm.empty]
        rfl
      refine .published (.inl rfl) spawned ?_ halive calm.dropped (.unread here hqueue)
      show s.provider.feed.sent ++ _ = _
      rw [calm.sent, List.nil_append]
    | quiet unheard rest =>
      cases asks
      obtain ⟨hfeed, hchannel, hspawned, hdropped⟩ := unheard.unchanged answers
      refine .publishing ⟨?_, ?_, hdropped.trans calm.dropped⟩ ?_ ?_ (rest a)
      · rw [hchannel, calm.empty]
      · rw [hfeed, calm.sent]
      · rw [hspawned, spawned]
      · rw [hfeed, here]
  | published left spawned sent alive dropped fetched =>
    rcases left with rfl | rfl
    · cases asks
      obtain ⟨bus, -, rfl⟩ := answers
      exact .published (.inr rfl) spawned sent alive dropped fetched
    · cases asks
      cases a with
      -- the task holds its sender until it ends
      | closed => exact absurd (dropped.symm.trans answers.2.1) Bool.false_ne_true
      | elapsed => exact .returned
      | event received => exact .returned
  | returned => cases asks

/-- A task that waits is given nothing before the broadcast. -/
theorem Calm.no_recv {r : Except ℕ EventEnvelope} {provider : DryRunState Unit} (hc : Calm s)
    (here : s.provider.feed.passed () = some 0) : ¬ s.provider.handle ⟨.recv (), r⟩ provider := by
  rintro ⟨-, feed, hrecv, -⟩
  cases hrecv with
  | value here' unread =>
    cases here.symm.trans here'
    rw [hc.sent] at unread
    cases unread
  | lagged here' lost =>
    cases here.symm.trans here'
    rw [hc.sent] at lost
    cases lost

theorem CheckProc.next_task {task : Option (DryRunProg Unit Bool)} {o : CheckOp}
    {f : o.Ans → CheckProc} (asks : (CheckProc.task task).next = some ⟨o, f⟩) (a : o.Ans) :
    ∃ task', f a = .task task' := by
  cases task with
  | none => cases asks
  | some p =>
    rw [CheckProc.next] at asks
    split at asks
    · cases asks
      exact ⟨_, rfl⟩
    · cases asks
      exact ⟨_, rfl⟩

/-- A step of the task. -/
theorem Stage.task_step {o : CheckOp} {f : o.Ans → CheckProc} {a : o.Ans}
    (hs : Stage topic s p task) (asks : (CheckProc.task task).next = some ⟨o, f⟩)
    (answers : s.handle ⟨o, a⟩ s') :
    ∃ task', f a = .task task' ∧ Stage topic s' p task' := by
  cases hs with
  | opening calm unspawned =>
    cases asks
    -- a task that is not spawned receives nothing
    obtain ⟨provider, ⟨hspawned, -⟩, -⟩ := answers
    exact absurd (unspawned.symm.trans hspawned) Bool.false_ne_true
  | spawning calm unspawned =>
    cases asks
    obtain ⟨provider, ⟨hspawned, -⟩, -⟩ := answers
    exact absurd (unspawned.symm.trans hspawned) Bool.false_ne_true
  | publishing calm spawned here left =>
    cases asks
    obtain ⟨provider, hrecv, -⟩ := answers
    exact absurd hrecv (calm.no_recv here)
  | published left spawned sent alive dropped fetched =>
    cases fetched with
    | unread here empty =>
      cases asks
      obtain ⟨provider, ⟨-, feed, hrecv, rfl⟩, rfl⟩ := answers
      cases hrecv with
      | value here' unread =>
        cases here.symm.trans here'
        rw [sent] at unread
        cases unread
        have hpassed : Function.update s.provider.feed.passed () (some 1) () = some 1 :=
          Function.update_self ..
        exact ⟨_, rfl, .published left spawned sent alive dropped (.held hpassed empty)⟩
      | lagged here' lost =>
        rw [sent] at lost
        exact absurd lost (by simp)
    | held here empty =>
      cases asks
      obtain ⟨provider, ⟨channel, hchannel, rfl⟩, rfl⟩ := answers
      cases a with
      | error back => exact absurd (hchannel.1.symm.trans alive) Bool.false_ne_true
      | ok u =>
        obtain ⟨room, -, rfl⟩ := hchannel
        have hchannel : Function.update s.provider.channel ()
            ((s.provider.channel ()).push (subscriptionEvent topic) room) () =
              (s.provider.channel ()).push (subscriptionEvent topic) room :=
          Function.update_self ..
        refine ⟨_, rfl, .published left spawned sent ?_ dropped (.queued here ?_)⟩
        · exact (congrArg SubscriptionChannel.receiver hchannel).trans alive
        · refine (congrArg SubscriptionChannel.queue hchannel).trans ?_
          show (s.provider.channel ()).queue ++ _ = _
          rw [empty, List.nil_append]
    | queued here one =>
      cases asks
      obtain ⟨provider, ⟨-, feed, hrecv, rfl⟩, rfl⟩ := answers
      -- the one event was broadcast and has been fetched
      exfalso
      cases hrecv with
      | value here' unread =>
        cases here.symm.trans here'
        rw [sent] at unread
        cases unread
      | lagged here' lost =>
        rw [sent] at lost
        exact absurd lost (by simp)
  | returned =>
    obtain ⟨task', htask⟩ := CheckProc.next_task asks a
    exact ⟨task', htask, .returned⟩

/-- The task can take a step. -/
def Busy (s : CheckState) (task : Option (DryRunProg Unit Bool)) : Prop :=
  ∃ (o : CheckOp) (f : o.Ans → CheckProc) (a : o.Ans) (s' : CheckState),
    (CheckProc.task task).next = some ⟨o, f⟩ ∧ s.handle ⟨o, a⟩ s'

/-- While the channel is empty the task has something to do. -/
theorem Fetched.busy {task : DryRunProg Unit Bool} (hf : Fetched e s.provider task)
    (spawned : s.provider.spawned () = true) (sent : s.provider.feed.sent = [e])
    (alive : (s.provider.channel ()).receiver = true)
    (hempty : (s.provider.channel ()).queue = []) : Busy s (some task) := by
  cases hf with
  | unread here empty =>
    have hrecv : s.provider.feed.Recv 32 () (.ok e) _ :=
      .value here (by rw [sent]; rfl) (by rw [sent]; exact Nat.le_add_left 1 31)
    exact ⟨.provider (.recv ()), _, .ok e, _, rfl, _, ⟨spawned, _, hrecv, rfl⟩, rfl⟩
  | held here empty =>
    have hroom : (s.provider.channel ()).queue.length < 64 := by
      rw [empty]
      decide
    exact ⟨.provider (.send () e), _, .ok (), _, rfl, _, ⟨_, ⟨hroom, alive, rfl⟩, rfl⟩, rfl⟩
  | queued here one => exact absurd (hempty.symm.trans one) (by simp)

theorem Stage.check_returns {o : CheckOp} {f : o.Ans → CheckProg (Except String Unit)} {a : o.Ans}
    {r : Except String Unit} (hs : Stage topic s p task) (asks : p.next = some ⟨o, f⟩)
    (answers : s.handle ⟨o, a⟩ s') (hret : f a = .ret r) :
    r = judgeReceived (.event (subscriptionEvent topic)) ∨
      r = judgeReceived .elapsed ∧
        (⟨o, a⟩ : Event checkInterface) = ⟨.next, .elapsed⟩ ∧ Busy s task := by
  cases hs with
  | opening | spawning =>
    cases asks
    cases hret
  | publishing calm spawned here left =>
    cases left with
    | broadcast =>
      cases asks
      cases hret
    | quiet unheard rest =>
      cases asks
      have hleft := rest a
      rw [hret] at hleft
      cases hleft
  | published left spawned sent alive dropped fetched =>
    rcases left with rfl | rfl
    · cases asks
      cases hret
    · cases asks
      cases a with
      | closed => exact absurd (dropped.symm.trans answers.2.1) Bool.false_ne_true
      | elapsed =>
        -- the time may run out only while the channel is empty, and then the task is not done
        cases hret
        exact .inr ⟨rfl, rfl, fetched.busy spawned sent alive answers.1⟩
      | event received =>
        obtain ⟨provider, hreceived, rfl⟩ := answers
        rw [fetched.received hreceived] at hret
        cases hret
        exact .inl rfl
  | returned => cases asks

variable {host : E2eHost} {pack : PackLoad} {providers : List EventProviderSpec}
  {log : List (Label CheckActor checkInterface Empty)} {c : Config CheckActor CheckState CheckProc}

/-- What the check comes to if the event arrives in time: whether the pack has a broker whose
first pattern is there and not blank. -/
def subscriptionVerdict (host : E2eHost) (pack : PackLoad) (providers : List EventProviderSpec) :
    Except String Unit :=
  match subscriptionBroker host pack providers with
  | .error err => .error err
  | .ok broker =>
    match broker.capabilities.topics.head? with
    | none => .error "no provider registered for topic greentic.events.test"
    | some pattern =>
      if isBlank pattern then .error "subscription received empty topic" else .ok ()

/-- The time ran out while the task still had something to do. -/
def ElapsedEarly (host : E2eHost) (pack : PackLoad) (providers : List EventProviderSpec)
    (log : List (Label CheckActor checkInterface Empty)) : Prop :=
  ∃ before after c₁, log = before ++ .act .check ⟨.next, .elapsed⟩ :: after ∧
    checkSystem.Run (checkStart host pack providers) before c₁ ∧ checkSystem.Enabled c₁ .forward

theorem ElapsedEarly.snoc (h : ElapsedEarly host pack providers log)
    (l : Label CheckActor checkInterface Empty) :
    ElapsedEarly host pack providers (log ++ [l]) := by
  obtain ⟨before, after, c₁, rfl, hr, hbusy⟩ := h
  exact ⟨before, after ++ [l], c₁, by simp, hr, hbusy⟩

/-- Where the check and the task are, and what the check returned. -/
structure Placed (host : E2eHost) (pack : PackLoad) (providers : List EventProviderSpec)
    (topic : String) (log : List (Label CheckActor checkInterface Empty))
    (c : Config CheckActor CheckState CheckProc) (p : CheckProg (Except String Unit))
    (task : Option (DryRunProg Unit Bool)) : Prop where
  checking : c.proc .check = .check p
  forwarding : c.proc .forward = .task task
  stage : Stage topic c.shared p task
  judged : ∀ r, p = .ret r → r = judgeReceived (.event (subscriptionEvent topic)) ∨
    r = judgeReceived .elapsed ∧ ElapsedEarly host pack providers log

theorem placed (hbroker : subscriptionBroker host pack providers = .ok broker)
    (hfirst : broker.capabilities.topics.head? = some pattern)
    (hr : checkSystem.Run (checkStart host pack providers) log c) :
    ∃ p task, Placed host pack providers (subscriptionTopic broker) log c p task := by
  induction hr with
  | start =>
    have hcheck : checkSubscriptions host pack providers =
        subscribing (subscriptionTopic broker) := by
      rw [checkSubscriptions, hbroker]
      exact tryBroker_routed hfirst
    refine ⟨_, _, congrArg CheckProc.check hcheck, rfl, .opening ⟨rfl, rfl, rfl⟩ rfl, ?_⟩
    intro r hret
    cases hret
  | @act log c i o f a s run asks answers ih =>
    obtain ⟨p, task, hplaced⟩ := ih
    cases i with
    | check =>
      have hnext : CheckProc.next (.check p) = some ⟨o, f⟩ := hplaced.checking ▸ asks
      obtain ⟨⟨o', f'⟩, hask, hsame⟩ := Option.map_eq_some_iff.mp hnext
      cases hsame
      have hself : Function.update c.proc .check (CheckProc.check (f' a)) .check = .check (f' a) :=
        Function.update_self ..
      have hother : Function.update c.proc .check (CheckProc.check (f' a)) .forward = .task task :=
        (Function.update_of_ne (by decide) ..).trans hplaced.forwarding
      refine ⟨_, task, hself, hother, hplaced.stage.check_step hask answers, fun r hret => ?_⟩
      -- the step just made is the last wait, so its log is the one before it
      rcases hplaced.stage.check_returns hask answers hret with hr | ⟨hr, hlast, hbusy⟩
      · exact .inl hr
      · obtain ⟨o', f', a', s', htask, hanswer⟩ := hbusy
        have henabled : checkSystem.Enabled c .forward :=
          System.enabled_of (hplaced.forwarding.symm ▸ htask) hanswer
        exact .inr ⟨hr, log, [], c, by rw [hlast], run, henabled⟩
    | forward =>
      have hnext : CheckProc.next (.task task) = some ⟨o, f⟩ := hplaced.forwarding ▸ asks
      obtain ⟨task', htask, hstage⟩ := hplaced.stage.task_step hnext answers
      have hself : Function.update c.proc .forward (f a) .forward = .task task' :=
        (Function.update_self ..).trans htask
      have hother : Function.update c.proc .forward (f a) .check = .check p :=
        (Function.update_of_ne (by decide) ..).trans hplaced.checking
      refine ⟨p, task', hother, hself, hstage, fun r hret => ?_⟩
      exact (hplaced.judged r hret).imp_right fun h => ⟨h.1, h.2.snoc _⟩
  | @env log c action s run reacts ih => exact action.elim

/-- A check that has nothing to do has returned. -/
theorem Stage.check_goes_on (hs : Stage topic s p task) :
    (∃ r, p = .ret r) ∨ ∃ (o : CheckOp) (f : o.Ans → CheckProg (Except String Unit)) (a : o.Ans)
      (s' : CheckState), p.next = some ⟨o, f⟩ ∧ s.handle ⟨o, a⟩ s' := by
  cases hs with
  | opening => exact .inr ⟨_, _, (), _, rfl, _, rfl, rfl⟩
  | spawning => exact .inr ⟨_, _, (), _, rfl, _, rfl, rfl⟩
  | publishing calm spawned here left =>
    cases left with
    | broadcast => exact .inr ⟨_, _, (), _, rfl, _, rfl, rfl⟩
    | @quiet o f unheard rest =>
      obtain ⟨a, s', answers⟩ := unheard.answered s
      exact .inr ⟨o, f, a, s', rfl, answers⟩
  | published left spawned sent alive dropped fetched =>
    rcases left with rfl | rfl
    · exact .inr ⟨_, _, (), _, rfl, _, rfl, rfl⟩
    · cases hqueue : (s.provider.channel ()).queue with
      | nil =>
        -- an empty channel leaves the time-out, a full one the event
        have hanswer : s.handle ⟨.next, .elapsed⟩ s := ⟨hqueue, dropped, rfl⟩
        exact .inr ⟨.next, _, _, _, rfl, hanswer⟩
      | cons event rest =>
        have hbounded : rest.length ≤ 64 := by
          have := (s.provider.channel ()).bounded
          rw [hqueue, List.length_cons] at this
          omega
        have hreact : (s.provider.channel ()).react (.recv event) ⟨rest, hbounded, true⟩ :=
          ⟨alive, rfl, hqueue⟩
        have hanswer : s.handle ⟨.next, .event event⟩ _ :=
          ⟨_, ⟨spawned, _, hreact, rfl⟩, rfl⟩
        exact .inr ⟨.next, _, _, _, rfl, hanswer⟩
  | returned => exact .inl ⟨_, rfl⟩

/-- A check that has returned at once stays as it is. -/
theorem returned_at_once {r : Except String Unit}
    (hcheck : checkSubscriptions host pack providers = .ret r)
    (hr : checkSystem.Run (checkStart host pack providers) log c) :
    c.proc .check = .check (.ret r) := by
  have hstart : (checkStart host pack providers).proc .check = .check (.ret r) :=
    congrArg CheckProc.check hcheck
  have hafter := hr.local .check
  rw [hstart] at hafter
  generalize c.proc .check = q at hafter
  generalize localHistory CheckActor.check log = h at hafter
  cases hafter with
  | refl => rfl
  | step asks => cases asks

theorem placed_verdict (hbroker : subscriptionBroker host pack providers = .ok broker)
    (hfirst : broker.capabilities.topics.head? = some pattern) :
    judgeReceived (.event (subscriptionEvent (subscriptionTopic broker))) =
      subscriptionVerdict host pack providers := by
  rw [subscriptionVerdict, hbroker]
  simp only [hfirst, judgeReceived, subscriptionEvent, subscriptionTopic, isBlank_sampleTopic]

/-- Without a broker and a pattern of it the check returns at once. -/
theorem check_cases (host : E2eHost) (pack : PackLoad) (providers : List EventProviderSpec) :
    checkSubscriptions host pack providers = .ret (subscriptionVerdict host pack providers) ∨
      ∃ broker pattern, subscriptionBroker host pack providers = .ok broker ∧
        broker.capabilities.topics.head? = some pattern := by
  cases hbroker : subscriptionBroker host pack providers with
  | error err =>
    left
    rw [checkSubscriptions, subscriptionVerdict, hbroker]
    rfl
  | ok broker =>
    cases hfirst : broker.capabilities.topics.head? with
    | none =>
      left
      rw [checkSubscriptions, subscriptionVerdict, hbroker]
      simp only [hfirst]
      exact tryBroker_unrouted hfirst
    | some pattern => exact .inr ⟨broker, pattern, rfl, hfirst⟩

theorem check_verdict (hr : checkSystem.Run (checkStart host pack providers) log c)
    (r : Except String Unit) (hret : c.proc .check = .check (.ret r)) :
    r = subscriptionVerdict host pack providers ∨
      r = .error "subscription receive timed out" ∧ ElapsedEarly host pack providers log := by
  rcases check_cases host pack providers with hat_once | ⟨broker, pattern, hbroker, hfirst⟩
  · cases hret.symm.trans (returned_at_once hat_once hr)
    exact .inl rfl
  · obtain ⟨p, task, hplaced⟩ := placed hbroker hfirst hr
    cases hplaced.checking.symm.trans hret
    rw [← placed_verdict hbroker hfirst]
    exact hplaced.judged r rfl

/-- In every run the check comes to its verdict on the pack, or its time ran out while the task
had something to do; until then it can go on. -/
theorem subscription_check (hr : checkSystem.Run (checkStart host pack providers) log c) :
    (∀ r, c.proc .check = .check (.ret r) → r = subscriptionVerdict host pack providers ∨
      r = .error "subscription receive timed out" ∧ ElapsedEarly host pack providers log) ∧
    ((∃ r, c.proc .check = .check (.ret r)) ∨ checkSystem.Enabled c .check) := by
  refine ⟨check_verdict hr, ?_⟩
  rcases check_cases host pack providers with hat_once | ⟨broker, pattern, hbroker, hfirst⟩
  · exact .inl ⟨_, returned_at_once hat_once hr⟩
  · obtain ⟨p, task, hplaced⟩ := placed hbroker hfirst hr
    rcases hplaced.stage.check_goes_on with ⟨r, rfl⟩ | ⟨o, f, a, s', asks, answers⟩
    · exact .inl ⟨r, hplaced.checking⟩
    · have hnext : CheckProc.next (.check p) = some ⟨o, fun a => .check (f a)⟩ := by
        rw [CheckProc.next, asks]
        rfl
      exact .inr (System.enabled_of (hplaced.checking.symm ▸ hnext) answers)

def shopPack : PackLoad where
  manifestMeta := ⟨"events-shop", "0.1.0", some [shopSpec], []⟩
  flows := []
  files := BTreeMap.empty.insert "fixtures/subscriptions.expected.json" [0x5b, 0x5d]

def shopHost : E2eHost where
  allowWrite := none
  readDir _ := .ok []
  openPack _ := some shopPack
  fromSlice bytes := if bytes = [0x5b, 0x5d] then some (.array []) else none
  debugText s := s
  writeReport _ _ := .ok ()

def shopEvent : EventEnvelope := subscriptionEvent (subscriptionTopic shopSpec)

theorem shop_run (hbroker : subscriptionBroker host pack [shopSpec] = .ok shopSpec) :
    ∃ log c, checkSystem.Run (checkStart host pack [shopSpec]) log c ∧
      c.proc .check = .check (.ret (.ok ())) := by
  have hcheck : checkSubscriptions host pack [shopSpec] =
      subscribing (subscriptionTopic shopSpec) := by
    have hfirst : shopSpec.capabilities.topics.head? = some "shop.*.?" := rfl
    rw [checkSubscriptions, hbroker]
    exact tryBroker_routed hfirst
  have hstart : (checkStart host pack [shopSpec]).proc .check =
      .check (subscribing (subscriptionTopic shopSpec)) :=
    congrArg CheckProc.check hcheck
  have h₀ : checkSystem.Run (checkStart host pack [shopSpec]) [] _ := .start
  have h₁ := h₀.acted .check ⟨.provider (.openReceiver ()), ()⟩ (congrArg CheckProc.next hstart)
    ⟨_, rfl, rfl⟩
  have h₂ := h₁.acted .check ⟨.provider (.spawn ()), ()⟩ rfl ⟨_, rfl, rfl⟩
  have h₃ := h₂.acted .check ⟨.bus .aclCheck, ()⟩ rfl ⟨_, rfl, rfl⟩
  have h₄ := h₃.acted .check ⟨.bus .routing, ()⟩ rfl ⟨_, rfl, rfl⟩
  have h₅ := h₄.acted .check ⟨.bus (.record .eventsIn), ()⟩ rfl ⟨_, rfl, rfl⟩
  have h₆ := h₅.acted .check ⟨.provider (.push shopEvent), ()⟩ rfl ⟨_, rfl, rfl⟩
  have h₇ := h₆.acted .check ⟨.provider (.broadcast shopEvent), ()⟩ rfl ⟨_, rfl, rfl⟩
  have h₈ := h₇.acted .check ⟨.bus (.record .eventsOut), ()⟩ rfl ⟨_, rfl, rfl⟩
  have h₉ := h₈.acted .forward ⟨.provider (.recv ()), .ok shopEvent⟩ rfl
    ⟨_, ⟨rfl, _, .value rfl rfl (Nat.le_add_left 1 31), rfl⟩, rfl⟩
  have h₁₀ := h₉.acted .forward ⟨.provider (.send () shopEvent), .ok ()⟩ rfl
    ⟨_, ⟨_, ⟨Nat.succ_pos 63, rfl, rfl⟩, rfl⟩, rfl⟩
  have h₁₁ := h₁₀.acted .check ⟨.next, .event shopEvent⟩ rfl
    ⟨_, ⟨rfl, .new, ⟨rfl, rfl, rfl⟩, rfl⟩, rfl⟩
  exact ⟨_, _, h₁₁, rfl⟩

theorem subscription_check_shop : ∃ log,
    (.ok () : Except String Unit) = subscriptionVerdict shopHost shopPack [shopSpec] ∨
      ElapsedEarly shopHost shopPack [shopSpec] log := by
  have hbroker : subscriptionBroker shopHost shopPack [shopSpec] = .ok shopSpec := rfl
  obtain ⟨log, c, hr, hret⟩ := shop_run hbroker
  exact ⟨log, ((subscription_check hr).1 _ hret).imp_right And.right⟩

end GreenticEvents.SubscriptionCheck
