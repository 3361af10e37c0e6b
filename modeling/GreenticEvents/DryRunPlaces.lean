import GreenticEvents.DryRun

namespace GreenticEvents.DryRun
open Effects Prog DryRunProvider

variable {π κ : Type} [DecidableEq π] [DecidableEq κ]

abbrev DryRunLabel (π κ : Type) :=
  Label (DryRunActor π κ) (dryRunInterface κ) (κ × ConsumerAction)

def broadcast? : DryRunLabel π κ → Option EventEnvelope
  | .act _ ⟨.broadcast event, _⟩ => some event
  | _ => none

def broadcasts (log : DryRunLog π κ) : List EventEnvelope := log.filterMap broadcast?

def opens (k : κ) : DryRunLabel π κ → Bool
  | .act _ ⟨.openReceiver k', _⟩ => k' = k
  | _ => false

/-- The events broadcast since the receiver of `k` was made. -/
def live (k : κ) : DryRunLog π κ → List EventEnvelope
  | [] => []
  | l :: log => if opens k l then broadcasts log else live k log

def existing? (k : κ) : DryRunLabel π κ → Option (List EventEnvelope)
  | .act (.subscribe k') ⟨.snapshot, events⟩ => if k' = k then some events else none
  | _ => none

/-- The published events that `k` begins with; none if it does not ask for them. -/
def existing (k : κ) (log : DryRunLog π κ) : List EventEnvelope :=
  (log.filterMap (existing? k)).flatten

def enqueued? (k : κ) : DryRunLabel π κ → Option EventEnvelope
  | .act _ ⟨.send k' event, .ok ()⟩ => if k' = k then some event else none
  | _ => none

def enqueued (k : κ) (log : DryRunLog π κ) : List EventEnvelope := log.filterMap (enqueued? k)

def received? (k : κ) : DryRunLabel π κ → Option EventEnvelope
  | .env (k', .recv event) => if k' = k then some event else none
  | _ => none

def received (k : κ) (log : DryRunLog π κ) : List EventEnvelope := log.filterMap (received? k)

theorem filterMap_snoc {α β : Type} (f : α → Option β) (l : List α) (a : α) :
    (l ++ [a]).filterMap f = l.filterMap f ++ (f a).toList := by
  rw [List.filterMap_append]
  cases h : f a <;> simp [h]

section Snoc

omit [DecidableEq π]

variable {k : κ} {log : DryRunLog π κ} {l : DryRunLabel π κ}

omit [DecidableEq κ] in
theorem broadcasts_snoc : broadcasts (log ++ [l]) = broadcasts log ++ (broadcast? l).toList :=
  filterMap_snoc ..

theorem enqueued_snoc : enqueued k (log ++ [l]) = enqueued k log ++ (enqueued? k l).toList :=
  filterMap_snoc ..

theorem received_snoc : received k (log ++ [l]) = received k log ++ (received? k l).toList :=
  filterMap_snoc ..

theorem existing_snoc : existing k (log ++ [l]) = existing k log ++ ((existing? k l).getD []) := by
  rw [existing, filterMap_snoc, List.flatten_append, existing]
  cases existing? k l <;> simp

theorem enqueued_kept (h : enqueued? k l = none) : enqueued k (log ++ [l]) = enqueued k log := by
  rw [enqueued_snoc, h]
  exact List.append_nil _

theorem received_kept (h : received? k l = none) : received k (log ++ [l]) = received k log := by
  rw [received_snoc, h]
  exact List.append_nil _

theorem existing_kept (h : existing? k l = none) : existing k (log ++ [l]) = existing k log := by
  rw [existing_snoc, h]
  exact List.append_nil _

theorem any_opens_snoc : (log ++ [l]).any (opens k) = (log.any (opens k) || opens k l) := by
  simp

theorem live_snoc (h : log.any (opens k) = true) :
    live k (log ++ [l]) = live k log ++ (broadcast? l).toList := by
  induction log with
  | nil => cases h
  | cons l' log ih =>
    rw [List.cons_append, live, live]
    split_ifs with hopens
    · exact broadcasts_snoc
    · apply ih
      simpa [List.any_cons, hopens] using h

theorem live_kept (h : log.any (opens k) = true) (hl : broadcast? l = none) :
    live k (log ++ [l]) = live k log := by
  rw [live_snoc h, hl]
  exact List.append_nil _

theorem opened_kept (h : log.any (opens k) = true) : (log ++ [l]).any (opens k) = true := by
  rw [any_opens_snoc, h, Bool.true_or]

theorem live_open (h : log.any (opens k) = false) (hl : opens k l = true)
    (after : DryRunLog π κ) : live k (log ++ l :: after) = broadcasts after := by
  induction log with
  | nil => rw [List.nil_append, live, if_pos hl]
  | cons l' log ih =>
    rw [List.any_cons, Bool.or_eq_false_iff] at h
    rw [List.cons_append, live, if_neg (by simp [h.1])]
    exact ih h.2

end Snoc

/-- The channel holds what was enqueued and not yet received; its consumer has it only once
the task was spawned. -/
structure ChannelFifo (k : κ) (log : DryRunLog π κ) (s : DryRunState κ) : Prop where
  held : (s.channel k).receiver = true → enqueued k log = received k log ++ (s.channel k).queue
  ordered : received k log <+: enqueued k log
  unseen : s.spawned k = false → (s.channel k).receiver = true ∧ received k log = []

def subscription? : DryRunOp κ → Option κ
  | .openReceiver k | .spawn k | .send k _ | .recv k => some k
  | _ => none

/-- What a step of another subscription, or of a publish, changes for `k`. -/
structure Unmoved (k : κ) (s s' : DryRunState κ) (sent : List EventEnvelope) : Prop where
  channel : s'.channel k = s.channel k
  spawned : s'.spawned k = s.spawned k
  passed : s'.feed.passed k = s.feed.passed k
  sent : s'.feed.sent = s.feed.sent ++ sent

omit [DecidableEq π] in
theorem unmoved_of_handle {k : κ} {s s' : DryRunState κ} {i : DryRunActor π κ}
    {e : Event (dryRunInterface κ)} (hs : s.handle e s') (hk : subscription? e.op ≠ some k) :
    Unmoved k s s' (broadcast? (.act i e : DryRunLabel π κ)).toList := by
  obtain ⟨o, a⟩ := e
  cases o with
  | push event =>
    cases hs
    exact ⟨rfl, rfl, rfl, (List.append_nil _).symm⟩
  | broadcast event =>
    cases hs
    exact ⟨rfl, rfl, rfl, rfl⟩
  | snapshot =>
    obtain ⟨-, rfl⟩ := hs
    exact ⟨rfl, rfl, rfl, (List.append_nil _).symm⟩
  | openReceiver k' =>
    cases hs
    have hne : k ≠ k' := fun h => hk (congrArg some h.symm)
    exact ⟨rfl, rfl, Broadcast.passed_passTo_of_ne _ _ hne, (List.append_nil _).symm⟩
  | spawn k' =>
    cases hs
    have hne : k ≠ k' := fun h => hk (congrArg some h.symm)
    exact ⟨rfl, Function.update_of_ne hne .., rfl, (List.append_nil _).symm⟩
  | send k' event =>
    obtain ⟨channel, -, rfl⟩ := hs
    have hne : k ≠ k' := fun h => hk (congrArg some h.symm)
    exact ⟨Function.update_of_ne hne .., rfl, rfl, (List.append_nil _).symm⟩
  | recv k' =>
    obtain ⟨-, feed, hrecv, rfl⟩ := hs
    have hne : k ≠ k' := fun h => hk (congrArg some h.symm)
    exact ⟨rfl, rfl, hrecv.passed_of_ne hne, hrecv.sent_eq.trans (List.append_nil _).symm⟩

section Channel

omit [DecidableEq π]

variable {k : κ} {log : DryRunLog π κ} {s s' : DryRunState κ} {i : DryRunActor π κ}
  {e : Event (dryRunInterface κ)}

theorem enqueued?_of_ne (h : subscription? e.op ≠ some k) :
    enqueued? k (.act i e : DryRunLabel π κ) = none := by
  obtain ⟨o, a⟩ := e
  cases o with
  | send k' event =>
    have hne : k' ≠ k := fun h' => h (congrArg some h')
    cases a with
    | error back => rfl
    | ok u => exact if_neg hne
  | _ => rfl

theorem ChannelFifo.of_eq {l : DryRunLabel π κ} (hinv : ChannelFifo k log s)
    (henqueued : enqueued? k l = none) (hreceived : received? k l = none)
    (hchannel : s'.channel k = s.channel k)
    (hspawned : s'.spawned k = false → s.spawned k = false) :
    ChannelFifo k (log ++ [l]) s' := by
  constructor
  · rw [enqueued_kept henqueued, received_kept hreceived, hchannel]
    exact hinv.held
  · rw [enqueued_kept henqueued, received_kept hreceived]
    exact hinv.ordered
  · rw [received_kept hreceived, hchannel]
    exact fun hfalse => hinv.unseen (hspawned hfalse)

theorem channelFifo_act (hinv : ChannelFifo k log s) (hs : s.handle e s') :
    ChannelFifo k (log ++ [.act i e]) s' := by
  by_cases hk : subscription? e.op = some k
  · obtain ⟨o, a⟩ := e
    cases o with
    | push | broadcast | snapshot => cases hk
    | openReceiver k' =>
      cases hs
      exact hinv.of_eq rfl rfl rfl id
    | spawn k' =>
      cases hk
      cases hs
      refine hinv.of_eq rfl rfl rfl fun hfalse => ?_
      exact absurd ((Function.update_self k true s.spawned).symm.trans hfalse) (by simp)
    | recv k' =>
      obtain ⟨-, feed, -, rfl⟩ := hs
      exact hinv.of_eq rfl rfl rfl id
    | send k' event =>
      cases hk
      obtain ⟨channel, hchannel, rfl⟩ := hs
      have hnew : (s.setChannel k channel).channel k = channel := Function.update_self ..
      cases a with
      | error back =>
        -- a refused event changes nothing
        obtain ⟨-, rfl⟩ := hchannel
        exact hinv.of_eq rfl rfl hnew id
      | ok u =>
        obtain ⟨room, halive, rfl⟩ := hchannel
        have hone : enqueued k (log ++ [.act i ⟨.send k event, .ok u⟩]) =
            enqueued k log ++ [event] := by
          rw [enqueued_snoc]
          simp [enqueued?]
        have hnone : received k (log ++ [.act i ⟨.send k event, .ok u⟩]) = received k log :=
          received_kept rfl
        constructor
        · intro _
          rw [hone, hnone, hnew, hinv.held halive, List.append_assoc]
          rfl
        · rw [hone, hnone]
          exact hinv.ordered.trans (List.prefix_append ..)
        · rw [hnone, hnew]
          exact fun hfalse => ⟨halive, (hinv.unseen hfalse).2⟩
  · obtain ⟨hchannel, hspawned, -, -⟩ := unmoved_of_handle (i := i) hs hk
    exact hinv.of_eq (enqueued?_of_ne hk) rfl hchannel (hspawned ▸ id)

theorem channelFifo_env {action : κ × ConsumerAction} (hinv : ChannelFifo k log s)
    (hs : s.react action s') : ChannelFifo k (log ++ [.env action]) s' := by
  obtain ⟨k', action⟩ := action
  obtain ⟨hspawned, channel, hreact, rfl⟩ := hs
  by_cases hk : k' = k
  · subst hk
    have hnew : (s.setChannel k' channel).channel k' = channel := Function.update_self ..
    have hseen : ¬ s.spawned k' = false := by simp [hspawned]
    have hold : enqueued k' (log ++ [.env (k', action)]) = enqueued k' log := enqueued_kept rfl
    cases action with
    | recv event =>
      obtain ⟨halive, -, hqueue⟩ := hreact
      have hone : received k' (log ++ [.env (k', .recv event)]) = received k' log ++ [event] := by
        rw [received_snoc]
        simp [received?]
      have hheld := hinv.held halive
      rw [hqueue] at hheld
      constructor
      · intro _
        rw [hold, hone, hnew, hheld, List.append_assoc, List.singleton_append]
      · rw [hold, hone, hheld, List.append_cons _ event channel.queue]
        exact List.prefix_append ..
      · exact fun hfalse => absurd hfalse hseen
    | drop =>
      have hnone : received k' (log ++ [.env (k', .drop)]) = received k' log := received_kept rfl
      constructor
      · rw [hnew]
        exact fun halive => absurd (hreact.1.symm.trans halive) Bool.false_ne_true
      · rw [hold, hnone]
        exact hinv.ordered
      · exact fun hfalse => absurd hfalse hseen
  · refine hinv.of_eq rfl ?_ (Function.update_of_ne (Ne.symm hk) ..) id
    cases action with
    | recv event => exact if_neg hk
    | drop => rfl

end Channel

/-- What `subscribe` does after the existing events. -/
def connect (k : κ) : DryRunProg κ (Except String Unit) := do
  DryRunProg.openReceiver k
  DryRunProg.spawn k
  return .ok ()

/-- The task has an event to send. -/
def holding (k : κ) (event : EventEnvelope) : DryRunProg κ Bool := do
  match ← DryRunProg.send k event with
  | .error _ => return false
  | .ok () => return true

/-- The call and the task of `k`, against what was enqueued for it so far. -/
inductive Point (k : κ) (options : SubscriptionOptions) (log : DryRunLog π κ) (s : DryRunState κ) :
    DryRunProg κ (Except String Unit) → DryRunProg κ Bool → Prop
  | start (unopened : log.any (opens k) = false) (unspawned : s.spawned k = false)
      (noneExisting : existing k log = []) (noneEnqueued : enqueued k log = []) :
      Point k options log s (subscribe k options) (.ret true)
  | sending {rest : List EventEnvelope} (unopened : log.any (opens k) = false)
      (unspawned : s.spawned k = false) (left : enqueued k log ++ rest = existing k log) :
      Point k options log s (sendExisting k rest >>= fun _ => connect k) (.ret true)
  | spawning {before : List EventEnvelope} (opened : log.any (opens k) = true)
      (fits : (existing k log).length ≤ 64) (unspawned : s.spawned k = false)
      (sent : enqueued k log = existing k log)
      (feed : s.feed.Follows k before []) (fed : before ++ live k log = s.feed.sent) :
      Point k options log s (DryRunProg.spawn k >>= fun _ => .ret (.ok ())) (.ret true)
  | waiting {before got : List EventEnvelope} (opened : log.any (opens k) = true)
      (fits : (existing k log).length ≤ 64) (spawned : s.spawned k = true)
      (sent : enqueued k log = existing k log ++ got)
      (feed : s.feed.Follows k before got) (fed : before ++ live k log = s.feed.sent) :
      Point k options log s (.ret (.ok ())) (.ret true)
  | forwarding {before got : List EventEnvelope} {event : EventEnvelope}
      (opened : log.any (opens k) = true) (fits : (existing k log).length ≤ 64)
      (spawned : s.spawned k = true) (sent : enqueued k log = existing k log ++ got)
      (feed : s.feed.Follows k before (got ++ [event])) (fed : before ++ live k log = s.feed.sent) :
      Point k options log s (.ret (.ok ())) (holding k event)
  | lagged {got : List EventEnvelope} (opened : log.any (opens k) = true)
      (fits : (existing k log).length ≤ 64) (spawned : s.spawned k = true)
      (sent : enqueued k log = existing k log ++ got)
      (fed : got <+: live k log) (lost : 32 < (live k log).length) :
      Point k options log s (.ret (.ok ())) (.ret false)
  | dropped {got : List EventEnvelope} (opened : log.any (opens k) = true)
      (fits : (existing k log).length ≤ 64) (spawned : s.spawned k = true)
      (sent : enqueued k log = existing k log ++ got)
      (fed : got <+: live k log) (gone : (s.channel k).receiver = false) :
      Point k options log s (.ret (.ok ())) (.ret false)

/-- What a step of any other party changes for `k`. -/
structure Bystep (k : κ) (s s' : DryRunState κ) (l : DryRunLabel π κ) : Prop where
  receiver : (s.channel k).receiver = false → (s'.channel k).receiver = false
  spawned : s'.spawned k = s.spawned k
  passed : s'.feed.passed k = s.feed.passed k
  sent : s'.feed.sent = s.feed.sent ++ (broadcast? l).toList
  opens : opens k l = false
  existing : existing? k l = none
  enqueued : enqueued? k l = none

section Points

omit [DecidableEq π]

variable {k : κ} {options : SubscriptionOptions} {log : DryRunLog π κ} {s s' : DryRunState κ}
  {call : DryRunProg κ (Except String Unit)} {task : DryRunProg κ Bool} {l : DryRunLabel π κ}

theorem Point.bystep (hp : Point k options log s call task) (hb : Bystep k s s' l) :
    Point k options (log ++ [l]) s' call task := by
  have hopened : (log ++ [l]).any (DryRun.opens k) = log.any (DryRun.opens k) := by
    rw [any_opens_snoc, hb.opens, Bool.or_false]
  have hexisting : existing k (log ++ [l]) = existing k log := existing_kept hb.existing
  have henqueued : enqueued k (log ++ [l]) = enqueued k log := enqueued_kept hb.enqueued
  have hfits (h : (DryRun.existing k log).length ≤ 64) :
      (DryRun.existing k (log ++ [l])).length ≤ 64 :=
    hexisting ▸ h
  have hfeed {before got : List EventEnvelope} (h : s.feed.Follows k before got) :
      s'.feed.Follows k before got :=
    h.mono hb.passed ⟨_, hb.sent.symm⟩
  have hfed {before : List EventEnvelope} (h : log.any (DryRun.opens k) = true)
      (hsent : before ++ live k log = s.feed.sent) :
      before ++ live k (log ++ [l]) = s'.feed.sent := by
    rw [live_snoc h, ← List.append_assoc, hsent, hb.sent]
  have hlive (h : log.any (DryRun.opens k) = true) : live k log <+: live k (log ++ [l]) := by
    rw [live_snoc h]
    exact List.prefix_append ..
  -- another party appends to what was broadcast and leaves the rest of `k`'s state alone
  cases hp with
  | start unopened unspawned noneExisting noneEnqueued =>
    exact .start (hopened.trans unopened) (hb.spawned.trans unspawned)
      (hexisting.trans noneExisting) (henqueued.trans noneEnqueued)
  | sending unopened unspawned left =>
    exact .sending (hopened.trans unopened) (hb.spawned.trans unspawned)
      (by rw [henqueued, hexisting, left])
  | spawning opened fits unspawned sent feed fed =>
    exact .spawning (hopened.trans opened) (hfits fits) (hb.spawned.trans unspawned)
      (by rw [henqueued, hexisting, sent]) (hfeed feed) (hfed opened fed)
  | waiting opened fits spawned sent feed fed =>
    exact .waiting (hopened.trans opened) (hfits fits) (hb.spawned.trans spawned)
      (by rw [henqueued, hexisting, sent]) (hfeed feed) (hfed opened fed)
  | forwarding opened fits spawned sent feed fed =>
    exact .forwarding (hopened.trans opened) (hfits fits) (hb.spawned.trans spawned)
      (by rw [henqueued, hexisting, sent]) (hfeed feed) (hfed opened fed)
  | lagged opened fits spawned sent fed lost =>
    exact .lagged (hopened.trans opened) (hfits fits) (hb.spawned.trans spawned)
      (by rw [henqueued, hexisting, sent]) (fed.trans (hlive opened))
      (lost.trans_le (hlive opened).length_le)
  | dropped opened fits spawned sent fed gone =>
    exact .dropped (hopened.trans opened) (hfits fits) (hb.spawned.trans spawned)
      (by rw [henqueued, hexisting, sent]) (fed.trans (hlive opened)) (hb.receiver gone)

/-- The receiver is made. -/
theorem spawning_of_open {i : DryRunActor π κ} (hunopened : log.any (opens k) = false)
    (hunspawned : s.spawned k = false) (hsent : enqueued k log = existing k log)
    (hfits : (existing k log).length ≤ 64) (hs : s.handle ⟨.openReceiver k, ()⟩ s') :
    Point k options (log ++ [.act i ⟨.openReceiver k, ()⟩]) s'
      (DryRunProg.spawn k >>= fun _ => .ret (.ok ())) (.ret true) := by
  cases hs
  have hopens : opens k (.act i ⟨.openReceiver k, ()⟩ : DryRunLabel π κ) = true := by
    simp [opens]
  have hexisting : existing k (log ++ [.act i ⟨.openReceiver k, ()⟩]) = existing k log :=
    existing_kept (by cases i <;> rfl)
  apply Point.spawning
  · rw [any_opens_snoc, hopens, Bool.or_true]
  · rw [hexisting]
    exact hfits
  · exact hunspawned
  · rw [enqueued_kept rfl, hexisting, hsent]
  · exact Broadcast.follows_subscribe ..
  · rw [live_open hunopened hopens]
    exact List.append_nil _

/-- The existing events wait in the channel until the handle is returned. -/
theorem ChannelFifo.enqueued_fits (hfifo : ChannelFifo k log s) (hunspawned : s.spawned k = false) :
    (enqueued k log).length ≤ 64 := by
  obtain ⟨halive, hnone⟩ := hfifo.unseen hunspawned
  rw [hfifo.held halive, hnone]
  exact (s.channel k).bounded

theorem Point.call_step {o : DryRunOp κ} {f : o.Ans → DryRunProg κ (Except String Unit)} {a : o.Ans}
    (hp : Point k options log s call task) (hfifo : ChannelFifo k log s)
    (asks : call.next = some ⟨o, f⟩) (hs : s.handle ⟨o, a⟩ s') :
    Point k options (log ++ [.act (.subscribe k) ⟨o, a⟩]) s' (f a) task := by
  cases hp with
  | start unopened unspawned noneExisting noneEnqueued =>
    unfold DryRunProvider.subscribe at asks
    split_ifs at asks with hexisting
    · cases asks
      obtain ⟨-, rfl⟩ := hs
      apply Point.sending
      · rw [any_opens_snoc, unopened]
        rfl
      · exact unspawned
      · rw [enqueued_snoc, existing_snoc, noneExisting, noneEnqueued]
        simp [enqueued?, existing?]
    · cases asks
      -- without `deliver_existing` there is nothing to send first
      refine spawning_of_open unopened unspawned (noneEnqueued.trans noneExisting.symm) ?_ hs
      rw [noneExisting]
      exact Nat.zero_le _
  | @sending rest unopened unspawned left =>
    cases rest with
    | nil =>
      cases asks
      have hsent : enqueued k log = existing k log := (List.append_nil _).symm.trans left
      refine spawning_of_open unopened unspawned hsent ?_ hs
      rw [← hsent]
      exact hfifo.enqueued_fits unspawned
    | cons event rest =>
      cases asks
      obtain ⟨channel, hchannel, rfl⟩ := hs
      cases a with
      | error back =>
        -- nobody can have dropped a handle that was not returned
        exact absurd (hchannel.1.symm.trans (hfifo.unseen unspawned).1) Bool.false_ne_true
      | ok u =>
        apply Point.sending
        · rw [any_opens_snoc, unopened]
          rfl
        · exact unspawned
        · rw [enqueued_snoc, existing_snoc, ← left]
          simp [enqueued?, existing?]
  | spawning opened fits unspawned sent feed fed =>
    cases asks
    cases hs
    have hsent : enqueued k (log ++ [.act (.subscribe k) ⟨.spawn k, a⟩]) =
        existing k (log ++ [.act (.subscribe k) ⟨.spawn k, a⟩]) ++ [] := by
      rw [enqueued_kept rfl, existing_kept rfl, sent, List.append_nil]
    refine .waiting (opened_kept opened) ?_ (Function.update_self ..) hsent feed ?_
    · rwa [existing_kept rfl]
    · rw [live_kept opened rfl]
      exact fed
  | waiting | forwarding | lagged | dropped => cases asks

theorem Point.task_step {o : DryRunOp κ} {f : o.Ans → DryRunProg κ Bool} {a : o.Ans}
    (hp : Point k options log s call task)
    (asks : forever (forward k) task = some ⟨o, f⟩) (hs : s.handle ⟨o, a⟩ s') :
    Point k options (log ++ [.act (.forward k) ⟨o, a⟩]) s' call (f a) := by
  have hspawned {r : Except ℕ EventEnvelope} (h : s.handle ⟨.recv k, r⟩ s') :
      ¬ s.spawned k = false := by
    rw [h.1]
    exact Bool.noConfusion
  cases hp with
  | start unopened unspawned | sending unopened unspawned | spawning opened fits unspawned =>
    cases asks
    exact absurd unspawned (hspawned hs)
  | @waiting before got opened fits spawned sent feed fed =>
    cases asks
    obtain ⟨-, feed', hrecv, rfl⟩ := hs
    have hfits : (existing k (log ++ [.act (.forward k) ⟨.recv k, a⟩])).length ≤ 64 := by
      rwa [existing_kept rfl]
    have hsent : enqueued k (log ++ [.act (.forward k) ⟨.recv k, a⟩]) =
        existing k (log ++ [.act (.forward k) ⟨.recv k, a⟩]) ++ got := by
      rw [enqueued_kept rfl, existing_kept rfl, sent]
    cases a with
    | ok event =>
      refine .forwarding (opened_kept opened) hfits spawned hsent (feed.recv hrecv) ?_
      rw [live_kept opened rfl, fed]
      exact hrecv.sent_eq.symm
    | error missed =>
      refine .lagged (opened_kept opened) hfits spawned hsent ?_ ?_
      · rw [live_kept opened rfl]
        exact (List.prefix_append_right_inj before).mp (fed ▸ feed.sent)
      · by_contra hfew
        rw [live_kept opened rfl, not_lt] at hfew
        -- the channel would still hold everything, so that nothing could have been missed
        have hkept : s.feed.sent.length ≤ before.length + 32 := by
          rw [← fed, List.length_append]
          omega
        exact feed.not_lagged hkept hrecv
  | @forwarding before got event opened fits spawned sent feed fed =>
    cases asks
    obtain ⟨channel, hchannel, rfl⟩ := hs
    have hfits : (existing k (log ++ [.act (.forward k) ⟨.send k event, a⟩])).length ≤ 64 := by
      rwa [existing_kept rfl]
    cases a with
    | ok u =>
      refine .waiting (opened_kept opened) hfits spawned ?_ feed ?_
      · rw [enqueued_snoc, existing_kept rfl, sent]
        simp [enqueued?]
      · rw [live_kept opened rfl]
        exact fed
    | error back =>
      obtain ⟨hgone, rfl⟩ := hchannel
      have hsent : enqueued k (log ++ [.act (.forward k) ⟨.send k event, .error back⟩]) =
          existing k (log ++ [.act (.forward k) ⟨.send k event, .error back⟩]) ++ got := by
        rw [enqueued_kept rfl, existing_kept rfl, sent]
      refine .dropped (opened_kept opened) hfits spawned hsent ?_ ?_
      · have hgot : got ++ [event] <+: live k log :=
          (List.prefix_append_right_inj before).mp (fed ▸ feed.sent)
        rw [live_kept opened rfl]
        exact (List.prefix_append ..).trans hgot
      · exact (congrArg SubscriptionChannel.receiver (Function.update_self ..)).trans hgone
  | lagged | dropped => cases asks

end Points

def owner? : DryRunActor π κ → Option κ
  | .publish _ => none
  | .subscribe k | .forward k => some k

section Places

omit [DecidableEq π] [DecidableEq κ]

def Allowed (event : π → EventEnvelope) : DryRunActor π κ → DryRunOp κ → Prop
  | .publish i, .push e | .publish i, .broadcast e => e = event i
  | .subscribe _, .snapshot => True
  | .subscribe k, .openReceiver k' | .subscribe k, .spawn k' | .subscribe k, .send k' _ => k' = k
  | .forward k, .recv k' | .forward k, .send k' _ => k' = k
  | _, _ => False

def Keeps (P : DryRunOp κ → Prop) (k : Option κ) : DryRunProc κ → Prop
  | .call p => p.OnlyAsks P
  | .task k' p => k = some k' ∧ p.OnlyAsks P ∧ (forward k').OnlyAsks P

theorem Keeps.step {P : DryRunOp κ → Prop} {k : Option κ} {p : DryRunProc κ} (hp : Keeps P k p)
    {o : DryRunOp κ} {f : o.Ans → DryRunProc κ} (asks : p.next = some ⟨o, f⟩) :
    P o ∧ ∀ a, Keeps P k (f a) := by
  cases p with
  | call p =>
    cases p with
    | ret result => cases asks
    | ask o' f' =>
      cases asks
      exact hp
  | task k' p =>
    obtain ⟨rfl, hp, hpass⟩ := hp
    cases p with
    | ask o' f' =>
      cases asks
      exact ⟨hp.1, fun a => ⟨rfl, hp.2 a, hpass⟩⟩
    | ret again =>
      cases again with
      | false => cases asks
      | true =>
        cases asks
        exact ⟨hpass.1, fun a => ⟨rfl, hpass.2 a, hpass⟩⟩

variable (event : π → EventEnvelope)

theorem sendExisting_allowed (k : κ) (events : List EventEnvelope) :
    (sendExisting k events).OnlyAsks (Allowed event (.subscribe k)) := by
  induction events with
  | nil => trivial
  | cons e events ih =>
    refine ⟨rfl, fun result => ?_⟩
    cases result with
    | error back => trivial
    | ok u => exact ih

theorem connect_allowed (k : κ) : (connect k).OnlyAsks (Allowed event (.subscribe k)) :=
  ⟨rfl, fun _ => ⟨rfl, fun _ => trivial⟩⟩

theorem subscribe_allowed (k : κ) (options : SubscriptionOptions) :
    (DryRunProvider.subscribe k options).OnlyAsks (Allowed event (.subscribe k)) := by
  unfold DryRunProvider.subscribe
  split_ifs
  · refine ⟨trivial, fun events => ?_⟩
    exact (sendExisting_allowed event k events).bind fun _ => connect_allowed event k
  · exact connect_allowed event k

theorem forward_allowed (k : κ) : (forward k).OnlyAsks (Allowed event (.forward k)) := by
  refine ⟨rfl, fun result => ?_⟩
  cases result with
  | error missed => trivial
  | ok e =>
    refine ⟨rfl, fun result => ?_⟩
    cases result <;> trivial

theorem keeps_start (options : κ → SubscriptionOptions) [DecidableEq κ] (i : DryRunActor π κ) :
    Keeps (Allowed event i) (owner? i) ((dryRunStart event options).proc i) := by
  cases i with
  | publish i => exact ⟨rfl, fun _ => ⟨rfl, fun _ => trivial⟩⟩
  | subscribe k => exact subscribe_allowed event k (options k)
  | forward k => exact ⟨rfl, trivial, forward_allowed event k⟩

variable {event}

theorem Allowed.subscription {i : DryRunActor π κ} {o : DryRunOp κ} (h : Allowed event i o) :
    subscription? o = none ∨ subscription? o = owner? i := by
  cases i <;> cases o <;> first | exact .inl rfl | exact .inr (congrArg some h) | exact h.elim

end Places

variable {event : π → EventEnvelope} {options : κ → SubscriptionOptions} {log : DryRunLog π κ}
  {c : Config (DryRunActor π κ) (DryRunState κ) (DryRunProc κ)} {k : κ}

theorem keeps_run (hr : (dryRunSystem π κ).Run (dryRunStart event options) log c)
    (i : DryRunActor π κ) : Keeps (Allowed event i) (owner? i) (c.proc i) :=
  (hr.local i).invariant (keeps_start event options i) fun _ _ _ hp asks => (hp.step asks).2

theorem allowed_run (hr : (dryRunSystem π κ).Run (dryRunStart event options) log c)
    (i : DryRunActor π κ) : ∀ e ∈ localHistory i log, Allowed event i e.op :=
  (hr.local i).asks_only (keeps_start event options i) fun _ _ _ hp asks => hp.step asks

theorem channelFifo (hr : (dryRunSystem π κ).Run (dryRunStart event options) log c) (k : κ) :
    ChannelFifo k log c.shared :=
  hr.invariant ⟨fun _ => rfl, List.nil_prefix, fun _ => ⟨rfl, rfl⟩⟩
    (fun _ _ _ _ _ hinv hs => channelFifo_act hinv hs)
    fun _ _ _ _ hinv hs => channelFifo_env hinv hs

structure Placed (k : κ) (options : κ → SubscriptionOptions) (log : DryRunLog π κ)
    (c : Config (DryRunActor π κ) (DryRunState κ) (DryRunProc κ))
    (call : DryRunProg κ (Except String Unit)) (task : DryRunProg κ Bool) : Prop where
  calling : c.proc (.subscribe k) = .call call
  forwarding : c.proc (.forward k) = .task k task
  point : Point k (options k) log c.shared call task

omit [DecidableEq π] in
theorem existing?_of_owner {i : DryRunActor π κ} (h : owner? i ≠ some k)
    (e : Event (dryRunInterface κ)) : existing? k (.act i e : DryRunLabel π κ) = none := by
  obtain ⟨o, a⟩ := e
  cases i with
  | publish i => rfl
  | subscribe k' =>
    cases o with
    | snapshot => exact if_neg fun h' => h (congrArg some h')
    | _ => rfl
  | forward k' => rfl

omit [DecidableEq π] in
theorem bystep_act {s s' : DryRunState κ} {i : DryRunActor π κ} {o : DryRunOp κ} {a : o.Ans}
    (hi : owner? i ≠ some k) (ho : Allowed event i o) (hs : s.handle ⟨o, a⟩ s') :
    Bystep k s s' (.act i ⟨o, a⟩) := by
  have hk : subscription? o ≠ some k := by
    rcases ho.subscription with ho | ho
    · simp [ho]
    · exact ho ▸ hi
  have hstep := unmoved_of_handle (i := i) hs hk
  refine ⟨fun h => hstep.channel ▸ h, hstep.spawned, hstep.passed, hstep.sent, ?_,
    existing?_of_owner hi _, enqueued?_of_ne hk⟩
  cases o with
  | openReceiver k' => exact decide_eq_false fun h => hk (congrArg some h)
  | _ => rfl

omit [DecidableEq π] in
theorem bystep_env {s s' : DryRunState κ} {action : κ × ConsumerAction} (hs : s.react action s') :
    Bystep k s s' (.env action : DryRunLabel π κ) := by
  obtain ⟨-, channel, hreact, rfl⟩ := hs
  refine ⟨fun hgone => ?_, rfl, rfl, (List.append_nil _).symm, rfl, rfl, rfl⟩
  by_cases hk : k = action.1
  · subst hk
    show (Function.update s.channel action.1 channel action.1).receiver = false
    rw [Function.update_self]
    cases haction : action.2 with
    | recv event =>
      rw [haction] at hreact
      exact absurd (hgone.symm.trans hreact.1) Bool.false_ne_true
    | drop =>
      rw [haction] at hreact
      exact hreact.1
  · exact (congrArg SubscriptionChannel.receiver (Function.update_of_ne hk ..)).trans hgone

theorem placed (hr : (dryRunSystem π κ).Run (dryRunStart event options) log c) (k : κ) :
    ∃ call task, Placed k options log c call task := by
  -- the step's own subscription moves by `call_step` or `task_step`, all others by `bystep`
  induction hr with
  | start => exact ⟨_, _, rfl, rfl, .start rfl rfl rfl rfl⟩
  | @act log c i o f a s run asks answers ih =>
    obtain ⟨call, task, hcall, htask, hpoint⟩ := ih
    have hkept {j : DryRunActor π κ} (h : j ≠ i) : Function.update c.proc i (f a) j = c.proc j :=
      Function.update_of_ne h ..
    by_cases hi : owner? i = some k
    · cases i with
      | publish i => cases hi
      | subscribe k' =>
        cases hi
        rw [hcall] at asks
        cases call with
        | ret result => cases asks
        | ask o' f' =>
          cases asks
          refine ⟨_, task, Function.update_self .., ?_,
            hpoint.call_step (channelFifo run k) rfl answers⟩
          exact (hkept (by simp)).trans htask
      | forward k' =>
        cases hi
        rw [htask] at asks
        obtain ⟨⟨o', f'⟩, hnext, hsame⟩ := Option.map_eq_some_iff.mp asks
        cases hsame
        refine ⟨call, _, ?_, Function.update_self .., hpoint.task_step hnext answers⟩
        exact (hkept (by simp)).trans hcall
    · have hown := (keeps_run run i).step asks
      refine ⟨call, task, ?_, ?_, hpoint.bystep (bystep_act hi hown.1 answers)⟩
      · refine (hkept ?_).trans hcall
        rintro rfl
        exact hi rfl
      · refine (hkept ?_).trans htask
        rintro rfl
        exact hi rfl
  | env run reacts ih =>
    obtain ⟨call, task, hcall, htask, hpoint⟩ := ih
    exact ⟨call, task, hcall, htask, hpoint.bystep (bystep_env reacts)⟩

end GreenticEvents.DryRun
