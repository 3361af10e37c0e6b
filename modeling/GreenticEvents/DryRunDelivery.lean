import GreenticEvents.DryRunPlaces
import GreenticEvents.Polling

namespace GreenticEvents.DryRun
open Effects Prog DryRunProvider

variable {π κ : Type} [DecidableEq π] [DecidableEq κ] {event : π → EventEnvelope}
  {options : κ → SubscriptionOptions} {log : DryRunLog π κ}
  {c : Config (DryRunActor π κ) (DryRunState κ) (DryRunProc κ)}

theorem enqueued_begins (hr : (dryRunSystem π κ).Run (dryRunStart event options) log c) (k : κ) :
    enqueued k log <+: existing k log ++ live k log := by
  obtain ⟨call, task, -, -, hpoint⟩ := placed hr k
  have hgot {before got : List EventEnvelope} (feed : c.shared.feed.Follows k before got)
      (fed : before ++ live k log = c.shared.feed.sent) : got <+: live k log :=
    (List.prefix_append_right_inj before).mp (fed ▸ feed.sent)
  cases hpoint with
  | start unopened unspawned noneExisting noneEnqueued =>
    rw [noneEnqueued]
    exact List.nil_prefix
  | sending unopened unspawned left =>
    rw [← left, List.append_assoc]
    exact List.prefix_append ..
  | spawning opened fits unspawned sent feed fed =>
    rw [sent]
    exact List.prefix_append ..
  | waiting opened fits spawned sent feed fed =>
    rw [sent, List.prefix_append_right_inj]
    exact hgot feed fed
  | forwarding opened fits spawned sent feed fed =>
    rw [sent, List.prefix_append_right_inj]
    exact (List.prefix_append ..).trans (hgot feed fed)
  | lagged opened fits spawned sent fed | dropped opened fits spawned sent fed =>
    rw [sent, List.prefix_append_right_inj]
    exact fed

theorem received_begins (hr : (dryRunSystem π κ).Run (dryRunStart event options) log c) (k : κ) :
    received k log <+: existing k log ++ live k log :=
  (channelFifo hr k).ordered.trans (enqueued_begins hr k)

variable {k : κ} {call : DryRunProg κ (Except String Unit)} {task : DryRunProg κ Bool}

theorem Placed.call_enabled (hp : Placed k options log c call task) {o : DryRunOp κ}
    {f : o.Ans → DryRunProg κ (Except String Unit)} {a : o.Ans} {s : DryRunState κ}
    (asks : call.next = some ⟨o, f⟩) (answers : c.shared.handle ⟨o, a⟩ s) :
    (dryRunSystem π κ).Enabled c (.subscribe k) := by
  have hnext : (dryRunSystem π κ).next (c.proc (.subscribe k)) =
      some ⟨o, fun a => .call (f a)⟩ := by
    show DryRunProc.next _ = _
    rw [hp.calling, DryRunProc.next, asks]
    rfl
  exact System.enabled_of hnext answers

theorem Placed.task_enabled (hp : Placed k options log c call task) {o : DryRunOp κ}
    {f : o.Ans → DryRunProg κ Bool} {a : o.Ans} {s : DryRunState κ}
    (asks : forever (forward k) task = some ⟨o, f⟩) (answers : c.shared.handle ⟨o, a⟩ s) :
    (dryRunSystem π κ).Enabled c (.forward k) := by
  have hnext : (dryRunSystem π κ).next (c.proc (.forward k)) =
      some ⟨o, fun a => .task k (f a)⟩ := by
    show DryRunProc.next _ = _
    rw [hp.forwarding, DryRunProc.next, asks]
    rfl
  exact System.enabled_of hnext answers

omit [DecidableEq π] in
/-- There is room for an event, and the consumer is there to receive it. -/
theorem send_answered {s : DryRunState κ} (halive : (s.channel k).receiver = true)
    (hroom : (s.channel k).queue.length < 64) (e : EventEnvelope) :
    ∃ s', s.handle ⟨.send k e, .ok ()⟩ s' :=
  ⟨_, _, ⟨hroom, halive, rfl⟩, rfl⟩

/-- Nothing is lost while the channel has room, unless the task lagged or the handle was
dropped. -/
theorem enqueued_all (hr : (dryRunSystem π κ).Run (dryRunStart event options) log c)
    (hspawned : c.shared.spawned k = true) (halive : (c.shared.channel k).receiver = true)
    (hroom : (c.shared.channel k).queue.length < 64) (hfew : (live k log).length ≤ 32)
    (hidle : ¬ (dryRunSystem π κ).Enabled c (.forward k)) :
    enqueued k log = existing k log ++ live k log := by
  obtain ⟨call, task, hplaced⟩ := placed hr k
  have hpoint := hplaced.point
  cases hpoint with
  | start unopened unspawned | sending unopened unspawned | spawning opened fits unspawned =>
    exact absurd (unspawned.symm.trans hspawned) Bool.false_ne_true
  | @waiting before got opened fits spawned sent feed fed =>
    have hall : c.shared.feed.sent.length ≤ (before ++ got).length := by
      by_contra hunread
      obtain ⟨result, feed', hrecv⟩ := feed.exists_recv (not_le.mp hunread) 32
      exact hidle (hplaced.task_enabled rfl ⟨spawned, feed', hrecv, rfl⟩)
    have hgot := (feed.eq_sent hall).trans fed.symm
    rw [sent, List.append_cancel_left hgot]
  | @forwarding before got e =>
    obtain ⟨s', answers⟩ := send_answered halive hroom e
    exact absurd (hplaced.task_enabled rfl answers) hidle
  | lagged opened fits spawned sent fed lost => exact absurd lost (not_lt.mpr hfew)
  | dropped opened fits spawned sent fed gone =>
    exact absurd (gone.symm.trans halive) Bool.false_ne_true

/-- A consumer receives, in order and without gaps, the published events of the snapshot and
then those broadcast since the receiver was made: all of them, when it empties its channel and
at most 32 were broadcast. -/
theorem dryRun_delivery (hr : (dryRunSystem π κ).Run (dryRunStart event options) log c) (k : κ) :
    received k log <+: existing k log ++ live k log ∧
    (c.shared.spawned k = true → (c.shared.channel k).receiver = true →
      (c.shared.channel k).queue = [] → (live k log).length ≤ 32 →
      ¬ (dryRunSystem π κ).Enabled c (.forward k) →
      received k log = existing k log ++ live k log) := by
  refine ⟨received_begins hr k, fun hspawned halive hempty hfew hidle => ?_⟩
  have hroom : (c.shared.channel k).queue.length < 64 := by
    rw [hempty]
    decide
  have hheld := (channelFifo hr k).held halive
  rw [enqueued_all hr hspawned halive hroom hfew hidle, hempty, List.append_nil] at hheld
  exact hheld.symm

abbrev oneOrder : EventEnvelope := order tenantA

/-- A publish whose two steps lie around a subscription. -/
def straddling : DryRunLog Unit Unit :=
  [.act (.publish ()) ⟨.push oneOrder, ()⟩,
   .act (.subscribe ()) ⟨.snapshot, [oneOrder]⟩,
   .act (.subscribe ()) ⟨.send () oneOrder, .ok ()⟩,
   .act (.subscribe ()) ⟨.openReceiver (), ()⟩,
   .act (.publish ()) ⟨.broadcast oneOrder, ()⟩,
   .act (.subscribe ()) ⟨.spawn (), ()⟩,
   .act (.forward ()) ⟨.recv (), .ok oneOrder⟩,
   .act (.forward ()) ⟨.send () oneOrder, .ok ()⟩,
   .env ((), .recv oneOrder),
   .env ((), .recv oneOrder)]

/-- Everything is delivered and nothing goes on. -/
structure Straddled (c : Config (DryRunActor Unit Unit) (DryRunState Unit) (DryRunProc Unit)) :
    Prop where
  run : (dryRunSystem Unit Unit).Run (dryRunStart (fun _ => oneOrder) fun _ => .default)
    straddling c
  publish : c.proc (.publish ()) = .call (.ret (.ok ()))
  subscribe : c.proc (.subscribe ()) = .call (.ret (.ok ()))
  forward : c.proc (.forward ()) = .task () (.ret true)
  sent : c.shared.feed.sent = [oneOrder]
  passed : c.shared.feed.passed () = some 1
  channel : c.shared.channel () = .new
  spawned : c.shared.spawned () = true

theorem exists_straddled : ∃ c, Straddled c := by
  have h₀ : (dryRunSystem Unit Unit).Run (dryRunStart (fun _ => oneOrder) fun _ => .default) [] _ :=
    .start
  have h₁ := h₀.acted (.publish ()) ⟨.push oneOrder, ()⟩ rfl rfl
  have h₂ := h₁.acted (.subscribe ()) ⟨.snapshot, [oneOrder]⟩ rfl ⟨rfl, rfl⟩
  have h₃ := h₂.acted (.subscribe ()) ⟨.send () oneOrder, .ok ()⟩ rfl
    ⟨_, ⟨by decide, rfl, rfl⟩, rfl⟩
  have h₄ := h₃.acted (.subscribe ()) ⟨.openReceiver (), ()⟩ rfl rfl
  have h₅ := h₄.acted (.publish ()) ⟨.broadcast oneOrder, ()⟩ rfl rfl
  have h₆ := h₅.acted (.subscribe ()) ⟨.spawn (), ()⟩ rfl rfl
  have h₇ := h₆.acted (.forward ()) ⟨.recv (), .ok oneOrder⟩ rfl
    ⟨rfl, _, .value rfl rfl (by decide), rfl⟩
  have h₈ := h₇.acted (.forward ()) ⟨.send () oneOrder, .ok ()⟩ rfl
    ⟨_, ⟨by decide, rfl, rfl⟩, rfl⟩
  have h₉ := h₈.reacted ((), .recv oneOrder)
    ⟨rfl, SubscriptionChannel.new.push oneOrder (by decide), ⟨rfl, rfl, rfl⟩, rfl⟩
  have h₁₀ := h₉.reacted ((), .recv oneOrder) ⟨rfl, .new, ⟨rfl, rfl, rfl⟩, rfl⟩
  exact ⟨_, h₁₀, rfl, rfl, rfl, rfl, rfl, rfl, rfl⟩

theorem Straddled.idle
    {c : Config (DryRunActor Unit Unit) (DryRunState Unit) (DryRunProc Unit)}
    (h : Straddled c) : ¬ (dryRunSystem Unit Unit).Enabled c (.forward ()) := by
  rintro ⟨e, c', hstep⟩
  cases hstep with
  | act asks answers =>
    rw [h.forward] at asks
    cases asks
    obtain ⟨-, feed, hrecv, -⟩ := answers
    cases hrecv with
    | value here unread =>
      cases here.symm.trans h.passed
      rw [h.sent] at unread
      cases unread
    | lagged here lost =>
      rw [h.sent] at lost
      exact absurd lost (by simp)

theorem dryRun_delivery_straddling :
    received () straddling = existing () straddling ++ live () straddling := by
  obtain ⟨c, hc⟩ := exists_straddled
  refine (dryRun_delivery hc.run ()).2 hc.spawned ?_ ?_ (by decide) hc.idle
  · rw [hc.channel]
    rfl
  · rw [hc.channel]
    rfl

/-- An event that is published around a subscription comes twice. -/
example : received () straddling = [oneOrder, oneOrder] := rfl

omit [DecidableEq π] in
/-- The handle is returned once the task was spawned, and nothing else ever. -/
theorem Point.returned_iff {s : DryRunState κ} {options : SubscriptionOptions}
    (hp : Point k options log s call task) {result : Except String Unit} :
    call = .ret result ↔ s.spawned k = true ∧ result = .ok () := by
  have hpending {o : DryRunOp κ} {f : o.Ans → DryRunProg κ (Except String Unit)}
      (unspawned : s.spawned k = false) :
      (.ask o f : DryRunProg κ (Except String Unit)) = .ret result ↔
        s.spawned k = true ∧ result = .ok () :=
    iff_of_false (by simp) (by simp [unspawned])
  have hreturned (spawned : s.spawned k = true) :
      (.ret (.ok ()) : DryRunProg κ (Except String Unit)) = .ret result ↔
        s.spawned k = true ∧ result = .ok () := by
    rw [Prog.ret.injEq, eq_comm (a := Except.ok ())]
    exact (and_iff_right spawned).symm
  cases hp with
  | start unopened unspawned =>
    unfold DryRunProvider.subscribe
    split_ifs
    · exact hpending unspawned
    · exact hpending unspawned
  | @sending rest unopened unspawned =>
    cases rest with
    | nil => exact hpending unspawned
    | cons e rest => exact hpending unspawned
  | spawning opened fits unspawned => exact hpending unspawned
  | waiting opened fits spawned | forwarding opened fits spawned | lagged opened fits spawned
  | dropped opened fits spawned => exact hreturned spawned

omit [DecidableEq π] in
theorem Point.fits_of_spawned {s : DryRunState κ} {options : SubscriptionOptions}
    (hp : Point k options log s call task) (hspawned : s.spawned k = true) :
    (existing k log).length ≤ 64 := by
  cases hp with
  | start unopened unspawned | sending unopened unspawned | spawning opened fits unspawned =>
    exact absurd (unspawned.symm.trans hspawned) Bool.false_ne_true
  | waiting opened fits | forwarding opened fits | lagged opened fits | dropped opened fits =>
    exact fits

/-- With at most 64 published events the call can always go on until it returns. -/
theorem subscribe_goes_on (hr : (dryRunSystem π κ).Run (dryRunStart event options) log c)
    (hfits : (existing k log).length ≤ 64) (hunspawned : c.shared.spawned k = false) :
    (dryRunSystem π κ).Enabled c (.subscribe k) := by
  obtain ⟨call, task, hplaced⟩ := placed hr k
  have hfifo := channelFifo hr k
  have hpoint := hplaced.point
  cases hpoint with
  | start =>
    unfold DryRunProvider.subscribe at hplaced
    split_ifs at hplaced with hexisting
    · exact hplaced.call_enabled rfl (a := c.shared.published) ⟨rfl, rfl⟩
    · exact hplaced.call_enabled rfl (a := ()) rfl
  | @sending rest unopened unspawned left =>
    cases rest with
    | nil => exact hplaced.call_enabled rfl (a := ()) rfl
    | cons e rest =>
      obtain ⟨halive, hnone⟩ := hfifo.unseen unspawned
      have hroom : (c.shared.channel k).queue.length < 64 := by
        have hheld := hfifo.held halive
        rw [hnone, List.nil_append] at hheld
        rw [← left, List.length_append, hheld, List.length_cons] at hfits
        omega
      obtain ⟨s', answers⟩ := send_answered halive hroom e
      exact hplaced.call_enabled rfl answers
  | spawning => exact hplaced.call_enabled rfl (a := ()) rfl
  | waiting opened fits spawned | forwarding opened fits spawned | lagged opened fits spawned
  | dropped opened fits spawned =>
    exact absurd (hunspawned.symm.trans spawned) Bool.false_ne_true

/-- A subscription that begins with more than 64 published events never returns: nobody can make
room in its channel.  With at most 64 its call is never blocked. -/
theorem subscribe_returns (hr : (dryRunSystem π κ).Run (dryRunStart event options) log c) (k : κ) :
    (64 < (existing k log).length → ∀ result, c.proc (.subscribe k) ≠ .call (.ret result)) ∧
    ((existing k log).length ≤ 64 → c.proc (.subscribe k) = .call (.ret (.ok ())) ∨
      (dryRunSystem π κ).Enabled c (.subscribe k)) := by
  obtain ⟨call, task, hplaced⟩ := placed hr k
  constructor
  · intro hmany result hret
    rw [hplaced.calling] at hret
    obtain ⟨hspawned, -⟩ := hplaced.point.returned_iff.mp (DryRunProc.call.inj hret)
    exact absurd (hplaced.point.fits_of_spawned hspawned) (not_le.mpr hmany)
  · intro hfits
    cases hspawned : c.shared.spawned k with
    | false => exact .inr (subscribe_goes_on hr hfits hspawned)
    | true =>
      rw [hplaced.calling, hplaced.point.returned_iff.mpr ⟨hspawned, rfl⟩]
      exact .inl rfl

section Backlog

/-- What a subscription sees that starts after `n` publishes did. -/
theorem snapshot_run (n : ℕ) : ∃ log c,
    (dryRunSystem ℕ Unit).Run (dryRunStart (fun _ => oneOrder) fun _ => .default) log c ∧
      (existing () log).length = n := by
  have hpushes : ∃ log c,
      (dryRunSystem ℕ Unit).Run (dryRunStart (fun _ => oneOrder) fun _ => .default) log c ∧
        existing () log = [] ∧ c.shared.published.length = n ∧
        c.proc (.subscribe ()) = .call (DryRunProvider.subscribe () .default) ∧
        ∀ i ≥ n, c.proc (.publish i) = .call (DryRunProvider.publish oneOrder) := by
    induction n with
    | zero => exact ⟨[], _, .start, rfl, rfl, rfl, fun _ _ => rfl⟩
    | succ n ih =>
      obtain ⟨log, c, hr, hnone, hlength, hcall, hlater⟩ := ih
      have hnext := hr.acted (.publish n) ⟨.push oneOrder, ()⟩
        (congrArg DryRunProc.next (hlater n le_rfl)) rfl
      refine ⟨_, _, hnext, ?_, ?_, ?_, fun i hi => ?_⟩
      · rw [existing_kept rfl, hnone]
      · rw [List.length_append, hlength]
        rfl
      · have hother : DryRunActor.subscribe () ≠ .publish n := by simp
        dsimp only
        rw [Function.update_of_ne hother, hcall]
      · have hother : (.publish i : DryRunActor ℕ Unit) ≠ .publish n := by
          simpa using Nat.ne_of_gt hi
        dsimp only
        rw [Function.update_of_ne hother, hlater i (Nat.le_of_succ_le hi)]
  obtain ⟨log, c, hr, hnone, hlength, hcall, -⟩ := hpushes
  have hsnapshot := hr.acted (.subscribe ()) ⟨.snapshot, c.shared.published⟩
    (congrArg DryRunProc.next hcall) ⟨rfl, rfl⟩
  refine ⟨_, _, hsnapshot, ?_⟩
  rw [existing_snoc, hnone]
  exact hlength

theorem subscribe_returns_backlog :
    (∃ log c, (dryRunSystem ℕ Unit).Run (dryRunStart (fun _ => oneOrder) fun _ => .default) log c ∧
      ∀ result, c.proc (.subscribe ()) ≠ .call (.ret result)) ∧
    ∃ c, (dryRunSystem Unit Unit).Run (dryRunStart (fun _ => oneOrder) fun _ => .default)
        straddling c ∧
      (c.proc (.subscribe ()) = .call (.ret (.ok ())) ∨
        (dryRunSystem Unit Unit).Enabled c (.subscribe ())) := by
  constructor
  · obtain ⟨log, c, hr, hlength⟩ := snapshot_run 65
    exact ⟨log, c, hr, (subscribe_returns hr ()).1 (by rw [hlength]; decide)⟩
  · obtain ⟨c, hc⟩ := exists_straddled
    exact ⟨c, hc.run, (subscribe_returns hc.run ()).2 (by decide)⟩

end Backlog

end GreenticEvents.DryRun
