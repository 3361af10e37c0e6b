import GreenticEvents.DryRunDelivery

/-!
# Publishes around a dry-run subscription

A publish and a subscription each take two steps on the provider.  An event that is published
between the two of a subscription is lost for it; one whose two steps lie around them comes
twice.
-/

namespace GreenticEvents.DryRun
open Effects Prog DryRunProvider

variable {π κ : Type} [DecidableEq π] [DecidableEq κ] {event : π → EventEnvelope}
  {options : κ → SubscriptionOptions} {log : DryRunLog π κ}
  {c : Config (DryRunActor π κ) (DryRunState κ) (DryRunProc κ)} {k : κ}

def pushes : Event (dryRunInterface κ) → Bool
  | ⟨.push _, _⟩ => true
  | _ => false

def broadcasting : Event (dryRunInterface κ) → Bool
  | ⟨.broadcast _, _⟩ => true
  | _ => false

def publisher? (p : Event (dryRunInterface κ) → Bool) : DryRunLabel π κ → Option π
  | .act (.publish i) e => if p e then some i else none
  | _ => none

def push? : DryRunLabel π κ → Option EventEnvelope
  | .act _ ⟨.push event, _⟩ => some event
  | _ => none

theorem mem_localHistory_of_mem {i : DryRunActor π κ} {e : Event (dryRunInterface κ)}
    (h : (.act i e : DryRunLabel π κ) ∈ log) : e ∈ localHistory i log := by
  obtain ⟨before, after, rfl⟩ := List.append_of_mem h
  rw [localHistory_append, localHistory, if_pos rfl]
  exact List.mem_append_right _ List.mem_cons_self

/-- Only a publish pushes, and its own event. -/
theorem push?_run (hr : (dryRunSystem π κ).Run (dryRunStart event options) log c)
    {l : DryRunLabel π κ} (hl : l ∈ log) : push? l = (publisher? pushes l).map event := by
  cases l with
  | env action => rfl
  | act i e =>
    have hallowed := allowed_run hr i e (mem_localHistory_of_mem hl)
    obtain ⟨o, a⟩ := e
    cases o with
    | push e =>
      cases i with
      | publish i => exact congrArg some hallowed
      | subscribe k | forward k => exact hallowed.elim
    | _ => cases i <;> rfl

theorem broadcast?_run (hr : (dryRunSystem π κ).Run (dryRunStart event options) log c)
    {l : DryRunLabel π κ} (hl : l ∈ log) :
    broadcast? l = (publisher? broadcasting l).map event := by
  cases l with
  | env action => rfl
  | act i e =>
    have hallowed := allowed_run hr i e (mem_localHistory_of_mem hl)
    obtain ⟨o, a⟩ := e
    cases o with
    | broadcast e =>
      cases i with
      | publish i => exact congrArg some hallowed
      | subscribe k | forward k => exact hallowed.elim
    | _ => cases i <;> rfl

/-- The provider's list is what was pushed. -/
def ListsPushes (log : DryRunLog π κ) (s : DryRunState κ) : Prop :=
  s.published = log.filterMap push?

theorem listsPushes (hr : (dryRunSystem π κ).Run (dryRunStart event options) log c) :
    ListsPushes log c.shared := by
  refine hr.invariant rfl ?_ ?_
  · intro log s i e s' hinv hs
    obtain ⟨o, a⟩ := e
    rw [ListsPushes, filterMap_snoc, ← hinv]
    cases o with
    | push e =>
      cases hs
      rfl
    | broadcast e | openReceiver k | spawn k =>
      cases hs
      exact (List.append_nil _).symm
    | snapshot =>
      obtain ⟨-, rfl⟩ := hs
      exact (List.append_nil _).symm
    | send k e =>
      obtain ⟨channel, -, rfl⟩ := hs
      exact (List.append_nil _).symm
    | recv k =>
      obtain ⟨-, feed, -, rfl⟩ := hs
      exact (List.append_nil _).symm
  · intro log s action s' hinv hs
    obtain ⟨-, channel, -, rfl⟩ := hs
    rw [ListsPushes, filterMap_snoc, ← hinv]
    exact (List.append_nil _).symm

/-- What a subscription does after its snapshot. -/
abbrev later (k : κ) (events : List EventEnvelope) : DryRunProg κ (Except String Unit) :=
  sendExisting k events >>= fun _ => connect k

section Later

omit [DecidableEq π] [DecidableEq κ]

theorem connect_no_snapshot (k : κ) : (connect k).OnlyAsks fun o : DryRunOp κ => o ≠ .snapshot :=
  ⟨by simp, fun _ => ⟨by simp, fun _ => trivial⟩⟩

theorem later_no_snapshot (k : κ) (events : List EventEnvelope) :
    (later k events).OnlyAsks fun o : DryRunOp κ => o ≠ .snapshot := by
  refine OnlyAsks.bind ?_ fun _ => connect_no_snapshot k
  induction events with
  | nil => trivial
  | cons e events ih =>
    refine ⟨by simp, fun result => ?_⟩
    cases result with
    | error back => trivial
    | ok u => exact ih

theorem no_snapshot_after {p : DryRunProg κ (Except String Unit)}
    (hp : p.OnlyAsks fun o : DryRunOp κ => o ≠ .snapshot) {h : List (Event (dryRunInterface κ))}
    {q : DryRunProc κ} (hafter : After DryRunProc.next (.call p) h q) :
    ∀ e ∈ h, e.op ≠ .snapshot := by
  have hstart : Keeps (fun o => o ≠ .snapshot) none (.call p) := hp
  exact hafter.asks_only hstart fun _ _ _ hp asks => hp.step asks

end Later

omit [DecidableEq κ] in
/-- A call on the provider takes at most one snapshot, and takes it first. -/
theorem one_snapshot {options : SubscriptionOptions} {h h' : List (Event (dryRunInterface κ))}
    {events : List EventEnvelope} {q : DryRunProc κ}
    (hafter : After DryRunProc.next (.call (DryRunProvider.subscribe k options))
      (h ++ ⟨.snapshot, events⟩ :: h') q) :
    h = [] ∧ ∀ e ∈ h', e.op ≠ .snapshot := by
  have hmem : (⟨.snapshot, events⟩ : Event (dryRunInterface κ)) ∈ h ++ ⟨.snapshot, events⟩ :: h' :=
    List.mem_append_right _ List.mem_cons_self
  unfold DryRunProvider.subscribe at hafter
  split_ifs at hafter with hexisting
  · cases h with
    | nil =>
      obtain ⟨f, asks, rest⟩ := After.cons_iff.mp hafter
      cases asks
      exact ⟨rfl, no_snapshot_after (later_no_snapshot k events) rest⟩
    | cons e h =>
      obtain ⟨f, asks, rest⟩ := After.cons_iff.mp hafter
      obtain ⟨o, a⟩ := e
      cases asks
      have hlate := no_snapshot_after (later_no_snapshot k a) rest
      exact absurd rfl (hlate _ (List.mem_append_right _ List.mem_cons_self))
  · exact absurd rfl (no_snapshot_after (connect_no_snapshot k) hafter _ hmem)

theorem existing?_none {l : DryRunLog π κ}
    (hl : ∀ e ∈ localHistory (.subscribe k) l, e.op ≠ .snapshot) :
    l.filterMap (existing? k) = [] := by
  rw [List.filterMap_eq_nil_iff]
  intro lab hlab
  cases lab with
  | env action => rfl
  | act i e =>
    by_cases hi : owner? i = some k
    · cases i with
      | publish i => rfl
      | forward k' => rfl
      | subscribe k' =>
        cases hi
        have hne := hl e (mem_localHistory_of_mem hlab)
        obtain ⟨o, a⟩ := e
        cases o with
        | snapshot => exact absurd rfl hne
        | _ => rfl
    · exact existing?_of_owner hi e

/-- The snapshot is all that a subscription begins with. -/
theorem existing_eq {before after : DryRunLog π κ} {events : List EventEnvelope}
    (hr : (dryRunSystem π κ).Run (dryRunStart event options)
      (before ++ .act (.subscribe k) ⟨.snapshot, events⟩ :: after) c) :
    existing k (before ++ .act (.subscribe k) ⟨.snapshot, events⟩ :: after) = events := by
  have hafter := hr.local (.subscribe k)
  rw [localHistory_append, localHistory, if_pos rfl] at hafter
  obtain ⟨hbefore, hlater⟩ := one_snapshot hafter
  have hnone : before.filterMap (existing? k) = [] := by
    apply existing?_none
    rw [hbefore]
    exact fun e he => absurd he List.not_mem_nil
  rw [existing, List.filterMap_append, hnone, List.filterMap_cons, existing?_none hlater]
  simp [existing?]

omit [DecidableEq π] in
theorem Point.unopened_of_asks {options : SubscriptionOptions} {s : DryRunState κ}
    {call : DryRunProg κ (Except String Unit)} {task : DryRunProg κ Bool}
    (hp : Point k options log s call task)
    {f : Unit → DryRunProg κ (Except String Unit)}
    (asks : call.next = some ⟨.openReceiver k, f⟩) : log.any (opens k) = false := by
  cases hp with
  | start unopened => exact unopened
  | sending unopened => exact unopened
  | spawning | waiting | forwarding | lagged | dropped => cases asks

/-- A subscription makes its receiver once. -/
theorem live_eq {before after : DryRunLog π κ}
    (hr : (dryRunSystem π κ).Run (dryRunStart event options)
      (before ++ .act (.subscribe k) ⟨.openReceiver k, ()⟩ :: after) c) :
    live k (before ++ .act (.subscribe k) ⟨.openReceiver k, ()⟩ :: after) = broadcasts after := by
  obtain ⟨c₀, hbefore, hrest⟩ := hr.split
  obtain ⟨call, task, hplaced⟩ := placed hbefore k
  obtain ⟨f, asks, -⟩ : ∃ f, DryRunProc.next (c₀.proc (.subscribe k)) =
      some ⟨.openReceiver k, f⟩ ∧ _ := by
    have hafter := hrest.local (.subscribe k)
    rw [localHistory, if_pos rfl] at hafter
    exact After.cons_iff.mp hafter
  rw [hplaced.calling] at asks
  obtain ⟨⟨o, f'⟩, hnext, hsame⟩ := Option.map_eq_some_iff.mp asks
  cases hsame
  exact live_open (hplaced.point.unopened_of_asks hnext) (by simp [opens]) after

/-- The publishes offered to a subscription that takes its snapshot after `before` and makes
its receiver before `after`. -/
def offers (before after : DryRunLog π κ) : List π :=
  before.filterMap (publisher? pushes) ++ after.filterMap (publisher? broadcasting)

theorem count_publisher (p : Event (dryRunInterface κ) → Bool) (i : π) (l : DryRunLog π κ) :
    (l.filterMap (publisher? p)).count i = (localHistory (.publish i) l).countP p := by
  induction l with
  | nil => rfl
  | cons lab l ih =>
    cases lab with
    | env action => exact ih
    | act j e =>
      cases j with
      | publish j =>
        rw [List.filterMap_cons, publisher?, localHistory]
        by_cases h : j = i <;> cases hp : p e <;> simp [h, hp, ih]
      | subscribe k | forward k => exact ih

theorem publish_history (hr : (dryRunSystem π κ).Run (dryRunStart event options) log c) (i : π)
    (hdone : c.proc (.publish i) = .call (.ret (.ok ()))) :
    localHistory (.publish i) log = [⟨.push (event i), ()⟩, ⟨.broadcast (event i), ()⟩] := by
  have hafter := hr.local (.publish i)
  rw [hdone] at hafter
  generalize localHistory (.publish i) log = h at hafter
  cases hafter with
  | step asks rest =>
    cases asks
    cases rest with
    | step asks rest =>
      cases asks
      cases rest with
      | refl => rfl
      | step asks rest => cases asks

omit [DecidableEq π] [DecidableEq κ] in
/-- The two steps of a publish cut in three: the first is a push, the last a broadcast. -/
theorem count_cut {e : EventEnvelope} {h₁ h₂ h₃ : List (Event (dryRunInterface κ))}
    (h : h₁ ++ (h₂ ++ h₃) = [⟨.push e, ()⟩, ⟨.broadcast e, ()⟩]) :
    h₁.countP pushes + h₃.countP broadcasting =
      (if h₁ = [] then 0 else 1) + if h₃ = [] then 0 else 1 := by
  have hfirst : h₁ <+: [⟨.push e, ()⟩, ⟨.broadcast e, ()⟩] := ⟨_, h⟩
  have hlast : h₃ <:+ [⟨.push e, ()⟩, ⟨.broadcast e, ()⟩] :=
    ⟨h₁ ++ h₂, by rw [← h, List.append_assoc]⟩
  congr 1
  · simp only [List.prefix_cons_iff, List.prefix_nil] at hfirst
    obtain rfl | ⟨t, rfl, rfl | ⟨t, rfl, rfl⟩⟩ := hfirst <;> rfl
  · simp only [List.suffix_cons_iff, List.suffix_nil] at hlast
    obtain rfl | rfl | rfl := hlast <;> rfl

/-- What a subscription is offered is what was pushed before its snapshot and what is broadcast
after its receiver was made.  A finished publish is offered once for having begun before the
snapshot and once more for having ended after the receiver was made: twice if both, and not at
all if both its steps lie between. -/
theorem offered_once_each (before between after : DryRunLog π κ) (events : List EventEnvelope)
    (hlog : log = before ++ .act (.subscribe k) ⟨.snapshot, events⟩ ::
      (between ++ .act (.subscribe k) ⟨.openReceiver k, ()⟩ :: after))
    (hr : (dryRunSystem π κ).Run (dryRunStart event options) log c) :
    (offers before after).map event = existing k log ++ live k log ∧
    ∀ i, c.proc (.publish i) = .call (.ret (.ok ())) →
      (offers before after).count i =
        (if localHistory (.publish i) before = [] then 0 else 1) +
        if localHistory (.publish i) after = [] then 0 else 1 := by
  constructor
  · have hexisting : existing k log = events := by
      rw [hlog] at hr ⊢
      exact existing_eq hr
    -- the log is cut at the snapshot for the first part, at the receiver for the second
    have hlive : live k log = broadcasts after := by
      have hcut : log = (before ++ .act (.subscribe k) ⟨.snapshot, events⟩ :: between) ++
          .act (.subscribe k) ⟨.openReceiver k, ()⟩ :: after := by
        simp [hlog]
      rw [hcut] at hr ⊢
      exact live_eq hr
    have hevents : events = before.filterMap push? := by
      rw [hlog, List.append_cons] at hr
      obtain ⟨c₁, hsnapshot, -⟩ := hr.split
      obtain ⟨c₀, hbefore, answers⟩ := hsnapshot.last_act
      rw [← listsPushes hbefore]
      exact answers.1
    rw [hexisting, hlive, hevents, offers, List.map_append, List.map_filterMap,
      List.map_filterMap, broadcasts]
    congr 1
    · apply List.filterMap_congr
      intro l hl
      refine (push?_run hr ?_).symm
      rw [hlog]
      exact List.mem_append_left _ hl
    · apply List.filterMap_congr
      intro l hl
      refine (broadcast?_run hr ?_).symm
      rw [hlog]
      simp [hl]
  · intro i hdone
    have hhistory := publish_history hr i hdone
    rw [hlog] at hhistory
    simp only [localHistory_append, localHistory, reduceCtorEq, if_false] at hhistory
    rw [offers, List.count_append, count_publisher, count_publisher, count_cut hhistory]

theorem offered_once_each_straddling :
    (offers (straddling.take 1) (straddling.drop 4)).count () = 2 := by
  obtain ⟨c, hc⟩ := exists_straddled
  exact (offered_once_each (straddling.take 1) [_] (straddling.drop 4) [oneOrder] rfl hc.run).2 ()
    hc.publish

end GreenticEvents.DryRun
