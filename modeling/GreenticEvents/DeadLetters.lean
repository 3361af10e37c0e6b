import Mathlib.Algebra.Order.BigOperators.Group.Finset
import GreenticEvents.Concurrency

/-!
# Dead letters and their counter

The counter grows after every dead letter, whatever the provider answered to it.
-/

namespace GreenticEvents
open Data Effects Prog

def countsFailure (e : Event busInterface) : Bool := recorded? e == some .eventsFailed

/-- The provider calls after the failure was counted, which are those of `publish_to_dlq`. -/
def deadLetters (h : BusHistory) : List ProviderCall := calls (h.dropWhile (!countsFailure ·))

/-- No operation of the delivery before the failure is counted. -/
def Quiet (o : BusOp) : Prop := o ≠ .record .eventsFailed ∧ o ≠ .record .eventsDlq

def DeadLettersCounted (h : BusHistory) : Prop :=
  (recorded h).count .eventsDlq ≤ (deadLetters h).length

theorem deadLettersCounted_quiet {e : Event busInterface} (he : Quiet e.op) {h : BusHistory} :
    DeadLettersCounted (e :: h) ↔ DeadLettersCounted h := by
  obtain ⟨o, a⟩ := e
  cases o with
  | record m =>
    have hcount : (m :: recorded h).count .eventsDlq = (recorded h).count .eventsDlq :=
      List.count_cons_of_ne fun hm => he.2 (congrArg BusOp.record hm)
    have hletters : deadLetters (⟨.record m, a⟩ :: h) = deadLetters h := by
      cases m with
      | eventsFailed => exact absurd rfl he.1
      | _ => rfl
    show (m :: recorded h).count .eventsDlq ≤ _ ↔ _
    rw [hcount, hletters]
    exact Iff.rfl
  | _ => exact Iff.rfl

theorem deadLettersCounted_failed {a : Unit} {h : BusHistory} :
    DeadLettersCounted (⟨.record .eventsFailed, a⟩ :: h) ↔
      (recorded h).count .eventsDlq ≤ (calls h).length := by
  have hcount : (.eventsFailed :: recorded h).count .eventsDlq = (recorded h).count .eventsDlq :=
    List.count_cons_of_ne (by decide)
  show (.eventsFailed :: recorded h).count .eventsDlq ≤ (calls h).length ↔ _
  rw [hcount]

/-- Every history of `p`, finished or not, has a dead letter for each time it counted one. -/
def CountsDeadLetters {α : Type} (p : BusProg α) : Prop :=
  ∀ h q, Runs p h q → DeadLettersCounted h

variable {α β : Type}

theorem countsDeadLetters_ret (a : α) : CountsDeadLetters (.ret a) := by
  intro h q hr
  obtain ⟨rfl, -⟩ := runs_ret.mp hr
  exact Nat.zero_le _

theorem countsDeadLetters_ask {o : BusOp} {k : o.Ans → BusProg α} (ho : Quiet o)
    (hk : ∀ a, CountsDeadLetters (k a)) :
    CountsDeadLetters (.ask (I := busInterface) o k) := by
  intro h q hr
  rcases runs_ask.mp hr with ⟨rfl, -⟩ | ⟨a, h, rfl, hrest⟩
  · exact Nat.zero_le _
  · exact (deadLettersCounted_quiet ho).mpr (hk a h q hrest)

theorem countsDeadLetters_bind {p : BusProg α} {f : α → BusProg β} (hp : p.OnlyAsks Quiet)
    (hf : ∀ a, CountsDeadLetters (f a)) : CountsDeadLetters (p >>= f) := by
  induction p with
  | ret a => exact hf a
  | ask o k ih => exact countsDeadLetters_ask hp.1 fun a => ih a (hp.2 a)

variable {provider : ProviderRegistration} {event : EventEnvelope}

theorem retryLoop_quiet (attempt left : ℕ) (lastErr : Option String) :
    (retryLoop provider event attempt left lastErr).OnlyAsks Quiet := by
  induction left generalizing attempt lastErr with
  | zero => trivial
  | succ left ih =>
    refine ⟨by simp [Quiet], fun result => ?_⟩
    cases result with
    | ok u => trivial
    | error err =>
      show Prog.OnlyAsks _ (if _ then _ else _)
      split_ifs
      · trivial
      · exact ⟨by simp [Quiet], fun rng => ⟨by simp [Quiet], fun _ => ih _ _⟩⟩

/-- The dead letter is sent before it is counted. -/
theorem publishToDlq_counted {letter : EventEnvelope} {f : Unit → BusProg α}
    (hf : ∀ a, ∃ v, f a = .ret v) {h : BusHistory} {q : BusProg α}
    (hr : Runs (publishToDlq provider letter >>= f) h q) :
    (recorded h).count .eventsDlq ≤ (calls h).length := by
  rw [publishToDlq, BusProg.publish, perform_bind, ask_bind, runs_ask] at hr
  rcases hr with ⟨rfl, -⟩ | ⟨result, h, rfl, hr⟩
  · exact Nat.zero_le _
  · rw [BusProg.record, perform, ask_bind, runs_ask] at hr
    rcases hr with ⟨rfl, -⟩ | ⟨a, h, rfl, hr⟩
    · exact Nat.zero_le _
    · obtain ⟨v, hv⟩ := hf a
      rw [ret_bind, hv] at hr
      obtain ⟨rfl, -⟩ := runs_ret.mp hr
      exact le_rfl

theorem deliver_countsDeadLetters : CountsDeadLetters (deliver provider event) := by
  refine countsDeadLetters_bind (retryLoop_quiet _ _ _) fun result => ?_
  cases result with
  | ok u => exact countsDeadLetters_ask (by simp [Quiet]) fun _ => countsDeadLetters_ret _
  | error err =>
    intro h q hr
    dsimp only at hr
    rw [BusProg.record, perform_bind, runs_ask] at hr
    rcases hr with ⟨rfl, -⟩ | ⟨a, h, rfl, hr⟩
    · exact Nat.zero_le _
    · exact deadLettersCounted_failed.mpr (publishToDlq_counted (fun _ => ⟨_, rfl⟩) hr)

theorem countsDeadLetters_perform {o : BusOp} (ho : Quiet o) {f : o.Ans → BusProg α}
    (hf : ∀ a, CountsDeadLetters (f a)) :
    CountsDeadLetters (Prog.perform (I := busInterface) o >>= f) :=
  countsDeadLetters_ask ho hf

theorem publishRouted_countsDeadLetters : CountsDeadLetters (publishRouted provider event) := by
  unfold publishRouted
  apply countsDeadLetters_perform (by simp [Quiet])
  intro _
  split
  · apply countsDeadLetters_perform (by simp [Quiet])
    intro fresh
    split_ifs
    · exact deliver_countsDeadLetters
    · exact countsDeadLetters_ret _
  · exact deliver_countsDeadLetters

theorem publish_countsDeadLetters (bus : EventBus) : CountsDeadLetters (bus.publish event) := by
  unfold EventBus.publish
  apply countsDeadLetters_perform (by simp [Quiet])
  intro _
  split
  · exact countsDeadLetters_ret _
  · apply countsDeadLetters_perform (by simp [Quiet])
    intro _
    split
    · exact countsDeadLetters_ret _
    · exact publishRouted_countsDeadLetters

variable {ι σ : Type} [DecidableEq ι] {store : ι → IdempotencyStore σ} {bus : ι → EventBus}
  {events : ι → EventEnvelope} {log : BusLog ι}
  {c : Config ι (BusState σ) (BusProg (Result Unit))}

def acceptedDeadLetters (log : BusLog ι) : ℕ :=
  ∑ i ∈ participants log, (deadLetters (localHistory i log)).countP ProviderCall.accepted

/-- In a run in which every dead letter sent is accepted, the counter never exceeds the
accepted dead letters. -/
theorem eventsDlq_le_accepted {idempotency : σ}
    (hr : (busSystem store).Run (publishing bus events ⟨.new, idempotency⟩) log c)
    (haccepted : ∀ i, ∀ letter ∈ deadLetters (localHistory i log), letter.accepted = true) :
    c.shared.metrics.eventsDlqTotal.toNat ≤ acceptedDeadLetters log := by
  have hcount : c.shared.metrics.eventsDlqTotal = .ofNat (recordCount .eventsDlq log) := by
    have := metrics_run hr .eventsDlq
    rwa [show (EventMetrics.new.get .eventsDlq) = 0 from rfl, UInt64.zero_add] at this
  calc
    c.shared.metrics.eventsDlqTotal.toNat ≤ recordCount .eventsDlq log := by
      rw [hcount, UInt64.toNat_ofNat']
      exact Nat.mod_le _ _
    _ = ∑ i ∈ participants log, (recorded (localHistory i log)).count .eventsDlq :=
      recordCount_eq_sum _ log
    _ ≤ acceptedDeadLetters log := by
      apply Finset.sum_le_sum
      intro i _
      rw [List.countP_eq_length.mpr (haccepted i)]
      exact publish_countsDeadLetters (bus i) _ _ (hr.local i)

/-- A new bus state in which the first provider call fails and the rest get `result`. -/
def World.failing (result : Except String Unit) : World InMemoryIdempotencyStore :=
  ⟨⟨.new, .new⟩, fun n => if n = 0 then .error "down" else result, fun _ => zeroRng⟩

def failedCall (result : Except String Unit) : BusLog Unit :=
  (wildcardBus.execPublish InMemoryIdempotencyStore.store keyedEvent
    (.failing result)).history.map (.act ())

theorem failedCall_run (result : Except String Unit) :
    ∃ c, (busSystem fun _ => InMemoryIdempotencyStore.store).Run
      (publishing (fun _ => wildcardBus) (fun _ => keyedEvent) ⟨.new, .new⟩) (failedCall result) c ∧
      c.shared.metrics.eventsDlqTotal = 1 :=
  ⟨_, execPublish_run (fun _ => InMemoryIdempotencyStore.store) wildcardBus keyedEvent ()
    (.failing result) (fun _ => wildcardBus.publish keyedEvent) rfl, by cases result <;> rfl⟩

theorem eventsDlq_le_accepted_failedCall :
    ∃ c, (busSystem fun _ => InMemoryIdempotencyStore.store).Run
      (publishing (fun _ => wildcardBus) (fun _ => keyedEvent) ⟨.new, .new⟩)
      (failedCall (.ok ())) c ∧
      c.shared.metrics.eventsDlqTotal.toNat ≤ acceptedDeadLetters (failedCall (.ok ())) := by
  obtain ⟨c, hr, -⟩ := failedCall_run (.ok ())
  refine ⟨c, hr, eventsDlq_le_accepted hr ?_⟩
  rintro ⟨⟩
  decide

/-- A dead letter that the provider refuses is counted too. -/
theorem refused_dead_letter_counted :
    ¬ ∀ (bus : Unit → EventBus) (events : Unit → EventEnvelope) (log : BusLog Unit)
        (c : Config Unit (BusState InMemoryIdempotencyStore) (BusProg (Result Unit))),
      (busSystem fun _ => InMemoryIdempotencyStore.store).Run
        (publishing bus events ⟨.new, .new⟩) log c →
      c.shared.metrics.eventsDlqTotal.toNat ≤ acceptedDeadLetters log := by
  intro hall
  obtain ⟨c, hr, hone⟩ := failedCall_run (.error "down")
  have hle := hall _ _ _ c hr
  have hnone : acceptedDeadLetters (failedCall (.error "down")) = 0 := by decide
  rw [hone, hnone] at hle
  exact absurd hle (by decide)

end GreenticEvents
