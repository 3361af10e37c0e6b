import Mathlib.Data.List.Infix
import Mathlib.Logic.Function.Basic

/-!
# Broadcast channels

Each receiver reads the values sent since it was made, in their order.  The channel keeps
the last `capacity` values, and a receiver with more than these to read is told how many it
has lost.
-/

namespace GreenticEvents.Effects

/-- What was sent, and how many of these values each receiver has passed.  A value sent
while there is no receiver stands here too: receivers made later start behind it. -/
structure Broadcast (κ α : Type) where
  sent : List α
  passed : κ → Option ℕ

namespace Broadcast

variable {κ α : Type} [DecidableEq κ]

def new : Broadcast κ α := ⟨[], fun _ => none⟩

def send (b : Broadcast κ α) (a : α) : Broadcast κ α := { b with sent := b.sent ++ [a] }

def passTo (b : Broadcast κ α) (k : κ) (n : ℕ) : Broadcast κ α :=
  { b with passed := Function.update b.passed k (some n) }

def subscribe (b : Broadcast κ α) (k : κ) : Broadcast κ α := b.passTo k b.sent.length

/-- What a receiver is given; it waits while it has passed everything. -/
inductive Recv (capacity : ℕ) (b : Broadcast κ α) (k : κ) :
    Except ℕ α → Broadcast κ α → Prop
  | value {n : ℕ} {a : α} (here : b.passed k = some n) (unread : b.sent[n]? = some a)
      (kept : b.sent.length ≤ n + capacity) : Recv capacity b k (.ok a) (b.passTo k (n + 1))
  | lagged {n : ℕ} (here : b.passed k = some n) (lost : n + capacity < b.sent.length) :
      Recv capacity b k (.error (b.sent.length - capacity - n))
        (b.passTo k (b.sent.length - capacity))

/-- Receiver `k` was made when `before` had been sent, and was given `got` since. -/
structure Follows (b : Broadcast κ α) (k : κ) (before got : List α) : Prop where
  here : b.passed k = some (before ++ got).length
  sent : before ++ got <+: b.sent

variable {b b' : Broadcast κ α} {k k' : κ} {capacity : ℕ} {before got : List α}

omit [DecidableEq κ] in
@[simp] theorem sent_send (a : α) : (b.send a).sent = b.sent ++ [a] := rfl

@[simp] theorem sent_passTo (n : ℕ) : (b.passTo k n).sent = b.sent := rfl

@[simp] theorem sent_subscribe : (b.subscribe k).sent = b.sent := rfl

theorem Recv.sent_eq {r : Except ℕ α} (h : b.Recv capacity k r b') : b'.sent = b.sent := by
  cases h <;> rfl

theorem passed_passTo_of_ne (b : Broadcast κ α) (n : ℕ) (h : k ≠ k') :
    (b.passTo k' n).passed k = b.passed k :=
  Function.update_of_ne h ..

theorem Recv.passed_of_ne {r : Except ℕ α} (hr : b.Recv capacity k' r b') (h : k ≠ k') :
    b'.passed k = b.passed k := by
  cases hr <;> exact passed_passTo_of_ne b _ h

theorem follows_subscribe (b : Broadcast κ α) (k : κ) : (b.subscribe k).Follows k b.sent [] where
  here := by
    rw [List.append_nil]
    exact Function.update_self ..
  sent := by
    rw [List.append_nil]
    exact List.prefix_rfl

namespace Follows

omit [DecidableEq κ] in
theorem mono (h : b.Follows k before got) (hpassed : b'.passed k = b.passed k)
    (hsent : b.sent <+: b'.sent) : b'.Follows k before got where
  here := hpassed.trans h.here
  sent := h.sent.trans hsent

/-- A value that a receiver is given is the next one. -/
theorem recv {a : α} (h : b.Follows k before got) (hr : b.Recv capacity k (.ok a) b') :
    b'.Follows k before (got ++ [a]) := by
  obtain ⟨rest, hrest⟩ := h.sent
  cases hr with
  | @value n _ here unread kept =>
    obtain rfl := Option.some.inj (here.symm.trans h.here)
    constructor
    · show Function.update b.passed k _ k = _
      simp [Nat.add_assoc]
    · rw [← hrest, List.getElem?_append_right le_rfl, Nat.sub_self] at unread
      obtain ⟨rest, rfl⟩ := List.head?_eq_some_iff.mp (List.head?_eq_getElem?.trans unread)
      rw [sent_passTo, ← hrest, ← List.append_assoc, List.append_cons _ a rest]
      exact List.prefix_append ..

/-- A receiver that has not passed everything does not wait. -/
theorem exists_recv (h : b.Follows k before got)
    (hunread : (before ++ got).length < b.sent.length) (capacity : ℕ) :
    ∃ r b', b.Recv capacity k r b' := by
  by_cases hkept : b.sent.length ≤ (before ++ got).length + capacity
  · exact ⟨_, _, .value h.here (List.getElem?_eq_getElem hunread) hkept⟩
  · exact ⟨_, _, .lagged h.here (not_le.mp hkept)⟩

/-- A receiver loses nothing while no more values are sent than the channel keeps. -/
theorem not_lagged {missed : ℕ} (h : b.Follows k before got)
    (hkept : b.sent.length ≤ before.length + capacity) :
    ¬ b.Recv capacity k (.error missed) b' := by
  intro hr
  cases hr with
  | lagged here lost =>
    obtain rfl := Option.some.inj (here.symm.trans h.here)
    rw [List.length_append] at lost
    omega

omit [DecidableEq κ] in
theorem eq_sent (h : b.Follows k before got) (hall : b.sent.length ≤ (before ++ got).length) :
    before ++ got = b.sent :=
  h.sent.eq_of_length_le hall

end Follows

end Broadcast

end GreenticEvents.Effects
