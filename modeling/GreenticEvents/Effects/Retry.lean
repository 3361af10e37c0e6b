import Mathlib.Data.List.Basic

/-!
# Retry loops

A retry loop makes at most `left` attempts and waits between them.  It ends with
the first success, the first error that it rejects, or its last attempt.
-/

namespace GreenticEvents.Effects

variable {ε ρ δ : Type}

/-- What a retry loop did: the error of each attempt, if any, the draws for its
delays and the delays. -/
structure Attempts (ε ρ δ : Type) where
  outcomes : List (Option ε)
  draws : List ρ
  delays : List δ

inductive RetryLoop (rejects : ε → Bool) (delay : ρ → ℕ → δ) :
    (attempt left : ℕ) → Attempts ε ρ δ → Prop
  | succeeded {attempt left : ℕ} : RetryLoop rejects delay attempt (left + 1) ⟨[none], [], []⟩
  | stopped {attempt left : ℕ} {err : ε} (final : left = 0 ∨ rejects err = true) :
      RetryLoop rejects delay attempt (left + 1) ⟨[some err], [], []⟩
  | retried {attempt left : ℕ} {err : ε} {draw : ρ} {rest : Attempts ε ρ δ} (more : left ≠ 0)
      (accepted : rejects err = false) (again : RetryLoop rejects delay (attempt + 1) left rest) :
      RetryLoop rejects delay attempt (left + 1)
        ⟨some err :: rest.outcomes, draw :: rest.draws, delay draw (attempt + 1) :: rest.delays⟩

/-- `l` is the beginning of the sequence `f`. -/
def Begins {α : Type} (l : List α) (f : ℕ → α) : Prop := ∀ n a, l[n]? = some a → a = f n

theorem begins_nil {α : Type} (f : ℕ → α) : Begins [] f := nofun

theorem begins_cons {α : Type} {a : α} {l : List α} {f : ℕ → α} :
    Begins (a :: l) f ↔ a = f 0 ∧ Begins l fun n => f (n + 1) := by
  constructor
  · intro h
    exact ⟨h 0 a rfl, fun n b hb => h (n + 1) b hb⟩
  · rintro ⟨rfl, h⟩ n b hb
    cases n with
    | zero => exact (Option.some.inj hb).symm
    | succ n => exact h n b hb

theorem begins_append {α : Type} {l l' : List α} {f : ℕ → α} :
    Begins (l ++ l') f ↔ Begins l f ∧ Begins l' fun n => f (l.length + n) := by
  induction l generalizing f with
  | nil => simp [begins_nil]
  | cons a l ih =>
    rw [List.cons_append, begins_cons, begins_cons, ih, and_assoc]
    simp only [List.length_cons, Nat.add_right_comm _ 1]

namespace RetryLoop

variable {rejects rejects' : ε → Bool} {delay : ρ → ℕ → δ} {attempt left : ℕ}
  {run run' : Attempts ε ρ δ} {outcomes : ℕ → Option ε} {draws : ℕ → ρ}

theorem outcomes_ne_nil (h : RetryLoop rejects delay attempt left run) : run.outcomes ≠ [] := by
  cases h <;> exact List.cons_ne_nil _ _

/-- An attempt with another one after it failed with an error that is not rejected. -/
theorem error_accepted (h : RetryLoop rejects delay attempt left run) {n : ℕ}
    (hn : n + 1 < run.outcomes.length) :
    ∃ err, run.outcomes[n]? = some (some err) ∧ rejects err = false := by
  induction h generalizing n with
  | succeeded => simp at hn
  | stopped => simp at hn
  | @retried _ _ err _ _ _ accepted _ ih =>
    cases n with
    | zero => exact ⟨err, rfl, accepted⟩
    | succ n => exact ih (by simpa using hn)

/-- A delay stands between every two attempts. -/
theorem delays_length (h : RetryLoop rejects delay attempt left run) :
    run.delays.length + 1 = run.outcomes.length := by
  induction h with
  | succeeded => rfl
  | stopped => rfl
  | retried _ _ _ ih => simpa using ih

theorem delay_eq (h : RetryLoop rejects delay attempt left run) {n : ℕ} {d : δ}
    (hd : run.delays[n]? = some d) : ∃ draw, d = delay draw (attempt + n + 1) := by
  induction h generalizing n with
  | succeeded => simp at hd
  | stopped => simp at hd
  | @retried attempt _ _ draw _ _ _ _ ih =>
    cases n with
    | zero => exact ⟨draw, (Option.some.inj hd).symm⟩
    | succ n =>
      obtain ⟨draw, rfl⟩ := ih (by simpa using hd)
      exact ⟨draw, congrArg (delay draw) (by omega)⟩

theorem outcomes_length_le (h : RetryLoop rejects delay attempt left run) :
    run.outcomes.length ≤ left := by
  induction h with
  | succeeded => exact Nat.succ_le_succ (Nat.zero_le _)
  | stopped => exact Nat.succ_le_succ (Nat.zero_le _)
  | retried _ _ _ ih => exact Nat.succ_le_succ ih

/-- Errors that are not rejected lead to another attempt while one is left. -/
theorem continues (h : RetryLoop rejects delay attempt left run)
    (ho : Begins run.outcomes outcomes) {n : ℕ} (hn : n + 1 < left)
    (herr : ∀ m ≤ n, ∃ err, outcomes m = some err ∧ rejects err = false) :
    n + 1 < run.outcomes.length := by
  induction h generalizing n outcomes with
  | succeeded =>
    obtain ⟨err, he, _⟩ := herr 0 (Nat.zero_le n)
    cases (begins_cons.mp ho).1.trans he
  | stopped final =>
    obtain ⟨err, he, hacc⟩ := herr 0 (Nat.zero_le n)
    cases (begins_cons.mp ho).1.trans he
    rcases final with rfl | hrej
    · omega
    · cases hrej.symm.trans hacc
  | retried more accepted again ih =>
    rw [List.length_cons]
    cases n with
    | zero => exact Nat.succ_lt_succ (List.length_pos_of_ne_nil again.outcomes_ne_nil)
    | succ n =>
      apply Nat.succ_lt_succ
      exact ih (begins_cons.mp ho).2 (Nat.lt_of_succ_lt_succ hn) fun m hm =>
        herr (m + 1) (Nat.succ_le_succ hm)

/-- The same of the errors are rejected that a loop meets before the last of `left` attempts. -/
def SameRejections (rejects rejects' : ε → Bool) (outcomes : ℕ → Option ε) (left : ℕ) : Prop :=
  ∀ n err, n + 1 < left → (∀ m ≤ n, outcomes m ≠ none) → outcomes n = some err →
    rejects err = rejects' err

theorem SameRejections.head {err : ε} (h : SameRejections rejects rejects' outcomes (left + 1))
    (hleft : left ≠ 0) (herr : some err = outcomes 0) : rejects err = rejects' err := by
  apply h 0 err (by omega) _ herr.symm
  intro m hm
  rw [Nat.le_zero.mp hm, ← herr]
  exact Option.some_ne_none err

theorem SameRejections.tail {err : ε} (h : SameRejections rejects rejects' outcomes (left + 1))
    (herr : some err = outcomes 0) :
    SameRejections rejects rejects' (fun n => outcomes (n + 1)) left := by
  intro n e hn hnone he
  apply h (n + 1) e (by omega) _ he
  intro m hm
  cases m with
  | zero =>
    rw [← herr]
    exact Option.some_ne_none err
  | succ m => exact hnone m (Nat.le_of_succ_le_succ hm)

/-- Two loops do the same on the same outcomes if they reject the same of the errors
that either meets before its last attempt. -/
theorem agree (h : RetryLoop rejects delay attempt left run)
    (h' : RetryLoop rejects' delay attempt left run') (ho : Begins run.outcomes outcomes)
    (ho' : Begins run'.outcomes outcomes) (hd : Begins run.draws draws)
    (hd' : Begins run'.draws draws) (hsame : SameRejections rejects rejects' outcomes left) :
    run = run' := by
  induction h generalizing run' outcomes draws with
  | succeeded =>
    have he := (begins_cons.mp ho).1
    cases h' with
    | succeeded => rfl
    | stopped => cases he.trans (begins_cons.mp ho').1.symm
    | retried => cases he.trans (begins_cons.mp ho').1.symm
  | stopped final =>
    have he := (begins_cons.mp ho).1
    cases h' with
    | succeeded => cases he.trans (begins_cons.mp ho').1.symm
    | stopped =>
      cases he.trans (begins_cons.mp ho').1.symm
      rfl
    | retried more accepted' =>
      -- one loop stops where the other goes on, on an error that both judge alike
      cases he.trans (begins_cons.mp ho').1.symm
      have hrej := final.resolve_left more
      cases hrej.symm.trans ((hsame.head more he).trans accepted')
  | retried more accepted again ih =>
    obtain ⟨he, horest⟩ := begins_cons.mp ho
    cases h' with
    | succeeded => cases he.trans (begins_cons.mp ho').1.symm
    | stopped final' =>
      cases he.trans (begins_cons.mp ho').1.symm
      have hrej := final'.resolve_left more
      cases accepted.symm.trans ((hsame.head more he).trans hrej)
    | retried more' accepted' again' =>
      obtain ⟨he', horest'⟩ := begins_cons.mp ho'
      obtain ⟨hdraw, hdrest⟩ := begins_cons.mp hd
      obtain ⟨hdraw', hdrest'⟩ := begins_cons.mp hd'
      cases he.trans he'.symm
      obtain rfl := hdraw.trans hdraw'.symm
      have hrest := ih again' horest horest' hdrest hdrest' (hsame.tail he)
      rw [hrest]

end RetryLoop

end GreenticEvents.Effects
