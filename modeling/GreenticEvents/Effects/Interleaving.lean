import Mathlib.Algebra.BigOperators.Group.Finset.Piecewise
import GreenticEvents.Effects.Program

/-!
# Interleaved processes over a shared state

Processes indexed by `ι` ask operations of one shared state, an outside party
changes that state as it likes, and every step of a run is one operation of one
process or one outside action.
-/

namespace GreenticEvents.Effects

/-- `E` is what the outside party may do and `S` the shared state. -/
structure System (ι : Type) (I : Interface) (E S P : Type) where
  next : Next I P
  /-- The answers the shared state may give process `i`, and the state after. -/
  handle : ι → S → Event I → S → Prop
  react : S → E → S → Prop

inductive Label (ι : Type) (I : Interface) (E : Type) where
  | act (i : ι) (e : Event I)
  | env (e : E)

structure Config (ι S P : Type) where
  shared : S
  proc : ι → P

variable {ι : Type} {I : Interface} {E S P : Type}

/-- The operations process `i` has asked, oldest first. -/
def localHistory [DecidableEq ι] (i : ι) : List (Label ι I E) → List (Event I)
  | [] => []
  | .act j e :: log => if j = i then e :: localHistory i log else localHistory i log
  | .env _ :: log => localHistory i log

def globalHistory : List (Label ι I E) → List (ι × Event I)
  | [] => []
  | .act j e :: log => (j, e) :: globalHistory log
  | .env _ :: log => globalHistory log

section History

variable [DecidableEq ι]

theorem localHistory_append (i : ι) (log log' : List (Label ι I E)) :
    localHistory i (log ++ log') = localHistory i log ++ localHistory i log' := by
  induction log with
  | nil => rfl
  | cons l log ih =>
    cases l with
    | act j e =>
      by_cases h : j = i <;> simp [localHistory, h, ih]
    | env e => exact ih

@[simp] theorem localHistory_nil (i : ι) : localHistory i ([] : List (Label ι I E)) = [] := rfl

@[simp] theorem localHistory_snoc_act (i j : ι) (log : List (Label ι I E)) (e : Event I) :
    localHistory i (log ++ [.act j e]) =
      localHistory i log ++ if j = i then [e] else [] := by
  rw [localHistory_append]
  by_cases h : j = i <;> simp [localHistory, h]

theorem localHistory_map_act (i : ι) (h : List (Event I)) :
    localHistory i (h.map fun e => (.act i e : Label ι I E)) = h := by
  induction h with
  | nil => rfl
  | cons e h ih => rw [List.map_cons, localHistory, if_pos rfl, ih]

@[simp] theorem localHistory_snoc_env (i : ι) (log : List (Label ι I E)) (e : E) :
    localHistory i (log ++ [.env e]) = localHistory i log := by
  rw [localHistory_append]
  exact List.append_nil _

end History

theorem globalHistory_append (log log' : List (Label ι I E)) :
    globalHistory (log ++ log') = globalHistory log ++ globalHistory log' := by
  induction log with
  | nil => rfl
  | cons l log ih => cases l <;> simp [globalHistory, ih]

@[simp] theorem globalHistory_nil : globalHistory ([] : List (Label ι I E)) = [] := rfl

@[simp] theorem globalHistory_snoc_act (j : ι) (log : List (Label ι I E)) (e : Event I) :
    globalHistory (log ++ [.act j e]) = globalHistory log ++ [(j, e)] :=
  globalHistory_append _ _

@[simp] theorem globalHistory_snoc_env (log : List (Label ι I E)) (e : E) :
    globalHistory (log ++ [.env e]) = globalHistory log := by
  rw [globalHistory_append]
  exact List.append_nil _

/-- The steps of the processes in `keep`, and those of the outside. -/
def restrict (keep : ι → Prop) [DecidablePred keep] (log : List (Label ι I E)) :
    List (Label ι I E) :=
  log.filter fun
    | .act i _ => decide (keep i)
    | .env _ => true

section Restrict

variable {keep : ι → Prop} [DecidablePred keep]

theorem restrict_snoc_act (log : List (Label ι I E)) (i : ι) (e : Event I) :
    restrict keep (log ++ [.act i e]) = restrict keep log ++ if keep i then [.act i e] else [] := by
  rw [restrict, List.filter_append]
  by_cases hi : keep i <;> simp [restrict, hi]

theorem restrict_snoc_env (log : List (Label ι I E)) (e : E) :
    restrict keep (log ++ [.env e]) = restrict keep log ++ [.env e] :=
  List.filter_append ..

theorem localHistory_restrict [DecidableEq ι] (log : List (Label ι I E)) (i : ι) :
    localHistory i (restrict keep log) = if keep i then localHistory i log else [] := by
  induction log using List.reverseRecOn with
  | nil => simp [restrict]
  | append_singleton log l ih =>
    cases l with
    | act j e =>
      rw [restrict_snoc_act, localHistory_append, ih, localHistory_snoc_act]
      by_cases hij : j = i
      · subst hij
        by_cases hj : keep j <;> simp [localHistory, hj]
      · by_cases hj : keep j <;> simp [localHistory, hij, hj]
    | env e => rw [restrict_snoc_env, localHistory_snoc_env, ih, localHistory_snoc_env]

end Restrict

variable [DecidableEq ι]

theorem mem_localHistory {i : ι} {e : Event I} {log : List (Label ι I E)} :
    e ∈ localHistory i log ↔ (i, e) ∈ globalHistory log := by
  induction log with
  | nil => simp
  | cons l log ih =>
    cases l with
    | act j e' =>
      by_cases h : j = i
      · simp [localHistory, globalHistory, h, ih]
      · simp [localHistory, globalHistory, h, ih, Ne.symm h]
    | env e' => exact ih

/-- Events counted for one process are the global ones that are its own. -/
theorem countP_localHistory (p : Event I → Bool) (i : ι) (log : List (Label ι I E)) :
    (localHistory i log).countP p =
      (globalHistory log).countP fun x => decide (x.1 = i) && p x.2 := by
  induction log with
  | nil => rfl
  | cons l log ih =>
    cases l with
    | act j e =>
      by_cases h : j = i <;> simp [localHistory, globalHistory, List.countP_cons, h, ih]
    | env e => exact ih

/-- Events counted over all processes are those of each process together. -/
theorem countP_globalHistory (p : Event I → Bool) (s : Finset ι) (log : List (Label ι I E))
    (hs : ∀ x ∈ globalHistory log, x.1 ∈ s) :
    ((globalHistory log).countP fun x => p x.2) = ∑ i ∈ s, (localHistory i log).countP p := by
  induction log with
  | nil => simp
  | cons l log ih =>
    cases l with
    | act j e =>
      have hj : j ∈ s := hs (j, e) List.mem_cons_self
      have hcount (i : ι) : (localHistory i (.act j e :: log)).countP p =
          (localHistory i log).countP p + if j = i then (if p e then 1 else 0) else 0 := by
        by_cases h : j = i <;> simp [localHistory, List.countP_cons, h]
      rw [globalHistory, List.countP_cons, ih fun x hx => hs x (List.mem_cons_of_mem _ hx),
        Finset.sum_congr rfl fun i _ => hcount i, Finset.sum_add_distrib, Finset.sum_ite_eq,
        if_pos hj]
    | env e => exact ih hs

namespace System

variable (sys : System ι I E S P)

/-- `sys.Run c log c'`: from `c` the steps of `log`, in that order, lead to `c'`. -/
inductive Run (c : Config ι S P) : List (Label ι I E) → Config ι S P → Prop
  | start : Run c [] c
  | act {log : List (Label ι I E)} {c' : Config ι S P} {i : ι} {o : I.Op} {k : I.Ans o → P}
      {a : I.Ans o} {s : S} (run : Run c log c') (asks : sys.next (c'.proc i) = some ⟨o, k⟩)
      (answers : sys.handle i c'.shared ⟨o, a⟩ s) :
      Run c (log ++ [.act i ⟨o, a⟩]) ⟨s, Function.update c'.proc i (k a)⟩
  | env {log : List (Label ι I E)} {c' : Config ι S P} {e : E} {s : S} (run : Run c log c')
      (reacts : sys.react c'.shared e s) : Run c (log ++ [.env e]) ⟨s, c'.proc⟩

variable {sys}

/-- One more step of a given process. -/
theorem Run.acted {c c' : Config ι S P} {log : List (Label ι I E)} (hr : sys.Run c log c') (i : ι)
    (e : Event I) {k : I.Ans e.op → P} {s : S} (asks : sys.next (c'.proc i) = some ⟨e.op, k⟩)
    (answers : sys.handle i c'.shared e s) :
    sys.Run c (log ++ [.act i e]) ⟨s, Function.update c'.proc i (k e.ans)⟩ :=
  hr.act asks answers

/-- One more action of the outside party. -/
theorem Run.reacted {c c' : Config ι S P} {log : List (Label ι I E)} (hr : sys.Run c log c')
    (e : E) {s : S} (reacts : sys.react c'.shared e s) :
    sys.Run c (log ++ [.env e]) ⟨s, c'.proc⟩ :=
  hr.env reacts

/-- Whatever the others do, each process follows its own program. -/
theorem Run.local {c c' : Config ι S P} {log : List (Label ι I E)} (hr : sys.Run c log c') (i : ι) :
    After sys.next (c.proc i) (localHistory i log) (c'.proc i) := by
  induction hr with
  | start => exact .refl _
  | @act log c' j o k a s _ asks _ ih =>
    by_cases h : j = i
    · subst h
      simpa using ih.snoc asks a
    · simpa [h, Function.update_of_ne (Ne.symm h)] using ih
  | env _ _ ih => simpa using ih

/-- An invariant of the shared state and the steps taken so far. -/
theorem Run.invariant {Inv : List (Label ι I E) → S → Prop} {c c' : Config ι S P}
    {log : List (Label ι I E)} (hr : sys.Run c log c') (start : Inv [] c.shared)
    (act : ∀ log s i e s', Inv log s → sys.handle i s e s' → Inv (log ++ [.act i e]) s')
    (env : ∀ log s e s', Inv log s → sys.react s e s' → Inv (log ++ [.env e]) s') :
    Inv log c'.shared := by
  induction hr with
  | start => exact start
  | act _ _ answers ih => exact act _ _ _ _ _ ih answers
  | env _ reacts ih => exact env _ _ _ _ ih reacts

theorem Run.trans {c c' c'' : Config ι S P} {log log' : List (Label ι I E)}
    (hr : sys.Run c log c') (hr' : sys.Run c' log' c'') : sys.Run c (log ++ log') c'' := by
  induction hr' with
  | start => simpa using hr
  | act _ asks answers ih => simpa using ih.act asks answers
  | env _ reacts ih => simpa using ih.env reacts

/-- Without the processes outside `keep` the others take the same steps, when
`R` relates the shared states of the two runs and a step left out keeps `R`. -/
theorem Run.restricted {R : S → S → Prop} {keep : ι → Prop} [DecidablePred keep] {t : S}
    {c c' : Config ι S P} {log : List (Label ι I E)} (hr : sys.Run c log c')
    (start : R c.shared t)
    (kept : ∀ i h e q s s' t, keep i → After sys.next (c.proc i) (h ++ [e]) q → R s t →
      sys.handle i s e s' → ∃ t', sys.handle i t e t' ∧ R s' t')
    (dropped : ∀ i h e q s s' t, ¬ keep i → After sys.next (c.proc i) (h ++ [e]) q → R s t →
      sys.handle i s e s' → R s' t)
    (env : ∀ e s s' t, R s t → sys.react s e s' → ∃ t', sys.react t e t' ∧ R s' t') :
    ∃ c'', sys.Run ⟨t, c.proc⟩ (restrict keep log) c'' ∧ R c'.shared c''.shared ∧
      ∀ i, keep i → c''.proc i = c'.proc i := by
  induction hr with
  | start => exact ⟨⟨t, c.proc⟩, .start, start, fun _ _ => rfl⟩
  | @act log c' i o k a s run asks answers ih =>
    obtain ⟨c'', run'', hR, hproc⟩ := ih
    have hasked := (run.local i).snoc asks a
    -- a kept process steps in both runs, any other only in the first, where `R` takes it up
    by_cases hi : keep i
    · obtain ⟨t', answers', hR'⟩ := kept i _ _ _ _ _ _ hi hasked hR answers
      rw [restrict_snoc_act, if_pos hi]
      refine ⟨_, run''.act ((congrArg sys.next (hproc i hi)).trans asks) answers', hR', ?_⟩
      intro j hj
      show Function.update c''.proc i (k a) j = Function.update c'.proc i (k a) j
      by_cases hji : j = i
      · rw [hji, Function.update_self, Function.update_self]
      · rw [Function.update_of_ne hji, Function.update_of_ne hji, hproc j hj]
    · rw [restrict_snoc_act, if_neg hi, List.append_nil]
      refine ⟨c'', run'', dropped i _ _ _ _ _ _ hi hasked hR answers, ?_⟩
      intro j hj
      have hji : j ≠ i := fun h => hi (h ▸ hj)
      show c''.proc j = Function.update c'.proc i (k a) j
      rw [Function.update_of_ne hji, hproc j hj]
  | env _ reacts ih =>
    obtain ⟨c'', run'', hR, hproc⟩ := ih
    obtain ⟨t', reacts', hR'⟩ := env _ _ _ _ hR reacts
    rw [restrict_snoc_env]
    exact ⟨_, run''.env reacts', hR', hproc⟩

/-- A step, as `Run` counts them. -/
inductive Step (sys : System ι I E S P) (c : Config ι S P) : Label ι I E → Config ι S P → Prop
  | act {i : ι} {o : I.Op} {k : I.Ans o → P} {a : I.Ans o} {s : S}
      (asks : sys.next (c.proc i) = some ⟨o, k⟩) (answers : sys.handle i c.shared ⟨o, a⟩ s) :
      Step sys c (.act i ⟨o, a⟩) ⟨s, Function.update c.proc i (k a)⟩
  | env {e : E} {s : S} (reacts : sys.react c.shared e s) : Step sys c (.env e) ⟨s, c.proc⟩

def Enabled (sys : System ι I E S P) (c : Config ι S P) (i : ι) : Prop :=
  ∃ e c', sys.Step c (.act i e) c'

theorem enabled_of {c : Config ι S P} {i : ι} {o : I.Op} {k : I.Ans o → P} {a : I.Ans o} {s : S}
    (asks : sys.next (c.proc i) = some ⟨o, k⟩) (answers : sys.handle i c.shared ⟨o, a⟩ s) :
    sys.Enabled c i :=
  ⟨⟨o, a⟩, _, .act asks answers⟩

/-- A run that has a last label has a last step. -/
theorem Run.snoc_iff {c c'' : Config ι S P} {log : List (Label ι I E)} {l : Label ι I E} :
    sys.Run c (log ++ [l]) c'' ↔ ∃ c', sys.Run c log c' ∧ sys.Step c' l c'' := by
  constructor
  · intro hr
    generalize hlog : log ++ [l] = full at hr
    cases hr with
    | start => simp at hlog
    | act run asks answers =>
      obtain ⟨rfl, hlast⟩ := List.append_inj' hlog rfl
      cases List.singleton_inj.mp hlast
      exact ⟨_, run, .act asks answers⟩
    | env run reacts =>
      obtain ⟨rfl, hlast⟩ := List.append_inj' hlog rfl
      cases List.singleton_inj.mp hlast
      exact ⟨_, run, .env reacts⟩
  · rintro ⟨c', run, hstep⟩
    cases hstep with
    | act asks answers => exact run.act asks answers
    | env reacts => exact run.env reacts

theorem Run.last_act {c c' : Config ι S P} {log : List (Label ι I E)} {i : ι} {e : Event I}
    (hr : sys.Run c (log ++ [.act i e]) c') :
    ∃ c₁, sys.Run c log c₁ ∧ sys.handle i c₁.shared e c'.shared := by
  obtain ⟨c₁, run, hstep⟩ := Run.snoc_iff.mp hr
  cases hstep with
  | act asks answers => exact ⟨c₁, run, answers⟩

theorem Run.last_env {c c' : Config ι S P} {log : List (Label ι I E)} {e : E}
    (hr : sys.Run c (log ++ [.env e]) c') :
    ∃ c₁, sys.Run c log c₁ ∧ sys.react c₁.shared e c'.shared ∧ c'.proc = c₁.proc := by
  obtain ⟨c₁, run, hstep⟩ := Run.snoc_iff.mp hr
  cases hstep with
  | env reacts => exact ⟨c₁, run, reacts, rfl⟩

/-- A run can be cut anywhere. -/
theorem Run.split {c c'' : Config ι S P} {log log' : List (Label ι I E)}
    (hr : sys.Run c (log ++ log') c'') : ∃ c', sys.Run c log c' ∧ sys.Run c' log' c'' := by
  -- from the end, as a run grows there
  induction log' using List.reverseRecOn generalizing c'' with
  | nil =>
    rw [List.append_nil] at hr
    exact ⟨c'', hr, .start⟩
  | append_singleton log' l ih =>
    rw [← List.append_assoc] at hr
    obtain ⟨c₁, hlog, hstep⟩ := Run.snoc_iff.mp hr
    obtain ⟨c', hfirst, hrest⟩ := ih hlog
    exact ⟨c', hfirst, Run.snoc_iff.mpr ⟨c₁, hrest, hstep⟩⟩

/-- The shared state gives process `i` the answers of a history. -/
inductive Served (sys : System ι I E S P) (i : ι) : S → List (Event I) → S → Prop
  | nil (s : S) : Served sys i s [] s
  | cons {s s' s'' : S} {e : Event I} {h : List (Event I)} (answers : sys.handle i s e s')
      (rest : Served sys i s' h s'') : Served sys i s (e :: h) s''

omit [DecidableEq ι] in
theorem Served.split {i : ι} {s s' : S} {h h' : List (Event I)}
    (hs : Served sys i s (h ++ h') s') :
    ∃ s₁, Served sys i s h s₁ ∧ Served sys i s₁ h' s' := by
  induction h generalizing s with
  | nil => exact ⟨s, .nil s, hs⟩
  | cons e h ih =>
    cases hs with
    | cons answers rest =>
      obtain ⟨s₁, hfirst, hlast⟩ := ih rest
      exact ⟨s₁, .cons answers hfirst, hlast⟩

omit [DecidableEq ι] in
theorem Served.handled {i : ι} {s s' : S} {h : List (Event I)} {e : Event I}
    (hs : Served sys i s h s') (he : e ∈ h) : ∃ s₁ s₂, sys.handle i s₁ e s₂ := by
  induction hs with
  | nil => cases he
  | cons answers _ ih =>
    rcases List.mem_cons.mp he with rfl | he
    · exact ⟨_, _, answers⟩
    · exact ih he

/-- A history that the shared state serves is a run in which only one process takes steps. -/
theorem Run.acts {i : ι} {p q : P} {h : List (Event I)} {s s' : S} {proc : ι → P}
    (hp : After sys.next p h q) (hproc : proc i = p) (hs : Served sys i s h s') :
    sys.Run ⟨s, proc⟩ (h.map (.act i)) ⟨s', Function.update proc i q⟩ := by
  induction hp generalizing s proc with
  | refl p =>
    cases hs
    rw [← hproc, Function.update_eq_self]
    exact .start
  | @step p q o k a h asks rest ih =>
    cases hs with
    | cons answers hs =>
      have here : sys.Run ⟨s, proc⟩ [] ⟨s, proc⟩ := .start
      have first := here.act (hproc.symm ▸ asks) answers
      have later := ih (Function.update_self i (k a) proc) hs
      rw [Function.update_idem] at later
      exact first.trans later

end System

/-- Executing one process to its end is a run; `view` forgets what the environment
of the execution knows beyond the shared state. -/
theorem Prog.exec_run {α W : Type} {sys : System ι I E S (Prog I α)} (hnext : sys.next = Prog.next)
    (answer : (o : I.Op) → W → I.Ans o × W) (view : W → S) (i : ι)
    (hans : ∀ o w, sys.handle i (view w) ⟨o, (answer o w).1⟩ (view (answer o w).2))
    (p : Prog I α) (w : W) (proc : ι → Prog I α) (hp : proc i = p) :
    sys.Run ⟨view w, proc⟩ ((p.exec answer w).history.map (.act i))
      ⟨view (p.exec answer w).state, Function.update proc i (.ret (p.exec answer w).value)⟩ := by
  have hserved :
      sys.Served i (view w) (p.exec answer w).history (view (p.exec answer w).state) := by
    clear hp
    induction p generalizing w with
    | ret a => exact .nil _
    | ask o k ih => exact .cons (hans o w) (ih _ _)
  apply System.Run.acts _ hp hserved
  rw [hnext]
  exact exec_runs answer p w

end GreenticEvents.Effects
