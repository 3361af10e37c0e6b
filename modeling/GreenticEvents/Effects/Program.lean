import Mathlib.Data.List.Basic
import Mathlib.Logic.Equiv.Defs

/-!
# Programs over an interface of operations

A program asks operations of its environment one at a time and continues with
the answers.  Its behaviour is the set of its histories: the operations asked
so far, each with the answer received, and the program that is left.
-/

namespace GreenticEvents.Effects

/-- The operations a program may ask for, and the type of each answer. -/
structure Interface where
  Op : Type
  Ans : Op → Type

structure Event (I : Interface) where
  op : I.Op
  ans : I.Ans op

inductive Prog (I : Interface) (α : Type) where
  | ret (a : α)
  | ask (o : I.Op) (k : I.Ans o → Prog I α)

/-- What a process in state `P` does next: nothing, or ask one operation. -/
abbrev Next (I : Interface) (P : Type) := P → Option ((o : I.Op) × (I.Ans o → P))

/-- `After next p h q`: asking the operations of `h` and receiving the answers
recorded there takes `p` to `q`. -/
inductive After {I : Interface} {P : Type} (next : Next I P) : P → List (Event I) → P → Prop
  | refl (p : P) : After next p [] p
  | step {p q : P} {o : I.Op} {k : I.Ans o → P} {a : I.Ans o} {h : List (Event I)}
      (asks : next p = some ⟨o, k⟩) (rest : After next (k a) h q) : After next p (⟨o, a⟩ :: h) q

namespace After

variable {I : Interface} {P : Type} {next : Next I P}

theorem append {p q r : P} {h h' : List (Event I)} (hp : After next p h q)
    (hq : After next q h' r) : After next p (h ++ h') r := by
  induction hp with
  | refl p => exact hq
  | step asks _ ih => exact .step asks (ih hq)

theorem snoc {p q : P} {h : List (Event I)} (hp : After next p h q) {o : I.Op}
    {k : I.Ans o → P} (asks : next q = some ⟨o, k⟩) (a : I.Ans o) :
    After next p (h ++ [⟨o, a⟩]) (k a) :=
  hp.append (.step asks (.refl _))

theorem cons_iff {p q : P} {e : Event I} {h : List (Event I)} :
    After next p (e :: h) q ↔
      ∃ k, next p = some ⟨e.op, k⟩ ∧ After next (k e.ans) h q := by
  constructor
  · intro hp
    cases hp with
    | step asks rest => exact ⟨_, asks, rest⟩
  · rintro ⟨k, asks, rest⟩
    exact .step asks rest

/-- The answers decide what is left. -/
theorem unique {p q q' : P} {h : List (Event I)} (hq : After next p h q) (hq' : After next p h q') :
    q = q' := by
  induction hq with
  | refl p =>
    cases hq'
    rfl
  | step asks _ ih =>
    obtain ⟨k, asks', rest'⟩ := cons_iff.mp hq'
    cases asks.symm.trans asks'
    exact ih rest'

/-- A history can be cut anywhere. -/
theorem split {p r : P} {h h' : List (Event I)} (hp : After next p (h ++ h') r) :
    ∃ q, After next p h q ∧ After next q h' r := by
  induction h generalizing p with
  | nil => exact ⟨p, .refl p, hp⟩
  | cons e h ih =>
    obtain ⟨k, asks, rest⟩ := cons_iff.mp hp
    obtain ⟨q, hq, hr⟩ := ih rest
    exact ⟨q, .step asks hq, hr⟩

/-- What holds of a process and is kept by each of its steps holds after every history. -/
theorem invariant {Inv : P → Prop} {p q : P} {h : List (Event I)} (hp : After next p h q)
    (start : Inv p)
    (step : ∀ p o k, Inv p → next p = some ⟨o, k⟩ → ∀ a : I.Ans o, Inv (k a)) : Inv q := by
  induction hp with
  | refl p => exact start
  | step asks _ ih => exact ih (step _ _ _ start asks _)

/-- While an invariant bounds what a process may ask, it has asked nothing else. -/
theorem asks_only {Inv : P → Prop} {Q : I.Op → Prop} {p q : P} {h : List (Event I)}
    (hp : After next p h q) (start : Inv p)
    (step : ∀ p o k, Inv p → next p = some ⟨o, k⟩ → Q o ∧ ∀ a : I.Ans o, Inv (k a)) :
    ∀ e ∈ h, Q e.op := by
  induction hp with
  | refl p => exact fun e he => absurd he List.not_mem_nil
  | step asks _ ih =>
    obtain ⟨hop, hinv⟩ := step _ _ _ start asks
    exact List.forall_mem_cons.mpr ⟨hop, ih (hinv _)⟩

end After

namespace Prog

variable {I : Interface} {α β : Type}

def bind : Prog I α → (α → Prog I β) → Prog I β
  | ret a, f => f a
  | ask o k, f => ask o fun a => (k a).bind f

instance : Monad (Prog I) where
  pure := ret
  bind := bind

def perform (o : I.Op) : Prog I (I.Ans o) := ask o ret

@[simp] theorem pure_eq (a : α) : (pure a : Prog I α) = ret a := rfl

@[simp] theorem ret_bind (a : α) (f : α → Prog I β) : (ret a >>= f) = f a := rfl

@[simp] theorem ask_bind (o : I.Op) (k : I.Ans o → Prog I α) (f : α → Prog I β) :
    (ask o k >>= f) = ask o fun a => k a >>= f := rfl

@[simp] theorem perform_bind (o : I.Op) (f : I.Ans o → Prog I β) :
    (perform o >>= f) = ask o f := rfl

theorem bind_bind {γ : Type} (p : Prog I α) (f : α → Prog I β) (g : β → Prog I γ) :
    (p >>= f >>= g) = p >>= fun a => f a >>= g := by
  induction p with
  | ret a => rfl
  | ask o k ih => simp only [ask_bind, ih]

def next : Next I (Prog I α)
  | ret _ => none
  | ask o k => some ⟨o, k⟩

@[simp] theorem next_ret (a : α) : (ret a : Prog I α).next = none := rfl

@[simp] theorem next_ask (o : I.Op) (k : I.Ans o → Prog I α) : (ask o k).next = some ⟨o, k⟩ := rfl

def value? : Prog I α → Option α
  | ret a => some a
  | ask _ _ => none

@[simp] theorem value?_ret (a : α) : (ret a : Prog I α).value? = some a := rfl

@[simp] theorem value?_ask (o : I.Op) (k : I.Ans o → Prog I α) : (ask o k).value? = none := rfl

/-- `p.Runs h q`: `p` has asked exactly the operations of `h` and is now `q`. -/
abbrev Runs (p : Prog I α) (h : List (Event I)) (q : Prog I α) : Prop := After next p h q

@[simp] theorem runs_ret {a : α} {h : List (Event I)} {q : Prog I α} :
    Runs (ret a) h q ↔ h = [] ∧ q = ret a := by
  constructor
  · intro hr
    cases hr with
    | refl => exact ⟨rfl, rfl⟩
    | step asks _ => simp at asks
  · rintro ⟨rfl, rfl⟩
    exact .refl _

@[simp] theorem runs_ask {o : I.Op} {k : I.Ans o → Prog I α} {h : List (Event I)} {q : Prog I α} :
    Runs (ask o k) h q ↔
      (h = [] ∧ q = ask o k) ∨ ∃ a h', h = ⟨o, a⟩ :: h' ∧ Runs (k a) h' q := by
  constructor
  · intro hr
    cases hr with
    | refl => exact .inl ⟨rfl, rfl⟩
    | step asks rest =>
      simp only [next_ask, Option.some.injEq, Sigma.mk.injEq] at asks
      obtain ⟨rfl, hk⟩ := asks
      cases hk
      exact .inr ⟨_, _, rfl, rest⟩
  · rintro (⟨rfl, rfl⟩ | ⟨a, h', rfl, rest⟩)
    · exact .refl _
    · exact .step rfl rest

theorem runs_ask_ret {o : I.Op} {k : I.Ans o → Prog I α} {h : List (Event I)} {b : α} :
    Runs (ask o k) h (ret b) ↔ ∃ a h', h = ⟨o, a⟩ :: h' ∧ Runs (k a) h' (ret b) := by
  rw [runs_ask]
  apply or_iff_right
  rintro ⟨_, hq⟩
  cases hq

/-- A program that asks once and returns. -/
theorem runs_ask_once {o : I.Op} {f : I.Ans o → α} {h : List (Event I)} {b : α} :
    Runs (ask o fun a => ret (f a)) h (ret b) ↔ ∃ a, h = [⟨o, a⟩] ∧ b = f a := by
  rw [runs_ask_ret]
  constructor
  · rintro ⟨a, h', rfl, hrest⟩
    obtain ⟨rfl, hb⟩ := runs_ret.mp hrest
    exact ⟨a, rfl, ret.inj hb⟩
  · rintro ⟨a, rfl, rfl⟩
    exact ⟨a, [], rfl, .refl _⟩

/-- Two full histories of a program are the same up to an operation with two answers. -/
theorem runs_diverge {p : Prog I α} {h h' : List (Event I)} {a b : α} (hr : Runs p h (ret a))
    (hr' : Runs p h' (ret b)) :
    h = h' ∨ ∃ (l : List (Event I)) (o : I.Op) (x y : I.Ans o) (r r' : List (Event I)),
      h = l ++ ⟨o, x⟩ :: r ∧ h' = l ++ ⟨o, y⟩ :: r' ∧ x ≠ y := by
  induction p generalizing h h' with
  | ret c =>
    obtain ⟨rfl, -⟩ := runs_ret.mp hr
    obtain ⟨rfl, -⟩ := runs_ret.mp hr'
    exact .inl rfl
  | ask o k ih =>
    obtain ⟨x, h, rfl, hrest⟩ := runs_ask_ret.mp hr
    obtain ⟨y, h', rfl, hrest'⟩ := runs_ask_ret.mp hr'
    -- the first operation is the same; its answers agree, or the histories part here
    by_cases hxy : x = y
    · subst hxy
      rcases ih x hrest hrest' with rfl | ⟨l, o', x', y', r, r', rfl, rfl, hne⟩
      · exact .inl rfl
      · exact .inr ⟨⟨o, x⟩ :: l, o', x', y', r, r', rfl, rfl, hne⟩
    · exact .inr ⟨[], o, x, y, h, h', rfl, rfl, hxy⟩

/-- A history of `p >>= f` is a history of `p`, or a full history of `p`
followed by one of the continuation. -/
theorem runs_bind {p : Prog I α} {f : α → Prog I β} {h : List (Event I)} {q : Prog I β}
    (hr : Runs (p >>= f) h q) :
    (∃ o k, Runs p h (ask o k) ∧ q = (ask o k >>= f)) ∨
      ∃ a h₁ h₂, h = h₁ ++ h₂ ∧ Runs p h₁ (ret a) ∧ Runs (f a) h₂ q := by
  induction p generalizing h with
  | ret a => exact .inr ⟨a, [], h, rfl, .refl _, hr⟩
  | ask o k ih =>
    rw [ask_bind, runs_ask] at hr
    rcases hr with ⟨rfl, rfl⟩ | ⟨a, h', rfl, rest⟩
    · exact .inl ⟨o, k, .refl _, rfl⟩
    · rcases ih a rest with ⟨o', k', hp, hq⟩ | ⟨b, h₁, h₂, rfl, hp, hf⟩
      · exact .inl ⟨o', k', .step rfl hp, hq⟩
      · exact .inr ⟨b, _ :: h₁, h₂, rfl, .step rfl hp, hf⟩

/-- A full history of `p >>= f` splits into full histories of the two parts. -/
theorem runs_bind_ret {p : Prog I α} {f : α → Prog I β} {h : List (Event I)} {b : β}
    (hr : Runs (p >>= f) h (ret b)) :
    ∃ a h₁ h₂, h = h₁ ++ h₂ ∧ Runs p h₁ (ret a) ∧ Runs (f a) h₂ (ret b) := by
  rcases runs_bind hr with ⟨o, k, _, hq⟩ | h
  · simp at hq
  · exact h

/-- A full history of `p` and one of the continuation make up a history of `p >>= f`. -/
theorem bind_runs {p : Prog I α} {f : α → Prog I β} {h h' : List (Event I)} {a : α} {q : Prog I β}
    (hp : Runs p h (ret a)) (hf : Runs (f a) h' q) : Runs (p >>= f) (h ++ h') q := by
  induction p generalizing h with
  | ret a' =>
    obtain ⟨rfl, hq⟩ := runs_ret.mp hp
    cases hq
    exact hf
  | ask o k ih =>
    obtain ⟨ans, rest, rfl, hrest⟩ := runs_ask_ret.mp hp
    exact .step rfl (ih ans hrest)

/-- Where each operation has one answer at most, the program has one result at most. -/
theorem runs_functional {P : Event I → Prop}
    (hP : ∀ o a a', P ⟨o, a⟩ → P ⟨o, a'⟩ → a = a') {p : Prog I α} {h h' : List (Event I)}
    {b b' : α} (hr : Runs p h (ret b)) (hr' : Runs p h' (ret b')) (hh : ∀ e ∈ h, P e)
    (hh' : ∀ e ∈ h', P e) : b = b' := by
  induction p generalizing h h' with
  | ret c =>
    obtain ⟨-, hb⟩ := runs_ret.mp hr
    obtain ⟨-, hb'⟩ := runs_ret.mp hr'
    injection hb with hb
    injection hb' with hb'
    rw [hb, hb']
  | ask o k ih =>
    obtain ⟨a, h₁, rfl, hk⟩ := runs_ask_ret.mp hr
    obtain ⟨a', h₁', rfl, hk'⟩ := runs_ask_ret.mp hr'
    obtain ⟨ha, hrest⟩ := List.forall_mem_cons.mp hh
    obtain ⟨ha', hrest'⟩ := List.forall_mem_cons.mp hh'
    obtain rfl := hP o a a' ha ha'
    exact ih a hk hk' hrest hrest'

/-- A loop over a list, one step for each item: its full histories are made of one
piece for each item, and its result of the updates that the pieces stand for. -/
theorem loop_runs {ι σ π : Type} (loop : List ι → σ → Prog I β) {result : σ → β} {item : π → ι}
    {history : π → List (Event I)} {update : σ → π → σ} {b : β}
    (done : ∀ s, loop [] s = ret (result s))
    (step : ∀ i is s h, Runs (loop (i :: is) s) h (ret b) ↔
      ∃ piece h', item piece = i ∧ h = history piece ++ h' ∧
        Runs (loop is (update s piece)) h' (ret b))
    {is : List ι} {s : σ} {h : List (Event I)} :
    Runs (loop is s) h (ret b) ↔ ∃ pieces : List π, pieces.map item = is ∧
      h = pieces.flatMap history ∧ b = result (pieces.foldl update s) := by
  -- on the items: the first piece is cut off the history by `step`
  induction is generalizing s h with
  | nil =>
    rw [done, runs_ret]
    constructor
    · rintro ⟨rfl, hb⟩
      cases hb
      exact ⟨[], rfl, rfl, rfl⟩
    · rintro ⟨pieces, hnil, rfl, hb⟩
      obtain rfl := List.map_eq_nil_iff.mp hnil
      exact ⟨rfl, congrArg ret hb⟩
  | cons i is ih =>
    rw [step]
    constructor
    · rintro ⟨piece, h, rfl, rfl, hr⟩
      obtain ⟨pieces, rfl, rfl, hb⟩ := ih.mp hr
      exact ⟨piece :: pieces, rfl, rfl, hb⟩
    · rintro ⟨pieces, hitems, rfl, hb⟩
      obtain ⟨piece, pieces, rfl, rfl, rfl⟩ := List.map_eq_cons_iff.mp hitems
      exact ⟨piece, _, rfl, rfl, ih.mpr ⟨pieces, rfl, rfl, hb⟩⟩

/-- Continue with the result of `p`, unless `p` failed. -/
def onSuccess {ε : Type} (p : Prog I (Except ε α)) (f : α → Prog I (Except ε β)) :
    Prog I (Except ε β) := do
  match ← p with
  | .error err => return .error err
  | .ok a => f a

/-- With the answers in `h`, the program ends in a success with a result in `P`. -/
def Succeeds {ε : Type} (p : Prog I (Except ε α)) (h : List (Event I)) (P : α → Prop) : Prop :=
  ∃ a, Runs p h (ret (.ok a)) ∧ P a

section Succeeds

variable {ε : Type} {h : List (Event I)} {P : β → Prop}

theorem succeeds_ret {x : Except ε β} :
    Succeeds (ret x) h P ↔ h = [] ∧ ∃ b, x = .ok b ∧ P b := by
  constructor
  · rintro ⟨b, hr, hb⟩
    obtain ⟨rfl, hret⟩ := runs_ret.mp hr
    cases hret
    exact ⟨rfl, b, rfl, hb⟩
  · rintro ⟨rfl, b, rfl, hb⟩
    exact ⟨b, .refl _, hb⟩

/-- A single operation whose answers are those of `ε` and `β`. -/
theorem succeeds_perform (o : I.Op) (e : I.Ans o ≃ Except ε β) :
    Succeeds (ask o fun a => ret (e a)) h P ↔ ∃ b, h = [⟨o, e.symm (.ok b)⟩] ∧ P b := by
  constructor
  · rintro ⟨b, hr, hb⟩
    obtain ⟨a, h', rfl, hret⟩ := runs_ask_ret.mp hr
    obtain ⟨rfl, heq⟩ := runs_ret.mp hret
    injection heq with heq
    exact ⟨b, by rw [heq, e.symm_apply_apply], hb⟩
  · rintro ⟨b, rfl, hb⟩
    refine ⟨b, runs_ask_ret.mpr ⟨_, [], rfl, ?_⟩, hb⟩
    rw [e.apply_symm_apply]
    exact .refl _

theorem succeeds_onSuccess {p : Prog I (Except ε α)} {f : α → Prog I (Except ε β)} :
    Succeeds (p.onSuccess f) h P ↔ ∃ h₁ h₂, h = h₁ ++ h₂ ∧
      Succeeds p h₁ fun a => Succeeds (f a) h₂ P := by
  constructor
  · rintro ⟨b, hr, hb⟩
    obtain ⟨x, h₁, h₂, rfl, hp, hf⟩ := runs_bind_ret hr
    cases x with
    | error err =>
      obtain ⟨-, hret⟩ := runs_ret.mp hf
      cases hret
    | ok a => exact ⟨h₁, h₂, rfl, a, hp, b, hf, hb⟩
  · rintro ⟨h₁, h₂, rfl, a, hp, b, hf, hb⟩
    exact ⟨b, bind_runs hp hf, hb⟩

theorem Succeeds.continuation {p : Prog I (Except ε α)} {f : α → Prog I (Except ε β)}
    (hs : Succeeds (p.onSuccess f) h P) : ∃ a h', Succeeds (f a) h' P := by
  obtain ⟨_, h', -, a, -, hf⟩ := succeeds_onSuccess.mp hs
  exact ⟨a, h', hf⟩

end Succeeds

/-- Whatever the answers, the program asks only operations in `P`. -/
def OnlyAsks (P : I.Op → Prop) : Prog I α → Prop
  | ret _ => True
  | ask o k => P o ∧ ∀ a, (k a).OnlyAsks P

namespace OnlyAsks

variable {P : I.Op → Prop}

theorem bind {p : Prog I α} {f : α → Prog I β} (hp : p.OnlyAsks P) (hf : ∀ a, (f a).OnlyAsks P) :
    (p >>= f).OnlyAsks P := by
  induction p with
  | ret a => exact hf a
  | ask o k ih => exact ⟨hp.1, fun a => ih a (hp.2 a)⟩

theorem imp {Q : I.Op → Prop} {p : Prog I α} (hp : p.OnlyAsks P) (hPQ : ∀ o, P o → Q o) :
    p.OnlyAsks Q := by
  induction p with
  | ret a => trivial
  | ask o k ih => exact ⟨hPQ o hp.1, fun a => ih a (hp.2 a)⟩

/-- What follows may count on `p` having returned its argument. -/
theorem bind_returned {p : Prog I α} {f : α → Prog I β} (hp : p.OnlyAsks P)
    (hf : ∀ a h, Runs p h (ret a) → (f a).OnlyAsks P) : (p >>= f).OnlyAsks P := by
  induction p with
  | ret a => exact hf a [] (.refl _)
  | ask o k ih =>
    exact ⟨hp.1, fun a => ih a (hp.2 a) fun b h hr => hf b (⟨o, a⟩ :: h) (.step rfl hr)⟩

theorem of_mem {p q : Prog I α} (hp : p.OnlyAsks P) {h : List (Event I)} (hr : Runs p h q)
    {e : Event I} (he : e ∈ h) : P e.op := by
  induction p generalizing h with
  | ret a =>
    obtain ⟨rfl, _⟩ := runs_ret.mp hr
    exact absurd he List.not_mem_nil
  | ask o k ih =>
    rcases runs_ask.mp hr with ⟨rfl, _⟩ | ⟨a, h, rfl, rest⟩
    · exact absurd he List.not_mem_nil
    · rcases List.mem_cons.mp he with rfl | he
      · exact hp.1
      · exact ih a (hp.2 a) rest he

theorem onSuccess {ε : Type} {p : Prog I (Except ε α)} {f : α → Prog I (Except ε β)}
    (hp : p.OnlyAsks P) (hf : ∀ a, (f a).OnlyAsks P) : (p.onSuccess f).OnlyAsks P := by
  refine hp.bind fun x => ?_
  cases x with
  | error err => trivial
  | ok a => exact hf a

end OnlyAsks

/-- Whatever the answers, the program asks only what `P` allows after what was asked before;
`past` is what was asked when it starts. -/
def AsksAfter (P : List (Event I) → I.Op → Prop) : Prog I α → List (Event I) → Prop
  | ret _, _ => True
  | ask o k, past => P past o ∧ ∀ a, (k a).AsksAfter P (past ++ [⟨o, a⟩])

namespace AsksAfter

variable {P : List (Event I) → I.Op → Prop} {past : List (Event I)}

/-- What follows may count on the answers with which `p` returned its argument. -/
theorem bind_returned {p : Prog I α} {f : α → Prog I β} (hp : p.AsksAfter P past)
    (hf : ∀ a h, Runs p h (ret a) → (f a).AsksAfter P (past ++ h)) :
    (p >>= f).AsksAfter P past := by
  induction p generalizing past with
  | ret a => simpa using hf a [] (.refl _)
  | ask o k ih =>
    refine ⟨hp.1, fun a => ih a (hp.2 a) fun b h hr => ?_⟩
    rw [List.append_assoc]
    exact hf b (⟨o, a⟩ :: h) (.step rfl hr)

theorem bind {p : Prog I α} {f : α → Prog I β} (hp : p.AsksAfter P past)
    (hf : ∀ a later, past ⊆ later → (f a).AsksAfter P later) : (p >>= f).AsksAfter P past :=
  hp.bind_returned fun a h _ => hf a (past ++ h) (List.subset_append_left past h)

theorem onSuccess {ε : Type} {p : Prog I (Except ε α)} {f : α → Prog I (Except ε β)}
    (hp : p.AsksAfter P past) (hf : ∀ a later, past ⊆ later → (f a).AsksAfter P later) :
    (p.onSuccess f).AsksAfter P past := by
  refine hp.bind fun x later hlater => ?_
  cases x with
  | error err => trivial
  | ok a => exact hf a later hlater

theorem imp {Q : List (Event I) → I.Op → Prop} {p : Prog I α} (hp : p.AsksAfter P past)
    (hPQ : ∀ later o, past ⊆ later → P later o → Q later o) : p.AsksAfter Q past := by
  induction p generalizing past with
  | ret a => trivial
  | ask o k ih =>
    refine ⟨hPQ past o (List.Subset.refl past) hp.1, fun a => ih a (hp.2 a) ?_⟩
    intro later o' hlater
    exact hPQ later o' (List.Subset.trans (List.subset_append_left past _) hlater)

theorem of_runs {p q : Prog I α} (hp : p.AsksAfter P past) {before after : List (Event I)}
    {e : Event I} (hr : Runs p (before ++ e :: after) q) : P (past ++ before) e.op := by
  induction before generalizing p past with
  | nil =>
    obtain ⟨k, asks, -⟩ := After.cons_iff.mp hr
    cases p with
    | ret a => cases asks
    | ask o k =>
      cases asks
      simpa using hp.1
  | cons e' before ih =>
    obtain ⟨k, asks, rest⟩ := After.cons_iff.mp hr
    cases p with
    | ret a => cases asks
    | ask o k =>
      cases asks
      simpa using ih (hp.2 e'.ans) rest

end AsksAfter

section Interpret

variable {J : Interface}

/-- Each operation is answered by a program over other operations. -/
def interpret (f : (o : I.Op) → Prog J (I.Ans o)) : Prog I α → Prog J α
  | ret a => ret a
  | ask o k => (f o).bind fun a => (k a).interpret f

variable {f : (o : I.Op) → Prog J (I.Ans o)}

@[simp] theorem interpret_ret (a : α) : (ret a : Prog I α).interpret f = ret a := rfl

@[simp] theorem interpret_ask (o : I.Op) (k : I.Ans o → Prog I α) :
    (ask o k).interpret f = f o >>= fun a => (k a).interpret f := rfl

theorem interpret_bind (p : Prog I α) (g : α → Prog I β) :
    (p >>= g).interpret f = p.interpret f >>= fun a => (g a).interpret f := by
  induction p with
  | ret a => rfl
  | ask o k ih =>
    simp only [ask_bind, interpret_ask, ih]
    rw [bind_bind]

/-- The answers in `h` are what the programs for its operations made of those in `h'`. -/
inductive Fulfilled (f : (o : I.Op) → Prog J (I.Ans o)) :
    List (Event I) → List (Event J) → Prop
  | nil : Fulfilled f [] []
  | cons {o : I.Op} {a : I.Ans o} {h : List (Event I)} {piece h' : List (Event J)}
      (here : Runs (f o) piece (ret a)) (rest : Fulfilled f h h') :
      Fulfilled f (⟨o, a⟩ :: h) (piece ++ h')

theorem fulfilled_append {h₁ h₂ : List (Event I)} {h' : List (Event J)} :
    Fulfilled f (h₁ ++ h₂) h' ↔
      ∃ h₁' h₂', h' = h₁' ++ h₂' ∧ Fulfilled f h₁ h₁' ∧ Fulfilled f h₂ h₂' := by
  constructor
  · intro hanswered
    induction h₁ generalizing h' with
    | nil => exact ⟨[], h', rfl, .nil, hanswered⟩
    | cons e h₁ ih =>
      cases hanswered with
      | cons here rest =>
        obtain ⟨h₁', h₂', rfl, hfirst, hlast⟩ := ih rest
        exact ⟨_, h₂', (List.append_assoc ..).symm, .cons here hfirst, hlast⟩
  · rintro ⟨h₁', h₂', rfl, hfirst, hlast⟩
    induction hfirst with
    | nil => exact hlast
    | cons here rest ih =>
      rw [List.append_assoc]
      exact .cons here ih

theorem fulfilled_singleton {e : Event I} {h' : List (Event J)} :
    Fulfilled f [e] h' ↔ Runs (f e.op) h' (ret e.ans) := by
  constructor
  · intro hanswered
    cases hanswered with
    | cons here rest =>
      cases rest
      rwa [List.append_nil]
  · intro here
    rw [← List.append_nil h']
    exact .cons here .nil

/-- Operations whose programs ask nothing. -/
theorem fulfilled_silent {Q : Event I → Prop} {h : List (Event I)} {h' : List (Event J)}
    (hsilent : ∀ e ∈ h, ∀ piece, Runs (f e.op) piece (ret e.ans) ↔ piece = [] ∧ Q e) :
    Fulfilled f h h' ↔ h' = [] ∧ ∀ e ∈ h, Q e := by
  induction h generalizing h' with
  | nil =>
    constructor
    · intro hanswered
      cases hanswered
      exact ⟨rfl, by simp⟩
    · rintro ⟨rfl, -⟩
      exact .nil
  | cons e h ih =>
    obtain ⟨hhere, hrest⟩ := List.forall_mem_cons.mp hsilent
    constructor
    · intro hanswered
      cases hanswered with
      | cons here rest =>
        obtain ⟨rfl, hq⟩ := (hhere _).mp here
        obtain ⟨rfl, hall⟩ := (ih hrest).mp rest
        exact ⟨rfl, List.forall_mem_cons.mpr ⟨hq, hall⟩⟩
    · rintro ⟨rfl, hall⟩
      obtain ⟨hq, hall⟩ := List.forall_mem_cons.mp hall
      exact .cons ((hhere []).mpr ⟨rfl, hq⟩) ((ih hrest).mpr ⟨rfl, hall⟩)

/-- An interpreted program runs as the program does with the answers that it is given. -/
theorem interpret_runs {p : Prog I α} {h' : List (Event J)} {b : α} :
    Runs (p.interpret f) h' (ret b) ↔ ∃ h, Runs p h (ret b) ∧ Fulfilled f h h' := by
  constructor
  · intro hr
    induction p generalizing h' with
    | ret a =>
      obtain ⟨rfl, hb⟩ := runs_ret.mp hr
      cases hb
      exact ⟨[], .refl _, .nil⟩
    | ask o k ih =>
      obtain ⟨a, piece, rest, rfl, here, hrest⟩ := runs_bind_ret hr
      obtain ⟨h, hrun, hanswered⟩ := ih a hrest
      exact ⟨⟨o, a⟩ :: h, .step rfl hrun, .cons here hanswered⟩
  · rintro ⟨h, hr, hanswered⟩
    induction p generalizing h h' with
    | ret a =>
      obtain ⟨rfl, hb⟩ := runs_ret.mp hr
      cases hb
      cases hanswered
      exact .refl _
    | ask o k ih =>
      obtain ⟨a, h, rfl, hrest⟩ := runs_ask_ret.mp hr
      cases hanswered with
      | cons here rest => exact bind_runs here (ih a h hrest rest)

/-- A run of an interpreted program is a run of the program with the answers that it was given,
and what was asked since for the next operation. -/
theorem interpret_cut {p : Prog I α} {h' : List (Event J)} {q : Prog J α}
    (hr : Runs (p.interpret f) h' q) : ∃ h r h₁ h₂, h' = h₁ ++ h₂ ∧ Runs p h r ∧ Fulfilled f h h₁ ∧
      (h₂ = [] ∨ ∃ o o' k, Runs (f o) h₂ (ask o' k)) := by
  induction p generalizing h' with
  | ret a =>
    obtain ⟨rfl, -⟩ := runs_ret.mp hr
    exact ⟨[], ret a, [], [], rfl, .refl _, .nil, .inl rfl⟩
  | ask o k ih =>
    rcases runs_bind hr with ⟨o', k', here, -⟩ | ⟨a, piece, rest, rfl, here, hrest⟩
    · exact ⟨[], ask o k, [], h', rfl, .refl _, .nil, .inr ⟨o, o', k', here⟩⟩
    · obtain ⟨h, r, h₁, h₂, rfl, hrun, hanswered, hlast⟩ := ih a hrest
      exact ⟨⟨o, a⟩ :: h, r, piece ++ h₁, h₂, (List.append_assoc ..).symm, .step rfl hrun,
        .cons here hanswered, hlast⟩

/-- Each answer of an interpretation is one that the operation's program can give. -/
theorem Fulfilled.mem {h : List (Event I)} {h' : List (Event J)} (hanswered : Fulfilled f h h')
    {e : Event I} (he : e ∈ h) : ∃ piece, Runs (f e.op) piece (ret e.ans) := by
  induction hanswered with
  | nil => cases he
  | cons here rest ih =>
    rcases List.mem_cons.mp he with rfl | he
    · exact ⟨_, here⟩
    · exact ih he

theorem OnlyAsks.interpret {P : J.Op → Prop} {Q : I.Op → Prop} {p : Prog I α} (hp : p.OnlyAsks Q)
    (hf : ∀ o, Q o → (f o).OnlyAsks P) : (p.interpret f).OnlyAsks P := by
  induction p with
  | ret a => trivial
  | ask o k ih => exact (hf o hp.1).bind fun a => ih a (hp.2 a)

/-- What each operation may ask, the whole may ask. -/
theorem AsksAfter.interpret {P : List (Event J) → J.Op → Prop} {Q : I.Op → Prop} {p : Prog I α}
    (hp : p.OnlyAsks Q) {past : List (Event J)}
    (hf : ∀ o, Q o → ∀ later, past ⊆ later → (f o).AsksAfter P later) :
    (p.interpret f).AsksAfter P past := by
  induction p generalizing past with
  | ret a => trivial
  | ask o k ih =>
    refine (hf o hp.1 past (List.Subset.refl past)).bind fun a later hlater => ih a (hp.2 a) ?_
    intro o ho later' hlater'
    exact hf o ho later' (List.Subset.trans hlater hlater')

end Interpret

/-- A process that runs `body` again each time it returns `true`. -/
def forever (body : Prog I Bool) : Next I (Prog I Bool)
  | ask o k => some ⟨o, k⟩
  | ret true => body.next
  | ret false => none

theorem forever_step {body p q : Prog I Bool} {h : List (Event I)} (hr : Runs p h q) :
    After (forever body) p h q := by
  induction hr with
  | refl p => exact .refl p
  | @step p q o k a h asks _ ih =>
    match p, asks with
    | ask _ _, asks => exact .step asks ih

/-- A loop that continues starts its body. -/
theorem forever_again {body q : Prog I Bool} {e : Event I} {h : List (Event I)}
    (hr : Runs body (e :: h) q) : After (forever body) (ret true) (e :: h) q := by
  obtain ⟨k, asks, rest⟩ := After.cons_iff.mp hr
  exact .step asks (forever_step rest)

/-- A loop's history is full rounds of its body followed by one round that may
be unfinished. -/
theorem forever_rounds {body p q : Prog I Bool} {h : List (Event I)}
    (hr : After (forever body) p h q) :
    Runs p h q ∨ ∃ (first : List (Event I)) (rounds : List (List (Event I)))
        (last : List (Event I)), h = first ++ rounds.flatten ++ last ∧
      Runs p first (ret true) ∧ (∀ r ∈ rounds, Runs body r (ret true)) ∧ Runs body last q := by
  induction hr with
  | refl p => exact .inl (.refl p)
  | @step p q o k a h asks _ ih =>
    match p, asks with
    | ask o' k', asks =>
      cases asks
      rcases ih with hr | ⟨first, rounds, last, rfl, hf, hb, hl⟩
      · exact .inl (.step rfl hr)
      · exact .inr ⟨_ :: first, rounds, last, rfl, .step rfl hf, hb, hl⟩
    | ret true, asks =>
      -- the step belongs to the next round of the body
      rcases ih with hr | ⟨first, rounds, last, rfl, hf, hb, hl⟩
      · exact .inr ⟨[], [], _, rfl, .refl _, by simp, .step asks hr⟩
      · refine .inr ⟨[], (⟨o, a⟩ :: first) :: rounds, last, by simp, .refl _, ?_, hl⟩
        intro r hr
        rcases List.mem_cons.mp hr with rfl | hr
        · exact .step asks hf
        · exact hb r hr

variable {S : Type}

/-- What a program makes of an environment: its value, the state left, its history. -/
structure Outcome (I : Interface) (S α : Type) where
  value : α
  state : S
  history : List (Event I)

def exec (answer : (o : I.Op) → S → I.Ans o × S) : Prog I α → S → Outcome I S α
  | ret a, s => ⟨a, s, []⟩
  | ask o k, s =>
    let r := answer o s
    let out := (k r.1).exec answer r.2
    ⟨out.value, out.state, ⟨o, r.1⟩ :: out.history⟩

theorem exec_runs (answer : (o : I.Op) → S → I.Ans o × S) (p : Prog I α) (s : S) :
    Runs p (p.exec answer s).history (ret (p.exec answer s).value) := by
  induction p generalizing s with
  | ret a => exact .refl _
  | ask o k ih => exact .step rfl (ih _ _)

end Prog

end GreenticEvents.Effects
