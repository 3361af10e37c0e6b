import Mathlib.Data.List.Basic

namespace GreenticEvents.Data

/-- Every member of the list is related by `Q` to the members before it. -/
def EachAfter {E : Type} (Q : List E → E → Prop) (l : List E) : Prop :=
  ∀ before e after, l = before ++ e :: after → Q before e

variable {E : Type} {Q : List E → E → Prop}

@[simp] theorem eachAfter_nil : EachAfter Q [] := by
  intro before e after h
  simp at h

@[simp] theorem eachAfter_cons {x : E} {l : List E} :
    EachAfter Q (x :: l) ↔ Q [] x ∧ EachAfter (fun before => Q (x :: before)) l := by
  constructor
  · intro h
    refine ⟨h [] x l rfl, fun before e after hl => ?_⟩
    exact h (x :: before) e after (by rw [hl, List.cons_append])
  · rintro ⟨hx, hl⟩ before e after h
    cases before with
    | nil =>
      obtain ⟨rfl, _⟩ := List.cons.inj h
      exact hx
    | cons y before =>
      obtain ⟨rfl, htail⟩ := List.cons.inj h
      exact hl before e after htail

theorem EachAfter.append {l m : List E} (hl : EachAfter Q l) (hm : EachAfter Q m)
    (mono : ∀ before e, Q before e → Q (l ++ before) e) : EachAfter Q (l ++ m) := by
  intro before e after h
  rcases List.append_eq_append_iff.mp h with ⟨rest, rfl, hrest⟩ | ⟨rest, hl', hrest⟩
  · exact mono rest e (hm rest e after hrest)
  · cases rest with
    | nil =>
      rw [List.append_nil] at hl'
      subst hl'
      simpa using mono [] e (hm [] e after (by simpa using hrest.symm))
    | cons y rest =>
      obtain ⟨rfl, _⟩ := List.cons.inj hrest
      exact hl before e rest hl'

theorem EachAfter.mono {Q' : List E → E → Prop} {l : List E} (hl : EachAfter Q l)
    (h : ∀ before e, Q before e → Q' before e) : EachAfter Q' l :=
  fun before e after hcut => h before e (hl before e after hcut)

theorem EachAfter.snoc {l : List E} {x : E} (hl : EachAfter Q l) (hx : Q l x) :
    EachAfter Q (l ++ [x]) := by
  intro before e after h
  rcases List.eq_nil_or_concat after with rfl | ⟨after, y, rfl⟩
  · obtain ⟨rfl, hlast⟩ := List.append_inj' h rfl
    obtain rfl := List.singleton_inj.mp hlast
    exact hx
  · rw [List.concat_eq_append, ← List.cons_append, ← List.append_assoc] at h
    exact hl before e after (List.append_inj' h rfl).1

theorem eachAfter_snoc {l : List E} {x : E} :
    EachAfter Q (l ++ [x]) ↔ EachAfter Q l ∧ Q l x := by
  constructor
  · intro h
    refine ⟨fun before e after hl => ?_, h l x [] rfl⟩
    exact h before e (after ++ [x]) (by rw [hl, List.append_assoc, List.cons_append])
  · rintro ⟨hl, hx⟩
    exact hl.snoc hx

/-- A relation that full rounds respect holds in a loop if it holds in each round. -/
theorem EachAfter.rounds {rounds : List (List E)} {last : List E}
    (hrounds : ∀ r ∈ rounds, EachAfter Q r) (hlast : EachAfter Q last)
    (mono : ∀ r ∈ rounds, ∀ before e, Q before e → Q (r ++ before) e) :
    EachAfter Q (rounds.flatten ++ last) := by
  induction rounds with
  | nil => exact hlast
  | cons r rounds ih =>
    rw [List.flatten_cons, List.append_assoc]
    apply (hrounds r List.mem_cons_self).append
    · exact ih (fun r' hr' => hrounds r' (List.mem_cons_of_mem r hr'))
        fun r' hr' => mono r' (List.mem_cons_of_mem r hr')
    · exact mono r List.mem_cons_self

end GreenticEvents.Data
