import Mathlib.Data.Finset.Card
import Mathlib.Data.Finset.Range
import Mathlib.Logic.Relation

/-!
# Loops with a counter of their passes

The body of the loop leads from a state to the next one or ends the loop with a
result.  Where the states have places out of a finite list, and a place met again
is left again the same way, more passes than places are as good as no counter.
-/

namespace GreenticEvents.Data

variable {σ ρ α : Type} {step : σ → σ ⊕ ρ} {s t : σ} {n : ℕ}

/-- The loop; `none` when the passes are used up. -/
def walk (step : σ → σ ⊕ ρ) : ℕ → σ → Option ρ
  | 0, _ => none
  | n + 1, s =>
    match step s with
    | .inl s' => walk step n s'
    | .inr r => some r

/-- Where `n` passes lead that all go on. -/
def trail (step : σ → σ ⊕ ρ) : ℕ → σ → Option σ
  | 0, s => some s
  | n + 1, s =>
    match step s with
    | .inl s' => trail step n s'
    | .inr _ => none

/-- The pass from `s` goes on with `s'`. -/
def GoesOn (step : σ → σ ⊕ ρ) (s s' : σ) : Prop := step s = .inl s'

theorem trail_succ_of_goesOn {s' : σ} (h : GoesOn step s s') (n : ℕ) :
    trail step (n + 1) s = trail step n s' := by
  rw [trail, h]

theorem trail_succ_iff :
    trail step (n + 1) s = some t ↔ ∃ s', GoesOn step s s' ∧ trail step n s' = some t := by
  unfold GoesOn
  cases hs : step s with
  | inl s' =>
    rw [trail_succ_of_goesOn hs]
    simp
  | inr r => simp [trail, hs]

theorem trail_one : trail step 1 s = some t ↔ GoesOn step s t := by
  rw [trail_succ_iff]
  simp [trail]

theorem trail_add (m : ℕ) :
    trail step (m + n) s = some t ↔ ∃ u, trail step m s = some u ∧ trail step n u = some t := by
  induction m generalizing s with
  | zero => simp [trail]
  | succ m ih =>
    rw [Nat.add_right_comm, trail_succ_iff]
    constructor
    · rintro ⟨s', hs, htrail⟩
      obtain ⟨u, hu, ht⟩ := ih.mp htrail
      exact ⟨u, trail_succ_iff.mpr ⟨s', hs, hu⟩, ht⟩
    · rintro ⟨u, hu, ht⟩
      obtain ⟨s', hs, hu⟩ := trail_succ_iff.mp hu
      exact ⟨s', hs, ih.mpr ⟨u, hu, ht⟩⟩

theorem trail_snoc_iff :
    trail step (n + 1) s = some t ↔ ∃ u, trail step n s = some u ∧ GoesOn step u t := by
  rw [trail_add]
  simp only [trail_one]

theorem reach_iff_trail :
    Relation.ReflTransGen (GoesOn step) s t ↔ ∃ n, trail step n s = some t := by
  constructor
  · intro h
    induction h with
    | refl => exact ⟨0, rfl⟩
    | tail _ hlast ih =>
      obtain ⟨n, hn⟩ := ih
      exact ⟨n + 1, trail_snoc_iff.mpr ⟨_, hn, hlast⟩⟩
  · rintro ⟨n, hn⟩
    induction n generalizing t with
    | zero =>
      cases hn
      exact .refl
    | succ n ih =>
      obtain ⟨u, hu, hlast⟩ := trail_snoc_iff.mp hn
      exact (ih hu).tail hlast

theorem walk_eq_none : walk step n s = none ↔ ∃ t, trail step n s = some t := by
  induction n generalizing s with
  | zero => simp [walk, trail]
  | succ n ih =>
    unfold walk trail
    cases step s with
    | inl s' => exact ih
    | inr r => simp

theorem walk_eq_some {r : ρ} :
    walk step n s = some r ↔ ∃ k < n, ∃ t, trail step k s = some t ∧ step t = .inr r := by
  -- on the bound, with the first pass split off
  induction n generalizing s with
  | zero => simp [walk]
  | succ n ih =>
    cases hs : step s with
    | inl s' =>
      rw [walk, hs]
      dsimp only
      rw [ih]
      constructor
      · rintro ⟨k, hk, t, ht, hr⟩
        exact ⟨k + 1, Nat.succ_lt_succ hk, t, trail_succ_iff.mpr ⟨s', hs, ht⟩, hr⟩
      · rintro ⟨k, hk, t, ht, hr⟩
        cases k with
        | zero =>
          cases ht
          rw [hs] at hr
          cases hr
        | succ k =>
          rw [trail_succ_of_goesOn hs] at ht
          exact ⟨k, Nat.lt_of_succ_lt_succ hk, t, ht, hr⟩
    | inr r' =>
      rw [walk, hs, Option.some.injEq]
      constructor
      · rintro rfl
        exact ⟨0, n.succ_pos, s, rfl, hs⟩
      · rintro ⟨k, -, t, ht, hr⟩
        cases k with
        | zero =>
          cases ht
          exact Sum.inr.inj (hs.symm.trans hr)
        | succ k =>
          obtain ⟨s', hgo, -⟩ := trail_succ_iff.mp ht
          cases hs.symm.trans hgo

theorem trail_of_le {k : ℕ} (hk : k ≤ n) (h : trail step n s = some t) :
    ∃ u, trail step k s = some u := by
  obtain ⟨m, rfl⟩ := Nat.exists_eq_add_of_le hk
  obtain ⟨u, hu, -⟩ := (trail_add k).mp h
  exact ⟨u, hu⟩

section Places

variable {place : σ → α} {places : List α}
  (hplaces : ∀ t t', GoesOn step t t' → place t ∈ places)

include hplaces

/-- More passes than places visit a place twice. -/
theorem exists_revisit (hn : places.length < n) (h : trail step n s = some t) :
    ∃ i j u v, i < j ∧ j < n ∧ trail step i s = some u ∧ trail step j s = some v ∧
      place v = place u := by
  classical
  have hvisit (k : ℕ) (hk : k < n) : ∃ u, trail step k s = some u ∧ place u ∈ places := by
    obtain ⟨u', hu'⟩ := trail_of_le hk h
    obtain ⟨u, hu, hgo⟩ := trail_snoc_iff.mp hu'
    exact ⟨u, hu, hplaces u u' hgo⟩
  let visited (k : ℕ) : Option α := (trail step k s).map place
  have hmaps : ∀ k ∈ Finset.range n, visited k ∈ (places.map some).toFinset := by
    intro k hk
    obtain ⟨u, hu, hmem⟩ := hvisit k (Finset.mem_range.mp hk)
    simp only [visited, hu, Option.map_some, List.mem_toFinset]
    exact List.mem_map_of_mem hmem
  have hcard : (places.map some).toFinset.card < (Finset.range n).card := by
    rw [Finset.card_range]
    exact (List.toFinset_card_le _).trans_lt (by rwa [List.length_map])
  obtain ⟨i, hi, j, hj, hne, heq⟩ := Finset.exists_ne_map_eq_of_card_lt_of_maps_to hcard hmaps
  rw [Finset.mem_range] at hi hj
  obtain ⟨u, hu, -⟩ := hvisit i hi
  obtain ⟨v, hv, -⟩ := hvisit j hj
  have hplace : place u = place v := by simpa [visited, hu, hv] using heq
  rcases Nat.lt_or_gt_of_ne hne with hlt | hlt
  · exact ⟨i, j, u, v, hlt, hj, hu, hv, hplace.symm⟩
  · exact ⟨j, i, v, u, hlt, hi, hv, hu, hplace⟩

/-- The places on from `s` are left the same way each time. -/
def Retraces (step : σ → σ ⊕ ρ) (place : σ → α) (s : σ) : Prop :=
  ∀ u u' v, Relation.ReflTransGen (GoesOn step) s u → GoesOn step u u' →
    Relation.ReflTransGen (GoesOn step) u' v → place v = place u →
      ∃ v', GoesOn step v v' ∧ place v' = place u'

omit hplaces in
/-- From a place met again on, the loop repeats what it did before. -/
theorem Retraces.endless (hre : Retraces step place s) {i j : ℕ} {u v : σ} (hij : i < j)
    (hu : trail step i s = some u) (hv : trail step j s = some v) (hplace : place v = place u)
    (k : ℕ) : ∃ u v, trail step (i + k) s = some u ∧ trail step (j + k) s = some v ∧
      place v = place u := by
  induction k with
  | zero => exact ⟨u, v, hu, hv, hplace⟩
  | succ k ih =>
    obtain ⟨u, v, hu, hv, hplace⟩ := ih
    obtain ⟨u', hu'⟩ := trail_of_le (k := i + k + 1) (by omega) hv
    have hgo : GoesOn step u u' := by
      obtain ⟨w, hw, hgo⟩ := trail_snoc_iff.mp hu'
      rw [hu] at hw
      cases hw
      exact hgo
    have hlater : Relation.ReflTransGen (GoesOn step) u' v := by
      obtain ⟨m, hm⟩ := Nat.exists_eq_add_of_le (show i + k + 1 ≤ j + k by omega)
      rw [hm] at hv
      obtain ⟨w, hw, hrest⟩ := (trail_add _).mp hv
      rw [hu'] at hw
      cases hw
      exact reach_iff_trail.mpr ⟨m, hrest⟩
    obtain ⟨v', hgo', hplace'⟩ := hre u u' v (reach_iff_trail.mpr ⟨_, hu⟩) hgo hlater hplace
    exact ⟨u', v', hu', trail_snoc_iff.mpr ⟨v, hv, hgo'⟩, hplace'⟩

section Exact

variable (hre : Retraces step place s) (hn : places.length < n)

include hre hn

/-- The passes are used up exactly when the loop goes on for ever, and then in a circle. -/
theorem walk_eq_none_iff : walk step n s = none ↔
    (∀ t, Relation.ReflTransGen (GoesOn step) s t → ∃ t', GoesOn step t t') ∧
      ∃ u v, Relation.ReflTransGen (GoesOn step) s u ∧ Relation.TransGen (GoesOn step) u v ∧
        place v = place u := by
  rw [walk_eq_none]
  constructor
  · rintro ⟨t, ht⟩
    -- with more passes than places some place is met twice, and retraced for ever
    obtain ⟨i, j, u, v, hij, -, hu, hv, hplace⟩ := exists_revisit hplaces hn ht
    refine ⟨?_, u, v, reach_iff_trail.mpr ⟨i, hu⟩, ?_, hplace⟩
    · intro t ht
      obtain ⟨m, hm⟩ := reach_iff_trail.mp ht
      obtain ⟨-, w, -, hw, -⟩ := hre.endless hij hu hv hplace (m + 1)
      obtain ⟨t', ht'⟩ := trail_of_le (k := m + 1) (by omega) hw
      obtain ⟨t'', hm', hgo⟩ := trail_snoc_iff.mp ht'
      rw [hm] at hm'
      cases hm'
      exact ⟨t', hgo⟩
    · obtain ⟨m, rfl⟩ := Nat.exists_eq_add_of_lt hij
      rw [Nat.add_assoc] at hv
      obtain ⟨w, hw, hrest⟩ := (trail_add i).mp hv
      rw [hu] at hw
      cases hw
      obtain ⟨u', hgo, hrest⟩ := trail_succ_iff.mp hrest
      exact .head' hgo (reach_iff_trail.mpr ⟨m, hrest⟩)
  · rintro ⟨hall, -⟩
    have hon (m : ℕ) : ∃ t, trail step m s = some t := by
      induction m with
      | zero => exact ⟨s, rfl⟩
      | succ m ih =>
        obtain ⟨t, ht⟩ := ih
        obtain ⟨t', hgo⟩ := hall t (reach_iff_trail.mpr ⟨m, ht⟩)
        exact ⟨t', trail_snoc_iff.mpr ⟨t, ht, hgo⟩⟩
    exact hon n

/-- The loop has the result that it would have without the counter. -/
theorem walk_eq_some_iff {r : ρ} : walk step n s = some r ↔
    ∃ t, Relation.ReflTransGen (GoesOn step) s t ∧ step t = .inr r := by
  constructor
  · intro h
    obtain ⟨k, -, t, ht, hr⟩ := walk_eq_some.mp h
    exact ⟨t, reach_iff_trail.mpr ⟨k, ht⟩, hr⟩
  · rintro ⟨t, ht, hr⟩
    obtain ⟨k, hk⟩ := reach_iff_trail.mp ht
    cases hwalk : walk step n s with
    | none =>
      obtain ⟨t', hgo⟩ := ((walk_eq_none_iff hplaces hre hn).mp hwalk).1 t ht
      cases hr.symm.trans hgo
    | some r' =>
      -- both results come from the one state that does not go on
      have hmore : walk step (max n (k + 1)) s = some r :=
        walk_eq_some.mpr ⟨k, by omega, t, hk, hr⟩
      obtain ⟨k', hk', t', ht', hr'⟩ := walk_eq_some.mp hwalk
      have hmore' : walk step (max n (k + 1)) s = some r' :=
        walk_eq_some.mpr ⟨k', by omega, t', ht', hr'⟩
      exact hmore'.symm.trans hmore

end Exact

end Places

/-- Loops over related states with related results end alike, unless the first ends with a result
in `Early`. -/
theorem walk_related {σ' ρ' : Type} {step' : σ' → σ' ⊕ ρ'} {R : σ → σ' → Prop}
    {Q : ρ → ρ' → Prop} {Early : ρ → Prop}
    (hstep : ∀ s s', R s s' →
      (∃ r, step s = .inr r ∧ Early r) ∨ Sum.LiftRel R Q (step s) (step' s'))
    {s : σ} {s' : σ'} (h : R s s') :
    (∃ r, walk step n s = some r ∧ Early r) ∨ Option.Rel Q (walk step n s) (walk step' n s') := by
  induction n generalizing s s' with
  | zero => exact .inr .none
  | succ n ih =>
    unfold walk
    rcases hstep s s' h with ⟨r, hr, hearly⟩ | hrel
    · left
      rw [hr]
      exact ⟨r, rfl, hearly⟩
    · generalize step s = next at hrel ⊢
      generalize step' s' = next' at hrel ⊢
      cases hrel with
      | inl hnext => exact ih hnext
      | inr hdone => exact .inr (.some hdone)

end GreenticEvents.Data
