import Mathlib.Logic.Relation
import GreenticEvents.Pattern

/-!
# Runs of the matcher

`simple_match` with its index operations as they stand in the source, each of
which could fail, and with a bound on the passes of its loops.
-/

namespace GreenticEvents

/-- What would keep the matcher from an answer: an index out of bounds, or a loop that has
not ended within its bound. -/
inductive MatchFault where
  | outOfBounds
  | outOfPasses

def index {α : Type} (l : List α) (i : ℕ) : Except MatchFault α :=
  match l[i]? with
  | some a => .ok a
  | none => .error .outOfBounds

section Checked

variable {α : Type} [DecidableEq α] (star any : α) (pat text : List α)

/-- `pi < pat.len() && (pat[pi] == b'?' || pat[pi] == text[ti])`. -/
def fitsHere (s : MatchState) : Except MatchFault Bool := do
  if s.pi < pat.length then
    if (← index pat s.pi) = any then return true
    else return decide ((← index pat s.pi) = (← index text s.ti))
  else return false

/-- `pi < pat.len() && pat[pi] == b'*'`. -/
def starHere (pi : ℕ) : Except MatchFault Bool := do
  if pi < pat.length then return decide ((← index pat pi) = star)
  else return false

/-- One test of the loop condition, and the pass through the body it allows. -/
def checkedPass (s : MatchState) : Except MatchFault Pass := do
  if s.ti < text.length then
    if ← fitsHere any pat text s then
      return .again { s with pi := s.pi + 1, ti := s.ti + 1 }
    else if ← starHere star pat s.pi then
      return .again { s with starIdx := some s.pi, pi := s.pi + 1, matchIdx := s.ti }
    else return backtrack s
  else return .leave s

def checkedSkipStars : ℕ → ℕ → Except MatchFault ℕ
  | 0, _ => .error .outOfPasses
  | n + 1, pi => do
    if ← starHere star pat pi then checkedSkipStars n (pi + 1) else return pi

def checkedLoop : ℕ → MatchState → Except MatchFault Bool
  | 0, _ => .error .outOfPasses
  | n + 1, s => do
    match ← checkedPass star any pat text s with
    | .again s' => checkedLoop n s'
    | .mismatch => return false
    | .leave s' => return (← checkedSkipStars star pat (pat.length + 1) s'.pi) == pat.length

def checkedMatch : Except MatchFault Bool := checkedLoop star any pat text (passBound pat text) {}

def Again (s s' : MatchState) : Prop := checkedPass star any pat text s = .ok (.again s')

end Checked

section Runs

variable {α : Type} [DecidableEq α] {star any : α} {pat text : List α}

omit [DecidableEq α] in
theorem index_of_lt {l : List α} {i : ℕ} (h : i < l.length) : index l i = .ok l[i] := by
  rw [index, List.getElem?_eq_getElem h]

theorem starHere_eq (pi : ℕ) :
    starHere star pat pi =
      .ok (if h : pi < pat.length then decide (pat[pi] = star) else false) := by
  unfold starHere
  split_ifs with h
  · rw [index_of_lt h]
    rfl
  · rfl

theorem fitsHere_eq {s : MatchState} (ht : s.ti < text.length) :
    fitsHere any pat text s = .ok (if h : s.pi < pat.length then
      decide (pat[s.pi] = any ∨ pat[s.pi] = text[s.ti]) else false) := by
  unfold fitsHere
  by_cases hp : s.pi < pat.length
  · simp only [if_pos hp, dif_pos hp, index_of_lt hp, index_of_lt ht]
    by_cases hany : pat[s.pi] = any
    · simp [hany, bind, Except.bind, pure, Except.pure]
    · simp [hany, bind, Except.bind, pure, Except.pure]
  · simp only [if_neg hp, dif_neg hp]
    rfl

variable (star any pat text) in
/-- The guards of a pass keep its indices in bounds. -/
theorem checkedPass_eq (s : MatchState) :
    checkedPass star any pat text s = .ok (pass star any pat text s) := by
  unfold checkedPass pass
  by_cases ht : s.ti < text.length
  · rw [if_pos ht, dif_pos ht, fitsHere_eq ht, starHere_eq]
    by_cases hp : s.pi < pat.length
    · simp only [dif_pos hp]
      by_cases hf : pat[s.pi] = any ∨ pat[s.pi] = text[s.ti]
      · simp [hf, bind, Except.bind, pure, Except.pure]
      · by_cases hs : pat[s.pi] = star
        · rw [hs] at hf
          simp [hf, hs, bind, Except.bind, pure, Except.pure]
        · simp [hf, hs, bind, Except.bind, pure, Except.pure]
    · simp [hp, bind, Except.bind, pure, Except.pure]
  · simp [ht, pure, Except.pure]

theorem checkedSkipStars_eq {n pi : ℕ} (hpi : pi ≤ pat.length) (hn : pat.length - pi ≤ n) :
    checkedSkipStars star pat (n + 1) pi = .ok (skipStars star pat n pi) := by
  induction n generalizing pi with
  | zero =>
    have hend : ¬ pi < pat.length := by omega
    simp [checkedSkipStars, skipStars, starHere_eq, hend, bind, Except.bind, pure, Except.pure]
  | succ n ih =>
    rw [checkedSkipStars, skipStars, starHere_eq]
    by_cases hlt : pi < pat.length
    · simp only [dif_pos hlt]
      by_cases hs : pat[pi] = star
      · have hrest := ih hlt (by omega)
        simp only [hs, decide_true, if_true]
        exact hrest
      · simp [hs, bind, Except.bind, pure, Except.pure]
    · simp [hlt, bind, Except.bind, pure, Except.pure]

theorem checkedLoop_eq {n : ℕ} {s : MatchState} (hb : s.InBounds pat text)
    (hn : s.measure pat text < n) : checkedLoop star any pat text n s =
      .ok ((matchLoop star any pat text n s).getD false) := by
  induction n generalizing s with
  | zero => omega
  | succ n ih =>
    rw [checkedLoop, matchLoop, checkedPass_eq]
    cases hpass : pass star any pat text s with
    | again s' =>
      obtain ⟨hb', hlt, -⟩ := pass_inBounds hb hpass
      exact ih hb' (by omega)
    | mismatch => rfl
    | leave s' =>
      obtain ⟨rfl, -⟩ := pass_eq_leave hpass
      have hskip : checkedSkipStars star pat (pat.length + 1) s'.pi =
          .ok (skipStars star pat pat.length s'.pi) :=
        checkedSkipStars_eq hb.pi_le (Nat.sub_le _ _)
      simp [hskip, bind, Except.bind, pure, Except.pure]

theorem Again.pass_eq {s s' : MatchState} (h : Again star any pat text s s') :
    pass star any pat text s = .again s' := by
  rw [Again, checkedPass_eq] at h
  exact Except.ok.inj h

theorem run_inBounds {s s' : MatchState} (hb : s.InBounds pat text)
    (h : Relation.ReflTransGen (Again star any pat text) s s') :
    s'.InBounds pat text ∧ s.matchIdx ≤ s'.matchIdx := by
  induction h with
  | refl => exact ⟨hb, le_rfl⟩
  | tail _ hstep ih =>
    obtain ⟨hb', -, hle⟩ := pass_inBounds ih.1 hstep.pass_eq
    exact ⟨hb', ih.2.trans hle⟩

variable (star any pat text) in
/-- The matcher ends within its bound and indexes nothing out of bounds.  In every run
`match_idx <= ti <= text.len()`, and `match_idx` never decreases. -/
theorem simpleMatch_safe :
    checkedMatch star any pat text = .ok (simpleMatch star any pat text) ∧
      ∀ s, Relation.ReflTransGen (Again star any pat text) {} s →
        s.matchIdx ≤ s.ti ∧ s.ti ≤ text.length ∧
          ∀ s', Relation.ReflTransGen (Again star any pat text) s s' →
            s.matchIdx ≤ s'.matchIdx := by
  refine ⟨checkedLoop_eq start_inBounds start_measure, ?_⟩
  intro s hs
  obtain ⟨hb, -⟩ := run_inBounds start_inBounds hs
  exact ⟨hb.match_le, hb.ti_le, fun s' hrun => (run_inBounds hb hrun).2⟩

end Runs

end GreenticEvents
