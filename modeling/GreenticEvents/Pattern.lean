import Mathlib.Data.String.Basic
import GreenticEvents.Data.Glob

/-!
# Glob-style topic patterns (`pattern.rs`)

`simpleMatch` is the index loop of the source, over any alphabet; the source
runs it on UTF-8 bytes.
-/

namespace GreenticEvents
open Data

/-- The locals of the `while` loop. -/
structure MatchState where
  pi : ℕ := 0
  ti : ℕ := 0
  starIdx : Option ℕ := none
  matchIdx : ℕ := 0

/-- One test of the loop condition, and the pass through the body it allows. -/
inductive Pass where
  | again (s : MatchState)
  | mismatch
  | leave (s : MatchState)

/-- The two last branches of the body: restart after the last star, or give up. -/
def backtrack (s : MatchState) : Pass :=
  match s.starIdx with
  | some star => .again { s with pi := star + 1, matchIdx := s.matchIdx + 1, ti := s.matchIdx + 1 }
  | none => .mismatch

section Loop

variable {α : Type} [DecidableEq α] (star any : α) (pat text : List α)

def pass (s : MatchState) : Pass :=
  if _ : s.ti < text.length then
    if _ : s.pi < pat.length then
      if pat[s.pi] = any ∨ pat[s.pi] = text[s.ti] then
        .again { s with pi := s.pi + 1, ti := s.ti + 1 }
      else if pat[s.pi] = star then
        .again { s with starIdx := some s.pi, pi := s.pi + 1, matchIdx := s.ti }
      else backtrack s
    else backtrack s
  else .leave s

/-- The loop after the main one; the first argument bounds its passes. -/
def skipStars : ℕ → ℕ → ℕ
  | 0, pi => pi
  | n + 1, pi =>
    if _ : pi < pat.length then
      if pat[pi] = star then skipStars n (pi + 1) else pi
    else pi

/-- The main loop; `none` when the bound on its passes is used up. -/
def matchLoop : ℕ → MatchState → Option Bool
  | 0, _ => none
  | n + 1, s =>
    match pass star any pat text s with
    | .again s' => matchLoop n s'
    | .mismatch => some false
    | .leave s' => some (skipStars star pat pat.length s'.pi == pat.length)

/-- More passes than the loop can make, see `matchLoop_isSome`. -/
def passBound : ℕ := (text.length + 1) * (pat.length + 1)

def simpleMatch : Bool := (matchLoop star any pat text (passBound pat text) {}).getD false

end Loop

def asBytes (s : String) : List UInt8 := s.toUTF8.data.toList

def starByte : UInt8 := 42

def anyByte : UInt8 := 63

def matchesPattern (pattern value : String) : Bool :=
  if pattern = "*" then true
  else simpleMatch starByte anyByte (asBytes pattern) (asBytes value)

@[simp] theorem matchesPattern_star (value : String) : matchesPattern "*" value = true := by
  simp [matchesPattern]

section Invariant

variable {α : Type} {star any : α} {pat text : List α}

/-- What every pass decreases: restarts still possible, then pattern letters left. -/
def MatchState.measure (pat text : List α) (s : MatchState) : ℕ :=
  (text.length - s.matchIdx) * (pat.length + 1) + (pat.length - s.pi)

/-- The bounds the loop keeps on its indices. -/
structure MatchState.InBounds (pat text : List α) (s : MatchState) : Prop where
  pi_le : s.pi ≤ pat.length
  match_le : s.matchIdx ≤ s.ti
  ti_le : s.ti ≤ text.length
  star_lt : ∀ j ∈ s.starIdx, j < pat.length

theorem start_inBounds : ({} : MatchState).InBounds pat text :=
  ⟨Nat.zero_le _, le_rfl, Nat.zero_le _, by simp⟩

theorem start_measure : ({} : MatchState).measure pat text < passBound pat text := by
  simp only [MatchState.measure, passBound, Nat.add_mul, Nat.sub_zero]
  omega

/-- The pattern and text that follow the last star, or all of both. -/
def MatchState.anchor (pat text : List α) (s : MatchState) : List α × List α :=
  match s.starIdx with
  | some j => (pat.drop (j + 1), text.drop s.matchIdx)
  | none => (pat, text)

/-- What is still to be decided: whether what follows the last star matches some rest of
the text. -/
def MatchState.Goal (star any : α) (pat text : List α) (s : MatchState) : Prop :=
  match s.starIdx with
  | some j => Ahead star any (pat.drop (j + 1)) (text.drop s.matchIdx)
  | none => LiteralGlob star any pat text

/-- Since the last star the pattern has matched the text letter by letter. -/
def MatchState.Tracks (any : α) (pat text : List α) (s : MatchState) : Prop :=
  ∃ w u, (s.anchor pat text).1 = w ++ pat.drop s.pi ∧ (s.anchor pat text).2 = u ++ text.drop s.ti ∧
    List.Forall₂ (Fits any) w u

theorem forall₂_snoc {β γ : Type} {R : β → γ → Prop} {w : List β} {u : List γ} {x : β} {c : γ}
    (h : List.Forall₂ R w u) (hx : R x c) : List.Forall₂ R (w ++ [x]) (u ++ [c]) :=
  List.rel_append h (.cons hx .nil)

theorem fits_tracks {s : MatchState} (ht : s.Tracks any pat text) (hp : s.pi < pat.length)
    (hti : s.ti < text.length) (hf : Fits any pat[s.pi] text[s.ti]) :
    ({ s with pi := s.pi + 1, ti := s.ti + 1 } : MatchState).Tracks any pat text := by
  obtain ⟨w, u, hw, hu, hwu⟩ := ht
  refine ⟨w ++ [pat[s.pi]], u ++ [text[s.ti]], ?_, ?_, forall₂_snoc hwu hf⟩
  · rw [List.append_assoc, List.singleton_append, ← List.drop_eq_getElem_cons hp]
    exact hw
  · rw [List.append_assoc, List.singleton_append, ← List.drop_eq_getElem_cons hti]
    exact hu

theorem goal_eq {s : MatchState} : s.Goal star any pat text ↔
    if s.starIdx.isSome then Ahead star any (s.anchor pat text).1 (s.anchor pat text).2
    else LiteralGlob star any (s.anchor pat text).1 (s.anchor pat text).2 := by
  unfold MatchState.Goal MatchState.anchor
  cases s.starIdx <;> simp

/-- Reaching a further star leaves only what follows it to be decided. -/
theorem star_goal (hne : star ≠ any) {s : MatchState} (ht : s.Tracks any pat text)
    (hp : s.pi < pat.length) (hs : pat[s.pi] = star) (hc : (text.drop s.ti).head? ≠ some star) :
    s.Goal star any pat text ↔ Ahead star any (pat.drop (s.pi + 1)) (text.drop s.ti) := by
  obtain ⟨w, u, hw, hu, hwu⟩ := ht
  have hdrop : pat.drop s.pi = star :: pat.drop (s.pi + 1) := by
    rw [List.drop_eq_getElem_cons hp, hs]
  rw [goal_eq, hw, hu, hdrop]
  split_ifs
  · exact ahead_later_star hne hwu hc
  · exact (literalGlob_matched hne hwu).trans (literalGlob_star hc)

theorem start_tracks : ({} : MatchState).Tracks any pat text := ⟨[], [], rfl, rfl, .nil⟩

end Invariant

section Spec

variable {α : Type} [DecidableEq α] {star any : α} {pat text : List α}

variable (star any pat text) in
/-- What one pass can do. -/
theorem pass_cases (s : MatchState) :
    (∃ hp : s.pi < pat.length, ∃ ht : s.ti < text.length, Fits any pat[s.pi] text[s.ti] ∧
      pass star any pat text s = .again { s with pi := s.pi + 1, ti := s.ti + 1 }) ∨
    (∃ hp : s.pi < pat.length, ∃ ht : s.ti < text.length, pat[s.pi] = star ∧ text[s.ti] ≠ star ∧
      pass star any pat text s =
        .again { s with starIdx := some s.pi, pi := s.pi + 1, matchIdx := s.ti }) ∨
    (∃ ht : s.ti < text.length,
      (∀ hp : s.pi < pat.length, ¬ Fits any pat[s.pi] text[s.ti] ∧ pat[s.pi] ≠ star) ∧
      pass star any pat text s = backtrack s) ∨
    (text.length ≤ s.ti ∧ pass star any pat text s = .leave s) := by
  by_cases ht : s.ti < text.length
  · by_cases hp : s.pi < pat.length
    · by_cases hf : pat[s.pi] = any ∨ pat[s.pi] = text[s.ti]
      · exact .inl ⟨hp, ht, hf, by simp [pass, ht, hp, hf]⟩
      · by_cases hs : pat[s.pi] = star
        · refine .inr (.inl ⟨hp, ht, hs, fun hc => hf (.inr (hs.trans hc.symm)), ?_⟩)
          rw [pass, dif_pos ht, dif_pos hp, if_neg hf, if_pos hs]
        · refine .inr (.inr (.inl ⟨ht, fun _ => ⟨hf, hs⟩, ?_⟩))
          rw [pass, dif_pos ht, dif_pos hp, if_neg hf, if_neg hs]
    · exact .inr (.inr (.inl ⟨ht, fun h => absurd h hp, by simp [pass, ht, hp]⟩))
  · exact .inr (.inr (.inr ⟨by omega, by simp [pass, ht]⟩))

theorem backtrack_again {s s' : MatchState} (h : backtrack s = .again s') :
    ∃ j, s.starIdx = some j ∧
      s' = { s with pi := j + 1, matchIdx := s.matchIdx + 1, ti := s.matchIdx + 1 } := by
  unfold backtrack at h
  split at h
  · next j hj => exact ⟨j, hj, (Pass.again.inj h).symm⟩
  · cases h

theorem pass_eq_leave {s s' : MatchState} (h : pass star any pat text s = .leave s') :
    s' = s ∧ text.length ≤ s.ti := by
  rcases pass_cases star any pat text s with
    ⟨_, _, _, he⟩ | ⟨_, _, _, _, he⟩ | ⟨_, _, he⟩ | ⟨hti, he⟩
  · cases he.symm.trans h
  · cases he.symm.trans h
  · have hb := he.symm.trans h
    unfold backtrack at hb
    split at hb <;> cases hb
  · cases he.symm.trans h
    exact ⟨rfl, hti⟩

theorem pass_inBounds {s s' : MatchState} (hb : s.InBounds pat text)
    (h : pass star any pat text s = .again s') :
    s'.InBounds pat text ∧ s'.measure pat text < s.measure pat text ∧ s.matchIdx ≤ s'.matchIdx := by
  obtain ⟨h1, h2, h3, h4⟩ := hb
  rcases pass_cases star any pat text s with
    ⟨hp, ht, -, he⟩ | ⟨hp, ht, -, -, he⟩ | ⟨ht, -, he⟩ | ⟨-, he⟩
  · cases he.symm.trans h
    exact ⟨⟨hp, by simp only; omega, ht, h4⟩, by simp only [MatchState.measure]; omega, le_rfl⟩
  · cases he.symm.trans h
    refine ⟨⟨hp, le_rfl, ht.le, by simpa using hp⟩, ?_, h2⟩
    have := Nat.mul_le_mul_right (pat.length + 1) (Nat.sub_le_sub_left h2 text.length)
    simp only [MatchState.measure]
    omega
  · obtain ⟨j, hj, rfl⟩ := backtrack_again (he.symm.trans h)
    have hjl := h4 j hj
    refine ⟨⟨hjl, le_rfl, by simp only; omega, h4⟩, ?_, Nat.le_succ _⟩
    have hsub : text.length - s.matchIdx = text.length - (s.matchIdx + 1) + 1 := by omega
    simp only [MatchState.measure, hsub, Nat.add_mul]
    omega
  · cases he.symm.trans h

theorem matchLoop_isSome {n : ℕ} {s : MatchState} (hb : s.InBounds pat text)
    (hn : s.measure pat text < n) : (matchLoop star any pat text n s).isSome := by
  induction n generalizing s with
  | zero => omega
  | succ n ih =>
    unfold matchLoop
    split
    · next s' h =>
      obtain ⟨hb', hlt, -⟩ := pass_inBounds hb h
      exact ih hb' (by omega)
    · rfl
    · rfl

theorem skipStars_eq_length {n pi : ℕ} (hpi : pi ≤ pat.length) (hn : pat.length - pi ≤ n) :
    skipStars star pat n pi = pat.length ↔ ∀ x ∈ pat.drop pi, x = star := by
  induction n generalizing pi with
  | zero =>
    have : pi = pat.length := by omega
    simp [skipStars, this]
  | succ n ih =>
    unfold skipStars
    split
    · next hlt =>
      rw [List.drop_eq_getElem_cons hlt, List.forall_mem_cons]
      split
      · next hs =>
        rw [ih hlt (by omega)]
        simp [hs]
      · next hs =>
        simp only [hs, false_and, iff_false]
        omega
    · next hge =>
      have : pi = pat.length := by omega
      simp [this]

omit [DecidableEq α] in
/-- A letter that fits no pattern letter at the head cannot be matched there. -/
theorem not_glob_head {s : MatchState} {c : α} {t : List α}
    (hm : ∀ hp : s.pi < pat.length, ¬ Fits any pat[s.pi] c ∧ pat[s.pi] ≠ star) :
    ¬ LiteralGlob star any (pat.drop s.pi) (c :: t) := by
  by_cases hp : s.pi < pat.length
  · rw [List.drop_eq_getElem_cons hp]
    exact not_literalGlob (hm hp).2 (hm hp).1
  · rw [List.drop_eq_nil_of_le (by omega), literalGlob_nil]
    exact List.cons_ne_nil _ _

/-- One pass keeps the question asked and its answer. -/
theorem pass_goal (hne : star ≠ any) {s s' : MatchState} (hb : s.InBounds pat text)
    (ht : s.Tracks any pat text) (h : pass star any pat text s = .again s') :
    s'.Tracks any pat text ∧ (s'.Goal star any pat text ↔ s.Goal star any pat text) := by
  rcases pass_cases star any pat text s with
    ⟨hp, hti, hf, he⟩ | ⟨hp, hti, hs, hc, he⟩ | ⟨hti, hm, he⟩ | ⟨-, he⟩
  · cases he.symm.trans h
    exact ⟨fits_tracks ht hp hti hf, Iff.rfl⟩
  · cases he.symm.trans h
    have hhead : (text.drop s.ti).head? ≠ some star := by
      rw [List.drop_eq_getElem_cons hti, List.head?_cons]
      exact fun h => hc (Option.some.inj h)
    exact ⟨⟨[], [], rfl, rfl, .nil⟩, (star_goal hne ht hp hs hhead).symm⟩
  · obtain ⟨j, hj, rfl⟩ := backtrack_again (he.symm.trans h)
    obtain ⟨w, u, hw, hu, hwu⟩ := ht
    have hlt : s.matchIdx < text.length := lt_of_le_of_lt hb.match_le hti
    refine ⟨⟨[], [], by simp [MatchState.anchor, hj], by simp [MatchState.anchor, hj], .nil⟩, ?_⟩
    simp only [MatchState.Goal, MatchState.anchor, hj] at hw hu ⊢
    -- with nothing left to try at this place, the star takes one letter more
    have hhere : ¬ LiteralGlob star any (pat.drop (j + 1)) (text.drop s.matchIdx) := by
      rw [hw, hu, literalGlob_matched hne hwu, List.drop_eq_getElem_cons hti]
      exact not_glob_head hm
    rw [List.drop_eq_getElem_cons hlt] at hhere ⊢
    rw [ahead_cons, or_iff_right hhere]
  · cases he.symm.trans h

theorem pass_mismatch (hne : star ≠ any) {s : MatchState} (ht : s.Tracks any pat text)
    (h : pass star any pat text s = .mismatch) : ¬ s.Goal star any pat text := by
  rcases pass_cases star any pat text s with
    ⟨_, _, _, he⟩ | ⟨_, _, _, _, he⟩ | ⟨hti, hm, he⟩ | ⟨-, he⟩
  · cases he.symm.trans h
  · cases he.symm.trans h
  · have hnone : s.starIdx = none := by
      have hb := he.symm.trans h
      unfold backtrack at hb
      split at hb
      · cases hb
      · assumption
    obtain ⟨w, u, hw, hu, hwu⟩ := ht
    rw [goal_eq, hw, hu, hnone, if_neg (by simp), literalGlob_matched hne hwu,
      List.drop_eq_getElem_cons hti]
    exact not_glob_head hm
  · cases he.symm.trans h

theorem pass_leave (hne : star ≠ any) {s s' : MatchState} (ht : s.Tracks any pat text)
    (h : pass star any pat text s = .leave s') :
    s' = s ∧ ((∀ x ∈ pat.drop s.pi, x = star) ↔ s.Goal star any pat text) := by
  obtain ⟨hsame, hti⟩ := pass_eq_leave h
  obtain ⟨w, u, hw, hu, hwu⟩ := ht
  have hnil : text.drop s.ti = [] := List.drop_eq_nil_of_le hti
  refine ⟨hsame, ?_⟩
  rw [goal_eq, hw, hu, hnil]
  split_ifs
  · rw [List.append_nil, ahead_end hne hwu]
  · rw [literalGlob_matched hne hwu, literalGlob_end hne]

theorem matchLoop_goal (hne : star ≠ any) {n : ℕ} {s : MatchState} {b : Bool}
    (hb : s.InBounds pat text) (ht : s.Tracks any pat text)
    (h : matchLoop star any pat text n s = some b) : b = true ↔ s.Goal star any pat text := by
  induction n generalizing s with
  | zero => cases h
  | succ n ih =>
    unfold matchLoop at h
    split at h
    · next s' hs =>
      obtain ⟨ht', hgoal⟩ := pass_goal hne hb ht hs
      exact (ih (pass_inBounds hb hs).1 ht' h).trans hgoal
    · next hs =>
      cases h
      exact iff_of_false Bool.false_ne_true (pass_mismatch hne ht hs)
    · next s' hs =>
      obtain ⟨rfl, hgoal⟩ := pass_leave hne ht hs
      have hskip : skipStars star pat pat.length s'.pi = pat.length ↔
          ∀ x ∈ pat.drop s'.pi, x = star :=
        skipStars_eq_length hb.pi_le (Nat.sub_le pat.length s'.pi)
      rw [← hgoal, ← hskip, ← Option.some.inj h, beq_iff_eq]

variable (star any pat text) in
theorem simpleMatch_some : ∃ b, matchLoop star any pat text (passBound pat text) {} = some b ∧
    simpleMatch star any pat text = b := by
  have hsome : (matchLoop star any pat text (passBound pat text) {}).isSome :=
    matchLoop_isSome start_inBounds start_measure
  obtain ⟨b, hb⟩ := Option.isSome_iff_exists.mp hsome
  exact ⟨b, hb, by rw [simpleMatch, hb]; rfl⟩

/-- The loop decides the language in which a star that meets a star is a letter. -/
theorem simpleMatch_literal (hne : star ≠ any) :
    simpleMatch star any pat text = true ↔ LiteralGlob star any pat text := by
  obtain ⟨b, hb, rfl⟩ := simpleMatch_some star any pat text
  exact matchLoop_goal hne start_inBounds start_tracks hb

/-- What the loop accepts is always in the language of the pattern. -/
theorem simpleMatch_sound (hne : star ≠ any) (h : simpleMatch star any pat text = true) :
    Glob star any pat text :=
  ((simpleMatch_literal hne).mp h).glob

/-- On text without the star letter the loop accepts exactly the language. -/
theorem simpleMatch_iff (hne : star ≠ any) (hfree : star ∉ text) :
    simpleMatch star any pat text = true ↔ Glob star any pat text :=
  ⟨simpleMatch_sound hne, fun h => (simpleMatch_literal hne).mpr (h.literalGlob hfree)⟩

end Spec

example : matchesPattern "greentic.*" "greentic.repo.build" = true := by decide

example : matchesPattern "prefix*" "pre" = false := by decide

theorem asBytes_eq (s : String) : asBytes s = s.toList.flatMap String.utf8EncodeChar := by
  have h := congrArg (fun b : ByteArray => b.data.toList) (String.utf8Encode_toList (b := s))
  simp only [List.utf8Encode, List.data_toByteArray] at h
  exact h.symm

theorem asBytes_injective : Function.Injective asBytes := by
  intro s t h
  apply String.toByteArray_inj.mp
  apply ByteArray.ext
  exact Array.toList_inj.mp h

/-- An ASCII byte occurs in the encoding of one character only. -/
theorem mem_utf8EncodeChar {b : UInt8} (hb : b.toNat < 128) (c : Char) :
    b ∈ String.utf8EncodeChar c ↔ c.val.toNat = b.toNat := by
  have hofNat (n : ℕ) : b = UInt8.ofNat n ↔ b.toNat = n % 256 := by
    rw [← UInt8.toNat_inj, UInt8.toNat_ofNat']
  simp only [String.utf8EncodeChar]
  split
  · simp only [List.mem_singleton, hofNat]
    omega
  · split
    · simp only [List.mem_cons, List.not_mem_nil, or_false, hofNat]
      omega
    · split <;> simp only [List.mem_cons, List.not_mem_nil, or_false, hofNat] <;> omega

theorem mem_asBytes {b : UInt8} (hb : b.toNat < 128) {c : Char} (hc : c.val.toNat = b.toNat)
    (s : String) : b ∈ asBytes s ↔ c ∈ s.toList := by
  rw [asBytes_eq, List.mem_flatMap]
  constructor
  · rintro ⟨d, hd, hm⟩
    have hdc : d = c :=
      Char.ext (UInt32.toNat_inj.mp (((mem_utf8EncodeChar hb d).mp hm).trans hc.symm))
    exact hdc ▸ hd
  · intro h
    exact ⟨c, h, (mem_utf8EncodeChar hb c).mpr hc⟩

theorem starByte_mem (s : String) : starByte ∈ asBytes s ↔ '*' ∈ s.toList :=
  mem_asBytes (by decide) (by decide) s

theorem anyByte_mem (s : String) : anyByte ∈ asBytes s ↔ '?' ∈ s.toList :=
  mem_asBytes (by decide) (by decide) s

/-- A topic without wildcard characters. -/
def Concrete (s : String) : Prop := '*' ∉ s.toList ∧ '?' ∉ s.toList

instance (s : String) : Decidable (Concrete s) := inferInstanceAs (Decidable (_ ∧ _))

theorem matchesPattern_concrete {p : String} (hp : Concrete p) (t : String) :
    matchesPattern p t = true ↔ t = p := by
  have hs : starByte ∉ asBytes p := fun h => hp.1 ((starByte_mem p).mp h)
  have ha : anyByte ∉ asBytes p := fun h => hp.2 ((anyByte_mem p).mp h)
  have hstar : p ≠ "*" := by
    rintro rfl
    exact hp.1 (by decide)
  rw [matchesPattern, if_neg hstar]
  constructor
  · intro h
    exact asBytes_injective ((glob_literal hs ha).mp (simpleMatch_sound (by decide) h))
  · rintro rfl
    exact (simpleMatch_iff (by decide) hs).mpr ((glob_literal hs ha).mpr rfl)

/-- Every star erased and every question mark replaced by a letter. -/
def instantiate (p : String) : String :=
  .ofList (p.toList.flatMap fun c => if c = '*' then [] else if c = '?' then ['a'] else [c])

theorem instantiate_concrete (p : String) : Concrete (instantiate p) := by
  simp only [Concrete, instantiate, String.toList_ofList, List.mem_flatMap, not_exists, not_and]
  constructor <;> intro c _ <;> split_ifs with h1 h2 <;> simp <;> tauto

/-- Whatever is put for the stars, the pattern matches, as long as the other characters are
left or replaced by what they fit. -/
theorem glob_flatMap {f : Char → List Char} (hf : ∀ c, c ≠ '*' →
      List.Forall₂ (Fits anyByte) (String.utf8EncodeChar c) ((f c).flatMap String.utf8EncodeChar))
    (l : List Char) : Glob starByte anyByte (l.flatMap String.utf8EncodeChar)
      ((l.flatMap f).flatMap String.utf8EncodeChar) := by
  induction l with
  | nil => exact .nil
  | cons c l ih =>
    simp only [List.flatMap_cons, List.flatMap_append]
    by_cases hc : c = '*'
    · subst hc
      exact .star _ ih
    · exact .prepend (hf c hc) ih

theorem fits_refl {any : UInt8} (l : List UInt8) : List.Forall₂ (Fits any) l l :=
  List.forall₂_same.mpr fun _ _ => .inr rfl

/-- A text without stars that fills in the pattern is matched by it. -/
theorem matchesPattern_flatMap {p t : String} {f : Char → List Char} (hf : ∀ c, c ≠ '*' →
      List.Forall₂ (Fits anyByte) (String.utf8EncodeChar c) ((f c).flatMap String.utf8EncodeChar))
    (ht : t.toList = p.toList.flatMap f) (hstar : '*' ∉ t.toList) : matchesPattern p t = true := by
  unfold matchesPattern
  split
  · rfl
  · have hs : starByte ∉ asBytes t := fun h => hstar ((starByte_mem t).mp h)
    rw [simpleMatch_iff (by decide) hs, asBytes_eq, asBytes_eq, ht]
    exact glob_flatMap hf p.toList

theorem matchesPattern_instantiate (p : String) : matchesPattern p (instantiate p) = true := by
  refine matchesPattern_flatMap (fun c hc => ?_) String.toList_ofList (instantiate_concrete p).1
  rw [if_neg hc]
  split_ifs with hany
  · subst hany
    exact .cons (.inl rfl) .nil
  · rw [List.flatMap_singleton]
    exact fits_refl _

def asciiByte (c : Char) : UInt8 := .ofNat c.toNat

theorem asciiByte_toNat {c : Char} (hc : c.toNat < 128) : (asciiByte c).toNat = c.toNat := by
  rw [asciiByte, UInt8.toNat_ofNat']
  omega

theorem asciiByte_inj {c d : Char} (hc : c.toNat < 128) (hd : d.toNat < 128) :
    asciiByte c = asciiByte d ↔ c = d := by
  rw [← UInt8.toNat_inj, asciiByte_toNat hc, asciiByte_toNat hd]
  constructor
  · intro h
    exact Char.ext (UInt32.toNat_inj.mp h)
  · rintro rfl
    rfl

theorem utf8EncodeChar_ascii {c : Char} (hc : c.toNat < 128) :
    String.utf8EncodeChar c = [asciiByte c] := by
  have hle : c.val.toNat ≤ 127 := Nat.le_of_lt_succ hc
  simp only [String.utf8EncodeChar, if_pos hle]
  rfl

/-- No byte of a character outside ASCII is an ASCII byte. -/
theorem utf8EncodeChar_high {c : Char} (hc : ¬ c.toNat < 128) :
    ∃ b bs, String.utf8EncodeChar c = b :: bs ∧ ¬ b.toNat < 128 := by
  obtain ⟨b, bs, hbytes⟩ := List.exists_cons_of_ne_nil (String.utf8EncodeChar_ne_nil (c := c))
  refine ⟨b, bs, hbytes, fun hb => hc ?_⟩
  have hmem : b ∈ String.utf8EncodeChar c := hbytes ▸ List.mem_cons_self
  have heq : c.toNat = b.toNat := (mem_utf8EncodeChar hb c).mp hmem
  omega

/-- A byte beyond ASCII is no star and fits no letter of an ASCII text. -/
theorem not_glob_high_byte {b : UInt8} (hb : ¬ b.toNat < 128) {p : List UInt8} {t : List Char}
    (ht : ∀ c ∈ t, c.toNat < 128) : ¬ Glob starByte anyByte (b :: p) (t.map asciiByte) := by
  have hstar : b ≠ starByte := by
    rintro rfl
    exact hb (by decide)
  intro hglob
  obtain ⟨b', v, hcons, hfits, -⟩ := (glob_cons hstar).mp hglob
  obtain ⟨d, t', rfl, rfl, rfl⟩ := List.map_eq_cons_iff.mp hcons
  have hd := ht d List.mem_cons_self
  rcases hfits with rfl | rfl
  · exact hb (by decide)
  · rw [asciiByte_toNat hd] at hb
    exact hb hd

theorem not_glob_high_char {c : Char} (hc : ¬ c.toNat < 128) {p t : List Char}
    (ht : ∀ c ∈ t, c.toNat < 128) : ¬ Glob '*' '?' (c :: p) t := by
  have hstar : c ≠ '*' := by
    rintro rfl
    exact hc (by decide)
  intro hglob
  obtain ⟨d, t', rfl, hfits, -⟩ := (glob_cons hstar).mp hglob
  rcases hfits with rfl | rfl
  · exact hc (by decide)
  · exact hc (ht c List.mem_cons_self)

/-- Against ASCII text the bytes of a pattern have the language of its characters. -/
theorem glob_asciiByte {p t : List Char} (ht : ∀ c ∈ t, c.toNat < 128) :
    Glob starByte anyByte (p.flatMap String.utf8EncodeChar) (t.map asciiByte) ↔
      Glob '*' '?' p t := by
  induction p generalizing t with
  | nil => rw [List.flatMap_nil, glob_nil, glob_nil, List.map_eq_nil_iff]
  | cons c p ih =>
    rw [List.flatMap_cons]
    -- a pattern letter of several bytes meets nothing on either side
    by_cases hc : c.toNat < 128
    · rw [utf8EncodeChar_ascii hc, List.singleton_append]
      by_cases hstar : c = '*'
      · subst hstar
        rw [show asciiByte '*' = starByte from rfl, glob_star (by decide), glob_star (by decide)]
        constructor
        · rintro ⟨u, v, happend, rest⟩
          obtain ⟨u', v', rfl, rfl, rfl⟩ := List.map_eq_append_iff.mp happend
          exact ⟨u', v', rfl, (ih fun d hd => ht d (List.mem_append_right _ hd)).mp rest⟩
        · rintro ⟨u, v, rfl, rest⟩
          refine ⟨u.map asciiByte, v.map asciiByte, List.map_append, ?_⟩
          exact (ih fun d hd => ht d (List.mem_append_right _ hd)).mpr rest
      · have hbyte : asciiByte c ≠ starByte := fun h => hstar ((asciiByte_inj hc (by decide)).mp h)
        have hfits (d : Char) (hd : d.toNat < 128) :
            Fits anyByte (asciiByte c) (asciiByte d) ↔ Fits '?' c d :=
          or_congr (asciiByte_inj (d := '?') hc (by decide)) (asciiByte_inj hc hd)
        rw [glob_cons hbyte, glob_cons hstar]
        constructor
        · rintro ⟨b, v, hcons, hf, rest⟩
          obtain ⟨d, t', rfl, rfl, rfl⟩ := List.map_eq_cons_iff.mp hcons
          refine ⟨d, t', rfl, (hfits d (ht d List.mem_cons_self)).mp hf, ?_⟩
          exact (ih fun d' hd' => ht d' (List.mem_cons_of_mem _ hd')).mp rest
        · rintro ⟨d, t', rfl, hf, rest⟩
          have hd := (hfits d (ht d List.mem_cons_self)).mpr hf
          refine ⟨asciiByte d, t'.map asciiByte, rfl, hd, ?_⟩
          exact (ih fun d' hd' => ht d' (List.mem_cons_of_mem _ hd')).mpr rest
    · obtain ⟨b, bs, hbytes, hb⟩ := utf8EncodeChar_high hc
      rw [hbytes, List.cons_append]
      exact iff_of_false (not_glob_high_byte hb ht) (not_glob_high_char hc ht)

theorem asBytes_ascii {t : String} (ht : ∀ c ∈ t.toList, c.toNat < 128) :
    asBytes t = t.toList.map asciiByte := by
  rw [asBytes_eq, List.map_eq_flatMap]
  exact List.flatMap_congr fun c hc => utf8EncodeChar_ascii (ht c hc)

/-- On ASCII text without a star the matcher decides the language of the pattern,
read character by character. -/
theorem matchesPattern_iff_glob {p t : String} (ht : ∀ c ∈ t.toList, c.toNat < 128)
    (hstar : '*' ∉ t.toList) :
    matchesPattern p t = true ↔ Glob '*' '?' p.toList t.toList := by
  by_cases hp : p = "*"
  · subst hp
    have hall : Glob '*' '?' ['*'] (t.toList ++ []) := .star t.toList .nil
    simpa using hall
  · have hfree : starByte ∉ asBytes t := fun h => hstar ((starByte_mem t).mp h)
    rw [matchesPattern, if_neg hp, simpleMatch_iff (by decide) hfree, asBytes_eq p,
      asBytes_ascii ht, glob_asciiByte ht]

end GreenticEvents
