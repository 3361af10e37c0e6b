import Mathlib.Data.List.Forall2
import Mathlib.Data.List.Infix

/-!
# Glob languages and last-star backtracking

`Glob star any p` is the language of the pattern `p`: `star` stands for any
string and `any` for any one letter.  `LiteralGlob` is what is left of it when a
star that meets a `star` of the text is read as that letter.  The lemmas after it
are what a matcher needs that remembers only its last star: a stretch `w` of
pattern letters matched letter by letter against `u` never has to be given up for
an earlier star.
-/

namespace GreenticEvents.Data

variable {α : Type}

/-- The text can be cut into one piece for each letter of the pattern. -/
inductive Glob (star any : α) : List α → List α → Prop
  | nil : Glob star any [] []
  | star (u : List α) {p t : List α} (rest : Glob star any p t) : Glob star any (star :: p) (u ++ t)
  | any (c : α) {p t : List α} (rest : Glob star any p t) : Glob star any (any :: p) (c :: t)
  | letter {c : α} (hs : c ≠ star) (ha : c ≠ any) {p t : List α} (rest : Glob star any p t) :
      Glob star any (c :: p) (c :: t)

/-- The pattern letter `x` takes the one letter `c` of the text. -/
def Fits (any x c : α) : Prop := x = any ∨ x = c

variable {star any : α}

theorem glob_nil {t : List α} : Glob star any [] t ↔ t = [] := by
  constructor
  · intro h
    cases h
    rfl
  · rintro rfl
    exact .nil

theorem glob_star (hne : star ≠ any) {p t : List α} :
    Glob star any (star :: p) t ↔ ∃ u v, t = u ++ v ∧ Glob star any p v := by
  constructor
  · intro h
    cases h with
    | star u rest => exact ⟨u, _, rfl, rest⟩
    | any c rest => exact absurd rfl hne
    | letter hs ha rest => exact absurd rfl hs
  · rintro ⟨u, v, rfl, rest⟩
    exact .star u rest

theorem glob_cons {x : α} (hx : x ≠ star) {p t : List α} :
    Glob star any (x :: p) t ↔ ∃ c v, t = c :: v ∧ Fits any x c ∧ Glob star any p v := by
  constructor
  · intro h
    cases h with
    | star u rest => exact absurd rfl hx
    | any c rest => exact ⟨c, _, rfl, .inl rfl, rest⟩
    | letter hs ha rest => exact ⟨x, _, rfl, .inr rfl, rest⟩
  · rintro ⟨c, v, rfl, rfl | rfl, rest⟩
    · exact .any c rest
    · by_cases ha : x = any
      · subst ha
        exact .any x rest
      · exact .letter hx ha rest

/-- A pattern letter always matches a letter it fits, even a `star` in the text. -/
theorem Glob.fits {x c : α} (hf : Fits any x c) {p t : List α} (rest : Glob star any p t) :
    Glob star any (x :: p) (c :: t) := by
  by_cases hx : x = star
  · subst hx
    exact .star [c] rest
  · exact (glob_cons hx).mpr ⟨c, t, rfl, hf, rest⟩

/-- A letter that is no wildcard is there in the text. -/
theorem Glob.mem {c : α} (hs : c ≠ star) (ha : c ≠ any) {p t : List α} (h : Glob star any p t)
    (hc : c ∈ p) : c ∈ t := by
  induction h with
  | nil => exact hc
  | star u _ ih =>
    exact List.mem_append_right u (ih ((List.mem_cons.mp hc).resolve_left hs))
  | any x _ ih => exact List.mem_cons_of_mem x (ih ((List.mem_cons.mp hc).resolve_left ha))
  | letter _ _ _ ih =>
    rcases List.mem_cons.mp hc with rfl | hc
    · exact List.mem_cons_self
    · exact List.mem_cons_of_mem _ (ih hc)

/-- As many `any`s as a text has letters fit it. -/
theorem fits_replicate_any (t : List α) : List.Forall₂ (Fits any) (.replicate t.length any) t := by
  induction t with
  | nil => exact .nil
  | cons c t ih => exact .cons (.inl rfl) ih

theorem Glob.prepend {w u p t : List α} (hwu : List.Forall₂ (Fits any) w u)
    (h : Glob star any p t) : Glob star any (w ++ p) (u ++ t) := by
  induction hwu with
  | nil => exact h
  | cons hf _ ih => exact ih.fits hf

theorem glob_of_fits {w u : List α} (hwu : List.Forall₂ (Fits any) w u) : Glob star any w u := by
  have h : Glob star any (w ++ []) (u ++ []) := .prepend hwu .nil
  rwa [List.append_nil, List.append_nil] at h

/-- A pattern without wildcards is matched by itself alone. -/
theorem glob_literal {p t : List α} (hs : star ∉ p) (ha : any ∉ p) :
    Glob star any p t ↔ t = p := by
  induction p generalizing t with
  | nil => exact glob_nil
  | cons x p ih =>
    simp only [List.mem_cons, not_or] at hs ha
    rw [glob_cons (Ne.symm hs.1)]
    constructor
    · rintro ⟨c, v, rfl, rfl | rfl, hp⟩
      · exact absurd rfl ha.1
      · rw [(ih hs.2 ha.2).mp hp]
    · rintro rfl
      exact ⟨x, p, rfl, .inr rfl, (ih hs.2 ha.2).mpr rfl⟩

/-- As `Glob`, but where the text has a `star` a star of the pattern stands for that one
letter only. -/
inductive LiteralGlob (star any : α) : List α → List α → Prop
  | nil : LiteralGlob star any [] []
  | star {u p t : List α} (hu : (u ++ t).head? ≠ some star) (rest : LiteralGlob star any p t) :
      LiteralGlob star any (star :: p) (u ++ t)
  | fits {x c : α} (hf : Fits any x c) {p t : List α} (rest : LiteralGlob star any p t) :
      LiteralGlob star any (x :: p) (c :: t)

theorem LiteralGlob.glob {p t : List α} (h : LiteralGlob star any p t) : Glob star any p t := by
  induction h with
  | nil => exact .nil
  | star _ _ ih => exact .star _ ih
  | fits hf _ ih => exact ih.fits hf

theorem Glob.literalGlob {p t : List α} (h : Glob star any p t) (ht : star ∉ t) :
    LiteralGlob star any p t := by
  induction h with
  | nil => exact .nil
  | star u _ ih =>
    refine .star (fun hhead => ht (List.mem_of_head? hhead)) (ih fun hmem => ?_)
    exact ht (List.mem_append_right u hmem)
  | any c _ ih => exact .fits (.inl rfl) (ih (mt (List.mem_cons_of_mem c) ht))
  | letter _ _ _ ih => exact .fits (.inr rfl) (ih (mt (List.mem_cons_of_mem _) ht))

theorem Glob.literalGlob_of_plain {p t : List α} (h : Glob star any p t) (hp : star ∉ p) :
    LiteralGlob star any p t := by
  induction h with
  | nil => exact .nil
  | star => exact absurd List.mem_cons_self hp
  | any c _ ih => exact .fits (.inl rfl) (ih (mt (List.mem_cons_of_mem _) hp))
  | letter _ _ _ ih => exact .fits (.inr rfl) (ih (mt (List.mem_cons_of_mem _) hp))

/-- Without a star the pattern is as long as the text. -/
theorem LiteralGlob.length_eq {p t : List α} (h : LiteralGlob star any p t) (hp : star ∉ p) :
    t.length = p.length := by
  induction h with
  | nil => rfl
  | star => exact absurd List.mem_cons_self hp
  | fits _ _ ih => exact congrArg (· + 1) (ih (mt (List.mem_cons_of_mem _) hp))

theorem literalGlob_self (p : List α) : LiteralGlob star any p p := by
  induction p with
  | nil => exact .nil
  | cons x p ih => exact .fits (.inr rfl) ih

theorem literalGlob_nil {t : List α} : LiteralGlob star any [] t ↔ t = [] := by
  constructor
  · intro h
    cases h
    rfl
  · rintro rfl
    exact .nil

/-- Dropping a pattern letter drops what it stands for. -/
theorem LiteralGlob.tail {x : α} {p t : List α} (h : LiteralGlob star any (x :: p) t) :
    ∃ v, v <:+ t ∧ LiteralGlob star any p v := by
  cases h with
  | star _ rest => exact ⟨_, List.suffix_append _ _, rest⟩
  | fits _ rest => exact ⟨_, List.suffix_cons _ _, rest⟩

/-- The pattern matches the rest of the text from some place on. -/
def Ahead (star any : α) (p t : List α) : Prop := ∃ v, v <:+ t ∧ LiteralGlob star any p v

theorem ahead_cons {p t : List α} {c : α} :
    Ahead star any p (c :: t) ↔ LiteralGlob star any p (c :: t) ∨ Ahead star any p t := by
  constructor
  · rintro ⟨v, hv, h⟩
    rcases List.suffix_cons_iff.mp hv with rfl | hv
    · exact .inl h
    · exact .inr ⟨v, hv, h⟩
  · rintro (h | ⟨v, hv, h⟩)
    · exact ⟨_, List.suffix_rfl, h⟩
    · exact ⟨v, hv.trans (List.suffix_cons c t), h⟩

theorem Ahead.tail {x : α} {p t : List α} (h : Ahead star any (x :: p) t) : Ahead star any p t := by
  obtain ⟨v, hv, h⟩ := h
  obtain ⟨v', hv', h⟩ := h.tail
  exact ⟨v', hv'.trans hv, h⟩

section Letters

variable (hne : star ≠ any)

include hne

theorem literalGlob_fits {x c : α} (hf : Fits any x c) {p t : List α} :
    LiteralGlob star any (x :: p) (c :: t) ↔ LiteralGlob star any p t := by
  constructor
  · generalize hv : c :: t = v
    intro h
    cases h with
    | star hu rest =>
      obtain rfl := hf.resolve_left hne
      rw [← hv] at hu
      exact absurd rfl hu
    | fits _ rest =>
      cases hv
      exact rest
  · exact .fits hf

omit hne in
theorem literalGlob_star {p t : List α} (ht : t.head? ≠ some star) :
    LiteralGlob star any (star :: p) t ↔ Ahead star any p t := by
  constructor
  · exact LiteralGlob.tail
  · rintro ⟨v, ⟨u, rfl⟩, h⟩
    exact .star ht h

omit hne in
theorem not_literalGlob {x c : α} (hs : x ≠ star) (hf : ¬ Fits any x c) {p t : List α} :
    ¬ LiteralGlob star any (x :: p) (c :: t) := by
  generalize hv : c :: t = v
  intro h
  cases h with
  | star => exact hs rfl
  | fits hfits =>
    cases hv
    exact hf hfits

omit hne in
theorem literalGlob_skip_stars {p t : List α} (ht : t.head? ≠ some star)
    (h : LiteralGlob star any p t) (k : ℕ) : LiteralGlob star any (.replicate k star ++ p) t := by
  induction k with
  | zero => exact h
  | succ k ih => exact (literalGlob_star ht).mpr ⟨t, List.suffix_rfl, ih⟩

omit hne in
/-- A chunk of plain letters stands for itself. -/
theorem literalGlob_chunk {w p t : List α} (hs : star ∉ w) (ha : any ∉ w) :
    LiteralGlob star any (w ++ p) t ↔ ∃ v, t = w ++ v ∧ LiteralGlob star any p v := by
  induction w generalizing t with
  | nil => simp
  | cons x w ih =>
    simp only [List.mem_cons, not_or] at hs ha
    constructor
    · intro h
      cases h with
      | star => exact absurd rfl hs.1
      | fits hf rest =>
        obtain rfl := hf.resolve_left (Ne.symm ha.1)
        obtain ⟨v, rfl, h⟩ := (ih hs.2 ha.2).mp rest
        exact ⟨v, rfl, h⟩
    · rintro ⟨v, rfl, h⟩
      exact .fits (.inr rfl) ((ih hs.2 ha.2).mpr ⟨v, rfl, h⟩)

/-- Where the text ends only stars may be left of the pattern. -/
theorem literalGlob_end {p : List α} : LiteralGlob star any p [] ↔ ∀ x ∈ p, x = star := by
  induction p with
  | nil => simp [literalGlob_nil]
  | cons x p ih =>
    rw [List.forall_mem_cons, ← ih]
    constructor
    · generalize hv : ([] : List α) = v
      intro h
      cases h with
      | star _ rest =>
        obtain ⟨rfl, rfl⟩ := List.append_eq_nil_iff.mp hv.symm
        exact ⟨rfl, rest⟩
      | fits => cases hv
    · rintro ⟨rfl, h⟩
      exact (literalGlob_star (by simp)).mpr ⟨[], List.suffix_rfl, h⟩

theorem literalGlob_replicate_any {n : ℕ} {t : List α} :
    LiteralGlob star any (.replicate n any) t ↔ t.length = n := by
  induction n generalizing t with
  | zero => exact literalGlob_nil.trans List.length_eq_zero_iff.symm
  | succ n ih =>
    rw [List.replicate_succ]
    cases t with
    | nil =>
      rw [literalGlob_end hne]
      exact iff_of_false (fun hall => hne (hall any List.mem_cons_self).symm) (by simp)
    | cons c t => rw [literalGlob_fits hne (.inl rfl), ih, List.length_cons, Nat.succ_inj]

section Matched

variable {w u p t : List α} (hwu : List.Forall₂ (Fits any) w u)

include hwu

theorem literalGlob_matched :
    LiteralGlob star any (w ++ p) (u ++ t) ↔ LiteralGlob star any p t := by
  induction hwu with
  | nil => exact Iff.rfl
  | cons hf _ ih => exact (literalGlob_fits hne hf).trans ih

/-- Wherever else the pattern letters `w` match, what follows them is no earlier than
after `u`. -/
theorem Ahead.matched (h : Ahead star any (w ++ p) (u ++ t)) : Ahead star any p t := by
  induction hwu with
  | nil => exact h
  | cons hf _ ih =>
    rcases ahead_cons.mp h with h | h
    · exact ih ⟨_, List.suffix_rfl, (literalGlob_fits hne hf).mp h⟩
    · exact ih h.tail

/-- Once a later star is reached, the earlier one need not be revisited. -/
theorem ahead_later_star (ht : t.head? ≠ some star) :
    Ahead star any (w ++ star :: p) (u ++ t) ↔ Ahead star any p t := by
  constructor
  · intro h
    exact (h.matched hne hwu).tail
  · intro h
    exact ⟨_, List.suffix_rfl, (literalGlob_matched hne hwu).mpr ((literalGlob_star ht).mpr h)⟩

theorem ahead_end : Ahead star any (w ++ p) u ↔ ∀ x ∈ p, x = star := by
  rw [← literalGlob_end hne]
  constructor
  · intro h
    rw [← List.append_nil u] at h
    obtain ⟨v, hv, h⟩ := h.matched hne hwu
    rwa [List.suffix_nil.mp hv] at h
  · intro h
    have hall := (literalGlob_matched hne hwu).mpr h
    rw [List.append_nil] at hall
    exact ⟨u, List.suffix_rfl, hall⟩

end Matched

end Letters

end GreenticEvents.Data
