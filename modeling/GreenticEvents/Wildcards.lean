import GreenticEvents.Pattern

/-!
# Bytes and characters

The matcher runs on UTF-8 bytes.  Literals and stars stay at character boundaries
there, but a question mark takes one byte.
-/

namespace GreenticEvents
open Data

def bytes (l : List Char) : List UInt8 := l.flatMap String.utf8EncodeChar

def IsContinuation (b : UInt8) : Prop := 128 ≤ b.toNat ∧ b.toNat < 192

/-- An encoding starts with a byte of its own and goes on with continuation bytes. -/
theorem utf8EncodeChar_shape (c : Char) :
    ∃ b bs, String.utf8EncodeChar c = b :: bs ∧ ¬ IsContinuation b ∧
      ∀ x ∈ bs, IsContinuation x := by
  have hofNat (n : ℕ) : (UInt8.ofNat n).toNat = n % 256 := UInt8.toNat_ofNat'
  simp only [String.utf8EncodeChar]
  split_ifs
  all_goals
    refine ⟨_, _, rfl, ?_, ?_⟩
    · simp only [IsContinuation, hofNat]
      omega
    · simp only [List.mem_cons, List.not_mem_nil, or_false, false_imp_iff, implies_true,
        forall_eq_or_imp, forall_eq, IsContinuation, hofNat] <;> omega

theorem utf8EncodeChar_length {c : Char} :
    (String.utf8EncodeChar c).length = 1 ↔ c.toNat < 128 := by
  rw [String.length_utf8EncodeChar, Char.utf8Size_eq_one_iff]
  exact Nat.lt_succ_iff.symm

/-- What comes later in an encoding is a continuation byte, and not of ASCII. -/
theorem utf8EncodeChar_later {c : Char} {u ys : List UInt8} {y : UInt8} (hu : u ≠ [])
    (h : String.utf8EncodeChar c = u ++ y :: ys) : IsContinuation y ∧ ¬ c.toNat < 128 := by
  obtain ⟨b, bs, hbytes, -, hcont⟩ := utf8EncodeChar_shape c
  obtain ⟨b', u', rfl⟩ := List.exists_cons_of_ne_nil hu
  constructor
  · rw [hbytes, List.cons_append, List.cons.injEq] at h
    exact hcont y (h.2 ▸ List.mem_append_right u' List.mem_cons_self)
  · rw [← utf8EncodeChar_length, h]
    simp

/-- Where two encodings come first in one byte string, they are of one character. -/
theorem utf8EncodeChar_append_inj {c d : Char} {t t' : List UInt8}
    (h : String.utf8EncodeChar c ++ t = String.utf8EncodeChar d ++ t') : c = d ∧ t = t' := by
  have hbytes := congrArg List.toByteArray h
  rw [List.toByteArray_append, List.toByteArray_append] at hbytes
  have hdecode := congrArg (ByteArray.utf8DecodeChar? · 0) hbytes
  simp only [ByteArray.utf8DecodeChar?_utf8EncodeChar_append, Option.some_inj] at hdecode
  subst hdecode
  exact ⟨rfl, List.append_cancel_left h⟩

theorem bytes_eq_nil {l : List Char} : bytes l = [] ↔ l = [] := by
  cases l <;> simp [bytes]

/-- A rest of a concatenation starts at the beginning of a block or inside one. -/
theorem suffix_flatMap {α β : Type} {f : α → List β} {l : List α} {v : List β}
    (h : v <:+ l.flatMap f) :
    (∃ l', l' <:+ l ∧ v = l'.flatMap f) ∨
      ∃ a l' u x, a :: l' <:+ l ∧ f a = u ++ x ∧ u ≠ [] ∧ x ≠ [] ∧ v = x ++ l'.flatMap f := by
  induction l with
  | nil => exact .inl ⟨[], List.suffix_rfl, List.suffix_nil.mp h⟩
  | cons a l ih =>
    obtain ⟨u, hu⟩ := h
    rw [List.flatMap_cons] at hu
    rcases List.append_eq_append_iff.mp hu with ⟨x, hx, rfl⟩ | ⟨x, rfl, hx⟩
    · by_cases hu : u = []
      · subst hu
        refine .inl ⟨a :: l, List.suffix_rfl, ?_⟩
        rw [List.flatMap_cons, hx, List.nil_append]
      · by_cases hx0 : x = []
        · subst hx0
          exact .inl ⟨l, List.suffix_cons a l, rfl⟩
        · exact .inr ⟨a, l, u, x, List.suffix_rfl, hx, hu, hx0, rfl⟩
    · rcases ih ⟨x, hx.symm⟩ with ⟨l', hl, hv⟩ | ⟨b, l', u', x', hl, hrest⟩
      · exact .inl ⟨l', hl.trans (List.suffix_cons a l), hv⟩
      · exact .inr ⟨b, l', u', x', hl.trans (List.suffix_cons a l), hrest⟩

theorem utf8EncodeChar_plain {c : Char} (hs : c ≠ '*') (ha : c ≠ '?') :
    starByte ∉ String.utf8EncodeChar c ∧ anyByte ∉ String.utf8EncodeChar c := by
  have hplain {b : UInt8} (hb : b.toNat < 128) {d : Char} (hd : d.val.toNat = b.toNat)
      (hc : c ≠ d) : b ∉ String.utf8EncodeChar c := fun hmem => hc <|
    Char.ext (UInt32.toNat_inj.mp (((mem_utf8EncodeChar hb c).mp hmem).trans hd.symm))
  exact ⟨hplain (by decide) (by decide) hs, hplain (by decide) (by decide) ha⟩

theorem bytes_head_star {t : List Char} :
    (bytes t).head? = some starByte ↔ t.head? = some '*' := by
  cases t with
  | nil => simp [bytes]
  | cons c t =>
    obtain ⟨b, bs, hbytes, -, -⟩ := utf8EncodeChar_shape c
    have hhead : (bytes (c :: t)).head? = some b := by simp [bytes, hbytes]
    rw [hhead, List.head?_cons, Option.some_inj, Option.some_inj]
    constructor
    · rintro rfl
      by_contra hc
      have hmem : starByte ∈ String.utf8EncodeChar c := hbytes ▸ List.mem_cons_self
      exact hc (Char.ext (UInt32.toNat_inj.mp ((mem_utf8EncodeChar (by decide) c).mp hmem)))
    · rintro rfl
      cases hbytes
      rfl

theorem starByte_ne_anyByte : starByte ≠ anyByte := by decide

theorem star_ne_any : '*' ≠ '?' := by decide

/-- The pattern has no question mark, or no character takes several bytes. -/
def ByteSafe (p t : List Char) : Prop := '?' ∉ p ∨ ∀ c ∈ t, c.toNat < 128

theorem ByteSafe.tail {c : Char} {p t : List Char} (h : ByteSafe (c :: p) t) : ByteSafe p t :=
  h.imp_left (mt (List.mem_cons_of_mem c))

theorem ByteSafe.suffix {p t t' : List Char} (h : ByteSafe p t) (ht : t' <:+ t) : ByteSafe p t' :=
  h.imp_right fun hascii c hc => hascii c (ht.subset hc)

/-- Both levels agree on the whole text, and on whether a rest of it matches. -/
structure LevelsAgree (p t : List Char) : Prop where
  whole : LiteralGlob starByte anyByte (bytes p) (bytes t) ↔ LiteralGlob '*' '?' p t
  ahead : Ahead starByte anyByte (bytes p) (bytes t) ↔ Ahead '*' '?' p t

theorem bytes_suffix {t t' : List Char} (h : t' <:+ t) : bytes t' <:+ bytes t := by
  obtain ⟨u, rfl⟩ := h
  exact ⟨bytes u, (List.flatMap_append ..).symm⟩

theorem whole_star {p t : List Char} (h : ∀ t', t' <:+ t → LevelsAgree p t') :
    LiteralGlob starByte anyByte (bytes ('*' :: p)) (bytes t) ↔
      LiteralGlob '*' '?' ('*' :: p) t := by
  show LiteralGlob starByte anyByte (starByte :: bytes p) (bytes t) ↔ _
  -- a star that meets a star is a letter, and else leaves some rest of the text
  by_cases ht : t.head? = some '*'
  · obtain ⟨t', rfl⟩ := List.head?_eq_some_iff.mp ht
    show LiteralGlob starByte anyByte (starByte :: bytes p) (starByte :: bytes t') ↔ _
    rw [literalGlob_fits starByte_ne_anyByte (.inr rfl), literalGlob_fits star_ne_any (.inr rfl)]
    exact (h t' (List.suffix_cons ..)).whole
  · rw [literalGlob_star (mt bytes_head_star.mp ht), literalGlob_star ht]
    exact (h t List.suffix_rfl).ahead

/-- Against ASCII a question mark takes one byte, which is one character. -/
theorem whole_any {p t : List Char} (ht : ∀ c ∈ t, c.toNat < 128)
    (h : ∀ t', t' <:+ t → LevelsAgree p t') :
    LiteralGlob starByte anyByte (bytes ('?' :: p)) (bytes t) ↔
      LiteralGlob '*' '?' ('?' :: p) t := by
  show LiteralGlob starByte anyByte (anyByte :: bytes p) (bytes t) ↔ _
  cases t with
  | nil =>
    show LiteralGlob starByte anyByte _ [] ↔ _
    rw [literalGlob_end starByte_ne_anyByte, literalGlob_end star_ne_any]
    exact iff_of_false (fun hall => absurd (hall _ List.mem_cons_self) (by decide))
      fun hall => absurd (hall _ List.mem_cons_self) (by decide)
  | cons c t =>
    have hc : bytes (c :: t) = asciiByte c :: bytes t := by
      rw [bytes, List.flatMap_cons, utf8EncodeChar_ascii (ht c List.mem_cons_self)]
      rfl
    rw [hc, literalGlob_fits starByte_ne_anyByte (.inl rfl),
      literalGlob_fits star_ne_any (.inl rfl)]
    exact (h t (List.suffix_cons ..)).whole

/-- A plain character is matched by its own encoding only. -/
theorem whole_plain {c : Char} (hs : c ≠ '*') (ha : c ≠ '?') {p t : List Char}
    (h : ∀ t', t' <:+ t → LevelsAgree p t') :
    LiteralGlob starByte anyByte (bytes (c :: p)) (bytes t) ↔ LiteralGlob '*' '?' (c :: p) t := by
  obtain ⟨hstar, hany⟩ := utf8EncodeChar_plain hs ha
  have hchars : LiteralGlob '*' '?' (c :: p) t ↔ ∃ v, t = [c] ++ v ∧ LiteralGlob '*' '?' p v :=
    literalGlob_chunk (mt List.mem_singleton.mp (Ne.symm hs))
      (mt List.mem_singleton.mp (Ne.symm ha))
  rw [hchars, bytes, List.flatMap_cons, literalGlob_chunk hstar hany]
  constructor
  · rintro ⟨v, hv, hglob⟩
    cases t with
    | nil =>
      have hnil := List.append_eq_nil_iff.mp (show [] = _ from hv).symm
      exact absurd hnil.1 String.utf8EncodeChar_ne_nil
    | cons d t =>
      obtain ⟨rfl, rfl⟩ := utf8EncodeChar_append_inj (show _ ++ bytes t = _ from hv)
      exact ⟨t, rfl, (h t (List.suffix_cons ..)).whole.mp hglob⟩
  · rintro ⟨v, rfl, hglob⟩
    exact ⟨bytes v, rfl, (h v (List.suffix_cons ..)).whole.mpr hglob⟩

/-- A plain character does not start with a continuation byte. -/
theorem not_bytes_continuation {c : Char} (hs : c ≠ '*') (ha : c ≠ '?') {p : List Char} {y : UInt8}
    (hy : IsContinuation y) {t : List UInt8} :
    ¬ LiteralGlob starByte anyByte (bytes (c :: p)) (y :: t) := by
  obtain ⟨hstar, hany⟩ := utf8EncodeChar_plain hs ha
  obtain ⟨b, bs, hbytes, hstart, -⟩ := utf8EncodeChar_shape c
  rw [bytes, List.flatMap_cons, literalGlob_chunk hstar hany, hbytes]
  rintro ⟨v, hv, -⟩
  rw [List.cons_append, List.cons.injEq] at hv
  exact hstart (hv.1 ▸ hy)

/-- A rest of the bytes that matches starts at a character, unless a star takes the rest of
the character that it starts in. -/
theorem ahead_bytes {c : Char} {p t : List Char} (hsafe : ByteSafe (c :: p) t)
    (hwhole : ∀ t', t' <:+ t → (LiteralGlob starByte anyByte (bytes (c :: p)) (bytes t') ↔
      LiteralGlob '*' '?' (c :: p) t'))
    (h : ∀ t', t' <:+ t → LevelsAgree p t') :
    Ahead starByte anyByte (bytes (c :: p)) (bytes t) ↔ Ahead '*' '?' (c :: p) t := by
  constructor
  · rintro ⟨v, hv, hglob⟩
    -- the rest begins at a character, or at a later byte `y` of the character `d`
    rcases suffix_flatMap hv with ⟨t', ht, rfl⟩ | ⟨d, t', u, x, ht, hd, hu, hx, rfl⟩
    · exact ⟨t', ht, (hwhole t' ht).mp hglob⟩
    · obtain ⟨y, ys, rfl⟩ := List.exists_cons_of_ne_nil hx
      obtain ⟨hy, hwide⟩ := utf8EncodeChar_later hu hd
      have hany : '?' ∉ c :: p :=
        hsafe.resolve_right fun hascii => hwide (hascii d (ht.subset List.mem_cons_self))
      by_cases hc : c = '*'
      · subst hc
        -- the star may as well begin before `d`
        have htail : Ahead starByte anyByte (bytes p) (bytes (d :: t')) := by
          obtain ⟨v, hv, hrest⟩ := LiteralGlob.tail (p := bytes p) hglob
          refine ⟨v, hv.trans ⟨u, ?_⟩, hrest⟩
          rw [bytes, List.flatMap_cons, hd]
          simp
        have hstar : (d :: t').head? ≠ some '*' := by
          rintro h
          cases h
          exact hwide (by decide)
        exact ⟨d :: t', ht, (literalGlob_star hstar).mpr ((h _ ht).ahead.mp htail)⟩
      · have ha : c ≠ '?' := fun he => hany (he ▸ List.mem_cons_self)
        exact absurd hglob (not_bytes_continuation hc ha hy)
  · rintro ⟨t', ht, hglob⟩
    exact ⟨bytes t', bytes_suffix ht, (hwhole t' ht).mpr hglob⟩

theorem levelsAgree {p t : List Char} (h : ByteSafe p t) : LevelsAgree p t := by
  induction p generalizing t with
  | nil =>
    constructor
    · show LiteralGlob starByte anyByte [] (bytes t) ↔ _
      rw [literalGlob_nil, literalGlob_nil, bytes_eq_nil]
    · exact iff_of_true ⟨[], List.nil_suffix, .nil⟩ ⟨[], List.nil_suffix, .nil⟩
  | cons c p ih =>
    have hrest (t' : List Char) (ht : t' <:+ t) : LevelsAgree p t' := ih (h.suffix ht).tail
    have hwhole (t' : List Char) (ht : t' <:+ t) :
        LiteralGlob starByte anyByte (bytes (c :: p)) (bytes t') ↔
          LiteralGlob '*' '?' (c :: p) t' := by
      have hrest' (t'' : List Char) (ht' : t'' <:+ t') := hrest t'' (ht'.trans ht)
      by_cases hs : c = '*'
      · subst hs
        exact whole_star hrest'
      · by_cases ha : c = '?'
        · subst ha
          have hascii := (h.suffix ht).resolve_left fun hp => hp List.mem_cons_self
          exact whole_any hascii hrest'
        · exact whole_plain hs ha hrest'
    exact ⟨hwhole t List.suffix_rfl, ahead_bytes h hwhole hrest⟩

theorem simpleMatch_bytes {p v : String} :
    simpleMatch starByte anyByte (asBytes p) (asBytes v) = true ↔
      LiteralGlob starByte anyByte (bytes p.toList) (bytes v.toList) := by
  rw [simpleMatch_literal starByte_ne_anyByte, asBytes_eq, asBytes_eq]
  exact Iff.rfl

theorem simpleMatch_ascii {p v : String} (hv : ∀ c ∈ v.toList, c.toNat < 128) :
    simpleMatch starByte anyByte (asBytes p) (asBytes v) = true ↔
      LiteralGlob '*' '?' p.toList v.toList :=
  simpleMatch_bytes.trans (levelsAgree (.inr hv)).whole

theorem glob_star_any (t : List Char) : Glob '*' '?' "*".toList t := by
  have h : Glob '*' '?' ['*'] (t ++ []) := .star t .nil
  rwa [List.append_nil] at h

/-- A lone star read as a letter is no wildcard. -/
theorem literalGlob_lone_star {t : List Char} :
    LiteralGlob '*' '?' "*".toList t ↔ t.head? ≠ some '*' ∨ t = ['*'] := by
  show LiteralGlob '*' '?' ['*'] t ↔ _
  by_cases ht : t.head? = some '*'
  · obtain ⟨t', rfl⟩ := List.head?_eq_some_iff.mp ht
    rw [literalGlob_fits star_ne_any (.inr rfl), literalGlob_nil]
    simp
  · rw [literalGlob_star ht]
    exact iff_of_true ⟨[], List.nil_suffix, .nil⟩ (.inl ht)

/-- The pattern itself with its question marks filled in. -/
def fillAny (p : List Char) : List Char := p.map fun c => if c = '?' then 'a' else c

theorem fits_fillAny (p : List Char) : List.Forall₂ (Fits '?') p (fillAny p) := by
  rw [fillAny, List.forall₂_map_right_iff, List.forall₂_same]
  intro c _
  by_cases hc : c = '?'
  · exact .inl hc
  · exact .inr (if_neg hc).symm

theorem ascii_fillAny {p : List Char} (h : ∀ c ∈ p, c.toNat < 128) :
    ∀ c ∈ fillAny p, c.toNat < 128 := by
  intro c hc
  obtain ⟨d, hd, rfl⟩ := List.mem_map.mp hc
  split_ifs
  · decide
  · exact h d hd

theorem exists_last {α : Type} {a : α} {l : List α} (h : a ∈ l) :
    ∃ pre post, l = pre ++ a :: post ∧ a ∉ post := by
  obtain ⟨post, pre, hl, hpost⟩ := List.eq_append_cons_of_mem (List.mem_reverse.mpr h)
  refine ⟨pre.reverse, post.reverse, ?_, mt List.mem_reverse.mp hpost⟩
  rw [← List.reverse_reverse l, hl]
  simp

def MatchesExactly (p v : String) : Prop :=
  matchesPattern p v = true ↔ Glob '*' '?' p.toList v.toList

theorem matchesExactly_iff {p v : String} (hv : ∀ c ∈ v.toList, c.toNat < 128) :
    MatchesExactly p v ↔
      p = "*" ∨ (Glob '*' '?' p.toList v.toList → LiteralGlob '*' '?' p.toList v.toList) := by
  unfold MatchesExactly
  by_cases hp : p = "*"
  · subst hp
    exact iff_of_true (iff_of_true (matchesPattern_star v) (glob_star_any _)) (.inl rfl)
  · rw [matchesPattern, if_neg hp, simpleMatch_ascii hv, or_iff_right hp]
    exact ⟨fun h => h.mpr, fun h => ⟨LiteralGlob.glob, h⟩⟩

/-- A star of the value is met by a star of the pattern, and one letter more is asked for. -/
theorem exactValue_iff {v : String} (hv : ∀ c ∈ v.toList, c.toNat < 128) :
    (∀ p, MatchesExactly p v) ↔ '*' ∉ v.toList := by
  constructor
  · intro hall hstar
    obtain ⟨pre, post, hv', -⟩ := exists_last hstar
    -- letters up to the last star of the value, then a star and one letter too many
    let p : List Char := .replicate pre.length '?' ++ '*' :: .replicate (post.length + 1) '?'
    have hpost : Glob '*' '?' (.replicate (post.length + 1) '?') ('*' :: post) :=
      glob_of_fits (fits_replicate_any ('*' :: post))
    have hglob : Glob '*' '?' p v.toList :=
      hv' ▸ Glob.prepend (fits_replicate_any pre) (.star [] hpost)
    have hno : ¬ LiteralGlob '*' '?' p v.toList := by
      rw [hv', literalGlob_matched star_ne_any (fits_replicate_any pre),
        literalGlob_fits star_ne_any (.inr rfl), literalGlob_replicate_any star_ne_any]
      omega
    have hexact := (matchesExactly_iff hv).mp (hall (.ofList p))
    rw [String.toList_ofList] at hexact
    refine hno (hexact.resolve_left (fun he => ?_) hglob)
    have hlength := congrArg List.length (String.toList_inj.mpr he)
    simp only [p, String.toList_ofList, List.length_append, List.length_cons,
      List.length_replicate] at hlength
    have hlone : "*".toList.length = 1 := rfl
    omega
  · intro hstar p
    exact (matchesExactly_iff hv).mpr (.inr fun h => h.literalGlob hstar)

/-- A pattern with a star meets a star with it, unless no ASCII value matches at all. -/
theorem exactPattern_iff {p : String} :
    (∀ v : String, (∀ c ∈ v.toList, c.toNat < 128) → MatchesExactly p v) ↔
      p = "*" ∨ '*' ∉ p.toList ∨ ∃ c ∈ p.toList, 128 ≤ c.toNat := by
  constructor
  · intro hall
    by_contra hne
    simp only [not_or, not_not, not_exists, not_and, not_le] at hne
    obtain ⟨hlone, hstar, hascii⟩ := hne
    obtain ⟨pre, post, hp, hpost⟩ := exists_last hstar
    rw [hp] at hascii
    have hpre := ascii_fillAny fun c hc => hascii c (List.mem_append_left _ hc)
    have hrest := ascii_fillAny fun c hc =>
      hascii c (List.mem_append_right _ (List.mem_cons_of_mem _ hc))
    -- a star more at the last star of the pattern, with a letter behind it
    let t : List Char := fillAny pre ++ '*' :: 'a' :: fillAny post
    have ht : ∀ c ∈ t, c.toNat < 128 := by
      intro c hc
      simp only [t, List.mem_append, List.mem_cons] at hc
      rcases hc with hc | rfl | rfl | hc
      · exact hpre c hc
      · decide
      · decide
      · exact hrest c hc
    have hglob : Glob '*' '?' p.toList t :=
      hp ▸ Glob.prepend (fits_fillAny pre) (.star ['*', 'a'] (glob_of_fits (fits_fillAny post)))
    have hno : ¬ LiteralGlob '*' '?' p.toList t := by
      rw [hp, literalGlob_matched star_ne_any (fits_fillAny pre),
        literalGlob_fits star_ne_any (.inr rfl)]
      intro h
      have hlength := h.length_eq hpost
      simp [fillAny] at hlength
    have hexact := hall (.ofList t) (by rwa [String.toList_ofList])
    rw [matchesExactly_iff (by rwa [String.toList_ofList]), String.toList_ofList] at hexact
    exact hno (hexact.resolve_left hlone hglob)
  · rintro hp v hv
    rw [matchesExactly_iff hv]
    rcases hp with hp | hp | ⟨c, hc, hwide⟩
    · exact .inl hp
    · exact .inr fun h => h.literalGlob_of_plain hp
    · refine .inr fun h => ?_
      have hmem : c ∈ v.toList := by
        apply h.mem _ _ hc
        · rintro rfl
          exact absurd hwide (by decide)
        · rintro rfl
          exact absurd hwide (by decide)
      exact absurd (hv c hmem) (Nat.not_lt.mpr hwide)

/-- On an ASCII value the matcher is exact for every pattern when the value has no star, and a
pattern is exact on every ASCII value when it has none; a value with a star, and a pattern with a
star that is not alone, each has a partner on which the matcher is wrong.  Pair by pair it is exact
where the value, if the pattern fits it at all, can be cut so that a star that begins at a star of
the value stands for that star alone.  The fast path agrees with the loop unless the value goes on
after a star at its start. -/
theorem matchesPattern_exact_iff {p v : String} (hv : ∀ c ∈ v.toList, c.toNat < 128) :
    (MatchesExactly p v ↔
      p = "*" ∨ (Glob '*' '?' p.toList v.toList → LiteralGlob '*' '?' p.toList v.toList)) ∧
    ((∀ p, MatchesExactly p v) ↔ '*' ∉ v.toList) ∧
    ((∀ v : String, (∀ c ∈ v.toList, c.toNat < 128) → MatchesExactly p v) ↔
      p = "*" ∨ '*' ∉ p.toList ∨ ∃ c ∈ p.toList, 128 ≤ c.toNat) ∧
    (simpleMatch starByte anyByte (asBytes "*") (asBytes v) = matchesPattern "*" v ↔
      v.toList.head? ≠ some '*' ∨ v = "*") := by
  refine ⟨matchesExactly_iff hv, exactValue_iff hv, exactPattern_iff, ?_⟩
  rw [matchesPattern_star, simpleMatch_ascii hv, literalGlob_lone_star, ← String.toList_inj]
  exact Iff.rfl

theorem matchesPattern_exact_iff_topic :
    (matchesPattern "topic.*" "topic.a" = true ↔
      Glob '*' '?' "topic.*".toList "topic.a".toList) ∧
    simpleMatch starByte anyByte (asBytes "*") (asBytes "topic.a") =
      matchesPattern "*" "topic.a" := by
  have hiff := matchesPattern_exact_iff (p := "topic.*") (v := "topic.a") (by simp)
  exact ⟨hiff.1.mpr (.inr fun h => h.literalGlob (by decide)), hiff.2.2.2.mpr (.inl (by decide))⟩

/-- The star of `a*c` is taken for the star of `a*bc`, and the loop gives up on `*` where
the fast path does not. -/
theorem star_taken_for_letter :
    (¬ ∀ p v : String, (∀ c ∈ v.toList, c.toNat < 128) →
      (matchesPattern p v = true ↔ Glob '*' '?' p.toList v.toList)) ∧
    ¬ ∀ v : String, (∀ c ∈ v.toList, c.toNat < 128) →
      simpleMatch starByte anyByte (asBytes "*") (asBytes v) = matchesPattern "*" v := by
  constructor
  · intro hall
    have hc : Glob '*' '?' ['c'] ['c'] := .letter (by decide) (by decide) .nil
    have hstar : Glob '*' '?' ['*', 'c'] ['*', 'b', 'c'] := .star ['*', 'b'] hc
    have hglob : Glob '*' '?' ['a', '*', 'c'] ['a', '*', 'b', 'c'] :=
      .letter (by decide) (by decide) hstar
    have hno : matchesPattern "a*c" "a*bc" = false := by decide
    rw [(hall "a*c" "a*bc" (by simp)).mpr hglob] at hno
    cases hno
  · intro hall
    exact absurd (hall "*a" (by simp)) (by decide)

/-- `simple_match` gives one answer on the bytes and on the characters. -/
def BytesMatchLikeChars (p v : String) : Prop :=
  simpleMatch starByte anyByte (asBytes p) (asBytes v) = simpleMatch '*' '?' p.toList v.toList

theorem bytesMatchLikeChars_iff {p v : String} :
    BytesMatchLikeChars p v ↔ (LiteralGlob starByte anyByte (bytes p.toList) (bytes v.toList) ↔
      LiteralGlob '*' '?' p.toList v.toList) := by
  rw [BytesMatchLikeChars, ← simpleMatch_bytes, ← simpleMatch_literal star_ne_any]
  exact Bool.eq_iff_iff

/-- Some character of several bytes makes the text longer in bytes. -/
theorem ascii_of_bytes_length {t : List Char} (h : (bytes t).length = t.length) :
    ∀ c ∈ t, c.toNat < 128 := by
  have hlen (c : Char) (t : List Char) :
      (bytes (c :: t)).length = (String.utf8EncodeChar c).length + (bytes t).length := by
    rw [bytes, List.flatMap_cons, List.length_append]
    rfl
  have hpos (c : Char) : 1 ≤ (String.utf8EncodeChar c).length :=
    List.length_pos_of_ne_nil String.utf8EncodeChar_ne_nil
  have hle (t : List Char) : t.length ≤ (bytes t).length := by
    induction t with
    | nil => exact Nat.zero_le _
    | cons c t ih =>
      have := hpos c
      rw [hlen, List.length_cons]
      omega
  induction t with
  | nil => simp
  | cons c t ih =>
    rw [hlen, List.length_cons] at h
    have hc := hpos c
    have ht := hle t
    rw [List.forall_mem_cons, ← utf8EncodeChar_length]
    exact ⟨by omega, ih (by omega)⟩

/-- As many question marks as the value has characters. -/
def anyPattern (v : String) : String := .ofList (.replicate v.toList.length '?')

theorem bytes_replicate_any (n : ℕ) : bytes (.replicate n '?') = .replicate n anyByte := by
  induction n with
  | zero => rfl
  | succ n ih =>
    rw [List.replicate_succ, List.replicate_succ, ← ih]
    rfl

theorem ascii_of_anyPattern {v : String} (h : BytesMatchLikeChars (anyPattern v) v) :
    ∀ c ∈ v.toList, c.toNat < 128 := by
  rw [bytesMatchLikeChars_iff, anyPattern, String.toList_ofList, bytes_replicate_any,
    literalGlob_replicate_any starByte_ne_anyByte, literalGlob_replicate_any star_ne_any] at h
  exact ascii_of_bytes_length (h.mpr rfl)

theorem fits_bytes_fillAny (p : List Char) :
    List.Forall₂ (Fits anyByte) (bytes p) (bytes (fillAny p)) := by
  induction p with
  | nil => exact .nil
  | cons c p ih =>
    show List.Forall₂ _ (String.utf8EncodeChar c ++ bytes p)
      (String.utf8EncodeChar (if c = '?' then 'a' else c) ++ bytes (fillAny p))
    refine List.rel_append ?_ ih
    split_ifs with hc
    · subst hc
      exact .cons (.inl rfl) .nil
    · exact List.forall₂_same.mpr fun _ _ => .inr rfl

def accented (pre rest : List Char) : List Char := fillAny pre ++ 'é' :: rest

theorem chars_accented {pre post rest : List Char} :
    LiteralGlob '*' '?' (pre ++ '?' :: post) (accented pre rest) ↔
      LiteralGlob '*' '?' post rest := by
  rw [accented, literalGlob_matched star_ne_any (fits_fillAny pre),
    literalGlob_fits star_ne_any (.inl rfl)]

/-- The question mark takes the first of the two bytes and leaves the second. -/
theorem bytes_accented {pre post rest : List Char} :
    LiteralGlob starByte anyByte (bytes (pre ++ '?' :: post)) (bytes (accented pre rest)) ↔
      LiteralGlob starByte anyByte (bytes post) (0xa9 :: bytes rest) := by
  have hp : bytes (pre ++ '?' :: post) = bytes pre ++ anyByte :: bytes post :=
    List.flatMap_append ..
  have ht : bytes (accented pre rest) = bytes (fillAny pre) ++ 0xc3 :: 0xa9 :: bytes rest :=
    List.flatMap_append ..
  rw [hp, ht, literalGlob_matched starByte_ne_anyByte (fits_bytes_fillAny pre),
    literalGlob_fits starByte_ne_anyByte (.inl rfl)]

theorem exists_leading_stars (p : List Char) :
    ∃ k q, p = .replicate k '*' ++ q ∧ q.head? ≠ some '*' := by
  induction p with
  | nil => exact ⟨0, [], rfl, by simp⟩
  | cons c p ih =>
    by_cases hc : c = '*'
    · obtain ⟨k, q, rfl, hq⟩ := ih
      exact ⟨k + 1, q, by rw [hc]; rfl, hq⟩
    · exact ⟨0, c :: p, rfl, by simpa using hc⟩

/-- A letter that the rest of the pattern does not start with. -/
def otherLetter (q : List Char) : Char := if q.head? = some 'a' then 'b' else 'a'

theorem not_chars_otherLetter {q : List Char} (hs : q.head? ≠ some '*') (ha : '?' ∉ q) :
    ¬ LiteralGlob '*' '?' q (otherLetter q :: q) := by
  cases q with
  | nil => simp [literalGlob_nil]
  | cons c q =>
    apply not_literalGlob
    · rintro rfl
      exact hs rfl
    · rintro (rfl | hc)
      · exact ha List.mem_cons_self
      · by_cases hletter : c = 'a'
        · subst hletter
          rw [otherLetter, List.head?_cons, if_pos rfl] at hc
          exact absurd hc (by decide)
        · rw [otherLetter, if_neg (by simpa using hletter)] at hc
          exact hletter hc

/-- Without a star after the question mark the second byte is left over. -/
theorem not_bytes_leftover {q : List Char} (hs : q.head? ≠ some '*') (ha : '?' ∉ q)
    {t : List UInt8} : ¬ LiteralGlob starByte anyByte (bytes q) (0xa9 :: t) := by
  have hcont : IsContinuation 0xa9 := by unfold IsContinuation; decide
  cases q with
  | nil =>
    show ¬ LiteralGlob _ _ [] _
    simp [literalGlob_nil]
  | cons c q =>
    exact not_bytes_continuation (fun h => hs (congrArg some h))
      (fun h => ha (h ▸ List.mem_cons_self)) hcont

theorem bytes_replicate_star (k : ℕ) (q : List Char) :
    bytes (.replicate k '*' ++ q) = .replicate k starByte ++ bytes q := by
  induction k with
  | zero => rfl
  | succ k ih =>
    rw [List.replicate_succ, List.replicate_succ, List.cons_append, List.cons_append, ← ih]
    rfl

/-- A star after the question mark takes the second byte and all up to the rest. -/
theorem bytes_leftover {k : ℕ} {q : List Char} (hq : q.head? ≠ some '*') (t : List Char) :
    LiteralGlob starByte anyByte (bytes (.replicate (k + 1) '*' ++ q))
      (0xa9 :: bytes (t ++ q)) := by
  have hhead : (bytes q).head? ≠ some starByte := mt bytes_head_star.mp hq
  have hrest : bytes q <:+ 0xa9 :: bytes (t ++ q) :=
    (bytes_suffix (List.suffix_append t q)).trans (List.suffix_cons ..)
  rw [bytes_replicate_star, List.replicate_succ, List.cons_append]
  apply (literalGlob_star (t := 0xa9 :: bytes (t ++ q)) (by simp [starByte])).mpr
  exact ⟨bytes q, hrest, literalGlob_skip_stars hhead (literalGlob_self _) k⟩

/-- A pattern with a question mark fits some value on one level only. -/
theorem exists_disagreement {p : List Char} (h : '?' ∈ p) :
    ∃ t, ¬ (LiteralGlob starByte anyByte (bytes p) (bytes t) ↔ LiteralGlob '*' '?' p t) := by
  obtain ⟨pre, post, rfl, hpost⟩ := exists_last h
  obtain ⟨k, q, rfl, hq⟩ := exists_leading_stars post
  have ha : '?' ∉ q := mt (List.mem_append_right _) hpost
  cases k with
  | zero =>
    refine ⟨accented pre q, ?_⟩
    rw [bytes_accented, chars_accented]
    intro hiff
    exact not_bytes_leftover hq ha (hiff.mpr (literalGlob_self q))
  | succ k =>
    refine ⟨accented pre (.replicate (k + 1) '*' ++ otherLetter q :: q), ?_⟩
    rw [bytes_accented, chars_accented,
      literalGlob_matched star_ne_any (List.forall₂_same.mpr fun _ _ => .inr rfl)]
    intro hiff
    have hbytes := bytes_leftover (k := k) hq (.replicate (k + 1) '*' ++ [otherLetter q])
    rw [List.append_assoc, List.singleton_append] at hbytes
    exact not_chars_otherLetter hq ha (hiff.mp hbytes)

/-- Bytes and characters give one answer when the pattern has no question mark or the value is
ASCII; a pattern with a question mark, and a value that is not ASCII, each has a partner on which
they differ.  Pair by pair they do exactly when the value can be cut for the pattern in bytes if and
only if it can in characters. -/
theorem bytes_match_like_chars_iff (p v : String) :
    (BytesMatchLikeChars p v ↔
      (LiteralGlob starByte anyByte (bytes p.toList) (bytes v.toList) ↔
        LiteralGlob '*' '?' p.toList v.toList)) ∧
    (ByteSafe p.toList v.toList → BytesMatchLikeChars p v) ∧
    ((∀ v, BytesMatchLikeChars p v) ↔ '?' ∉ p.toList) ∧
    ((∀ p, BytesMatchLikeChars p v) ↔ ∀ c ∈ v.toList, c.toNat < 128) := by
  have hsafe (p v : String) (h : ByteSafe p.toList v.toList) : BytesMatchLikeChars p v :=
    bytesMatchLikeChars_iff.mpr (levelsAgree h).whole
  refine ⟨bytesMatchLikeChars_iff, hsafe p v,
    ⟨fun hall hany => ?_, fun h v => hsafe p v (.inl h)⟩,
    ⟨fun hall => ascii_of_anyPattern (hall _), fun h p => hsafe p v (.inr h)⟩⟩
  obtain ⟨t, ht⟩ := exists_disagreement hany
  apply ht
  have hiff := bytesMatchLikeChars_iff.mp (hall (.ofList t))
  rwa [String.toList_ofList] at hiff

/-- A question mark does not match one character of two bytes. -/
theorem question_mark_takes_byte : ¬ ∀ p v : String, BytesMatchLikeChars p v := by
  intro hall
  exact absurd (hall "?" "é") (by unfold BytesMatchLikeChars; decide)

end GreenticEvents
