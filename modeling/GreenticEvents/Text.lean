import Mathlib.Data.List.Infix
import Mathlib.Data.String.Basic

namespace GreenticEvents

/-- `char::is_whitespace`, the Unicode property `White_Space`. -/
def isWhitespace (c : Char) : Bool :=
  let n := c.toNat
  (9 ≤ n && n ≤ 13) || n == 0x20 || n == 0x85 || n == 0xA0 || n == 0x1680 ||
    (0x2000 ≤ n && n ≤ 0x200A) || n == 0x2028 || n == 0x2029 || n == 0x202F || n == 0x205F ||
    n == 0x3000

/-- `s.trim().is_empty()`. -/
def isBlank (s : String) : Bool := s.toList.all isWhitespace

def startsWith (text pre : String) : Bool := pre.toList.isPrefixOf text.toList

/-- `str::find`, as the rest of the text from the first occurrence on. -/
def findFrom (text part : String) : Option String :=
  (text.toList.tails.find? fun rest => part.toList.isPrefixOf rest).map String.ofList

/-- `rest` is what is left of the text from the first occurrence of `part` on. -/
structure FirstOccurrence (part text before rest : String) : Prop where
  cut : text = before ++ rest
  here : startsWith rest part = true
  first : ∀ before' rest', text = before' ++ rest' → startsWith rest' part = true →
    before.length ≤ before'.length

/-- The first tail with a property is the one with the least in front of it. -/
theorem find?_tails {α : Type} {p : List α → Bool} {l rest : List α} :
    l.tails.find? p = some rest ↔ ∃ before, l = before ++ rest ∧ p rest = true ∧
      ∀ before' rest', l = before' ++ rest' → p rest' = true → before.length ≤ before'.length := by
  induction l with
  | nil =>
    show List.find? p [[]] = some rest ↔ _
    rw [List.find?_singleton, Option.ite_none_right_eq_some, Option.some.injEq]
    constructor
    · rintro ⟨hp, rfl⟩
      exact ⟨[], rfl, hp, fun _ _ _ _ => Nat.zero_le _⟩
    · rintro ⟨before, hl, hp, -⟩
      obtain ⟨rfl, rfl⟩ := List.append_eq_nil_iff.mp hl.symm
      exact ⟨hp, rfl⟩
  | cons a l ih =>
    -- the whole text is the first tail
    rw [List.tails_cons]
    by_cases hp : p (a :: l) = true
    · rw [List.find?_cons_of_pos hp, Option.some.injEq]
      constructor
      · rintro rfl
        exact ⟨[], rfl, hp, fun _ _ _ _ => Nat.zero_le _⟩
      · rintro ⟨before, hl, -, hfirst⟩
        obtain rfl := List.length_eq_zero_iff.mp (Nat.le_zero.mp (hfirst [] _ rfl hp))
        exact hl
    · rw [List.find?_cons_of_neg hp, ih]
      constructor
      · rintro ⟨before, rfl, hrest, hfirst⟩
        refine ⟨a :: before, rfl, hrest, ?_⟩
        intro before' rest' hl hp'
        cases before' with
        | nil => exact absurd (hl ▸ hp') hp
        | cons b before' =>
          exact Nat.succ_le_succ (hfirst before' rest' (List.cons.inj hl).2 hp')
      · rintro ⟨before, hl, hrest, hfirst⟩
        cases before with
        | nil => exact absurd (hl ▸ hrest) hp
        | cons b before =>
          refine ⟨before, (List.cons.inj hl).2, hrest, ?_⟩
          intro before' rest' hl' hp'
          exact Nat.le_of_succ_le_succ
            (hfirst (a :: before') rest' (congrArg (a :: ·) hl') hp')

theorem findFrom_eq_some {text part rest : String} :
    findFrom text part = some rest ↔ ∃ before, FirstOccurrence part text before rest := by
  rw [findFrom, Option.map_eq_some_iff]
  constructor
  · rintro ⟨tail, htail, rfl⟩
    obtain ⟨before, hl, hp, hfirst⟩ := find?_tails.mp htail
    refine ⟨.ofList before, ?_, ?_, ?_⟩
    · rw [← String.ofList_append, ← hl, String.ofList_toList]
    · rw [startsWith, String.toList_ofList]
      exact hp
    · intro before' rest' hcut hhere
      rw [String.length_ofList, ← String.length_toList]
      exact hfirst before'.toList rest'.toList (by rw [hcut, String.toList_append]) hhere
  · rintro ⟨before, hcut, hhere, hfirst⟩
    refine ⟨rest.toList, find?_tails.mpr ⟨before.toList, ?_, hhere, ?_⟩, String.ofList_toList⟩
    · rw [hcut, String.toList_append]
    · intro before' rest' hl hp
      rw [String.length_toList, ← String.length_ofList]
      apply hfirst (.ofList before') (.ofList rest')
      · rw [← String.ofList_append, ← hl, String.ofList_toList]
      · rw [startsWith, String.toList_ofList]
        exact hp

/-- Nothing is cut from a text that starts with the part. -/
theorem FirstOccurrence.of_startsWith {part text before rest : String}
    (h : FirstOccurrence part text before rest) (hstart : startsWith text part = true) :
    rest = text := by
  have hempty := h.first "" text (String.empty_append).symm hstart
  obtain rfl : before = "" := String.length_eq_zero_iff.mp (Nat.le_zero.mp hempty)
  exact (h.cut.trans String.empty_append).symm

end GreenticEvents
