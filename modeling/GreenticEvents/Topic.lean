import Mathlib.Data.String.Basic

/-!
# Event topics (`is_valid_event_topic` of the pack validators)
-/

namespace GreenticEvents

def isLowerOrDigit (c : Char) : Bool := c.isLower || c.isDigit

def isSegmentChar (c : Char) : Bool := isLowerOrDigit c || c == '-' || c == '_'

def isValidEventTopic (value : String) : Bool :=
  if value.isEmpty then false
  else
    match value.toList.splitOn '.' with
    | [] => false
    | first :: segments =>
      if first.isEmpty || !first.all isLowerOrDigit then false
      else if segments.any fun segment => segment.isEmpty || !segment.all isSegmentChar then false
      else !segments.isEmpty

example : isValidEventTopic "orders.item-created" = true := by decide

/-- The segments of an accepted topic, of which there are two or more. -/
theorem isValidEventTopic_iff {value : String} :
    isValidEventTopic value = true ↔
      ∃ first segments, value.toList.splitOn '.' = first :: segments ∧
        (first ≠ [] ∧ ∀ c ∈ first, isLowerOrDigit c = true) ∧ segments ≠ [] ∧
        ∀ segment ∈ segments, segment ≠ [] ∧ ∀ c ∈ segment, isSegmentChar c = true := by
  cases hparts : value.toList.splitOn '.' with
  | nil => exact absurd hparts (List.splitOn_ne_nil '.' _)
  | cons first segments =>
    by_cases hv : value.isEmpty = true
    · -- an empty text has one segment, which is empty
      obtain rfl := String.isEmpty_iff.mp hv
      obtain ⟨rfl, rfl⟩ := List.cons.inj hparts
      simp [isValidEventTopic]
    · rw [isValidEventTopic, if_neg hv, hparts]
      simp only [Bool.if_false_left, Bool.and_eq_true, Bool.not_eq_true', decide_eq_false_iff_not,
        Bool.or_eq_true, List.isEmpty_iff, List.any_eq_true, List.all_eq_false, not_or,
        not_exists, not_and, List.cons.injEq]
      grind

theorem mem_intercalate {α : Type} {a : α} {sep : List α} {ls : List (List α)}
    (h : a ∈ sep.intercalate ls) : a ∈ sep ∨ ∃ l ∈ ls, a ∈ l := by
  induction ls with
  | nil => simp at h
  | cons l ls ih =>
    by_cases hls : ls = []
    · subst hls
      rw [List.intercalate_singleton] at h
      exact .inr ⟨l, List.mem_cons_self, h⟩
    · rw [List.intercalate_cons_of_ne_nil hls, List.append_assoc] at h
      rcases List.mem_append.mp h with h | h
      · exact .inr ⟨l, List.mem_cons_self, h⟩
      · rcases List.mem_append.mp h with h | h
        · exact .inl h
        · exact (ih h).imp id fun ⟨l', hl', ha⟩ => ⟨l', List.mem_cons_of_mem _ hl', ha⟩

/-- A topic is made of dots and segment characters. -/
theorem isValidEventTopic_chars {value : String} (h : isValidEventTopic value = true) :
    ∀ c ∈ value.toList, c = '.' ∨ isSegmentChar c = true := by
  obtain ⟨first, segments, hparts, hfirst, -, hrest⟩ := isValidEventTopic_iff.mp h
  intro c hmem
  have hjoin : ['.'].intercalate (value.toList.splitOn '.') = value.toList :=
    List.intercalate_splitOn '.'
  rw [← hjoin, hparts] at hmem
  rcases mem_intercalate hmem with hdot | ⟨part, hpart, hc⟩
  · exact .inl (List.mem_singleton.mp hdot)
  · right
    rcases List.mem_cons.mp hpart with rfl | hpart
    · simp [isSegmentChar, hfirst.2 c hc]
    · exact (hrest part hpart).2 c hc

end GreenticEvents
