import Mathlib.Data.Finset.Dedup
import Mathlib.Data.Finset.Insert
import Mathlib.Data.List.Induction

/-!
# Collecting the distinct letters of a word

A loop that keeps a set of the letters it has seen and a list of them.
`List.eraseDups` is what the list should be: the first occurrence of each letter.
-/

namespace GreenticEvents.Data

variable {α : Type} [DecidableEq α]

theorem eraseDups_concat (l : List α) (a : α) :
    (l ++ [a]).eraseDups = if a ∈ l then l.eraseDups else l.eraseDups ++ [a] := by
  rw [List.eraseDups_append]
  split_ifs with ha
  · have hnil : [a].removeAll l = [] := by simp [List.removeAll, ha]
    rw [hnil, List.eraseDups_nil, List.append_nil]
  · have hone : [a].removeAll l = [a] := by simp [List.removeAll, ha]
    rw [hone, List.eraseDups_cons, List.filter_nil, List.eraseDups_nil]

/-- The first occurrences stand in the order in which the letters first occur. -/
theorem eraseDups_pairwise_idxOf (l : List α) :
    l.eraseDups.Pairwise fun a b => l.idxOf a < l.idxOf b := by
  induction l using List.reverseRecOn with
  | nil => exact .nil
  | append_singleton l c ih =>
    have hold : l.eraseDups.Pairwise fun a b => (l ++ [c]).idxOf a < (l ++ [c]).idxOf b := by
      refine ih.imp_of_mem fun ha hb hlt => ?_
      rw [List.idxOf_append_of_mem (List.mem_eraseDups.mp ha),
        List.idxOf_append_of_mem (List.mem_eraseDups.mp hb)]
      exact hlt
    rw [eraseDups_concat]
    split_ifs with hc
    · exact hold
    · refine List.pairwise_append.mpr ⟨hold, List.pairwise_singleton _ _, ?_⟩
      intro a ha b hb
      obtain rfl := List.mem_singleton.mp hb
      have ha := List.mem_eraseDups.mp ha
      rw [List.idxOf_append_of_mem ha, List.idxOf_append_of_notMem hc]
      exact Nat.lt_add_right _ (List.idxOf_lt_length_iff.mpr ha)

theorem eraseDups_nodup (l : List α) : l.eraseDups.Nodup :=
  (eraseDups_pairwise_idxOf l).imp fun hlt he => hlt.ne (congrArg l.idxOf he)

/-- The locals of the loop: the letters seen, and the list made of them. -/
@[ext] structure Collected (α : Type) where
  seen : Finset α
  entries : List α

namespace Collected

def empty : Collected α := ⟨∅, []⟩

/-- `if seen.insert(a) { entries.push(a) }`. -/
def insert (s : Collected α) (a : α) : Collected α :=
  if a ∈ s.seen then s else ⟨Insert.insert a s.seen, s.entries ++ [a]⟩

/-- The locals after the letters of `l`. -/
def after (l : List α) : Collected α := ⟨l.toFinset, l.eraseDups⟩

@[simp] theorem after_nil : after ([] : List α) = empty := rfl

theorem insert_after (l : List α) (a : α) : (after l).insert a = after (l ++ [a]) := by
  simp only [insert, after, List.mem_toFinset, eraseDups_concat]
  split_ifs with ha
  · have hseen : (l ++ [a]).toFinset = l.toFinset := by
      ext b
      simp only [List.mem_toFinset, List.mem_append, List.mem_singleton]
      exact ⟨fun h => h.elim id fun hb => hb ▸ ha, .inl⟩
    rw [hseen]
  · have hseen : (l ++ [a]).toFinset = Insert.insert a l.toFinset := by
      ext b
      rw [List.mem_toFinset, List.mem_append, List.mem_singleton, Finset.mem_insert,
        List.mem_toFinset, or_comm]
    rw [hseen]

theorem foldl_insert_after (l l' : List α) : l'.foldl insert (after l) = after (l ++ l') := by
  induction l' generalizing l with
  | nil => rw [List.append_nil, List.foldl_nil]
  | cons a l' ih =>
    rw [List.foldl_cons, insert_after, ih, List.append_assoc, List.singleton_append]

end Collected

end GreenticEvents.Data
