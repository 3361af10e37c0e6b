import Mathlib.Algebra.Order.Ring.Unbundled.Rat
import Mathlib.Computability.RegularExpressions

/-!
# JSON Schema

What the validation keywords say of a value, over any representation of JSON
values: `view` shows the outermost layer of one.  A schema object with several
keywords is `allOf` them, and `properties` takes `additionalProperties` with
it, which is about the members that the first one leaves.
-/

namespace GreenticEvents.Data.JsonSchema

/-- The outermost layer of a JSON value. -/
inductive Shape (V : Type) where
  | null
  | bool (b : Bool)
  | number (q : ℚ)
  | string (s : String)
  | array (values : List V)
  | object (members : List (String × V))

inductive Kind where
  | null
  | boolean
  | integer
  | number
  | string
  | array
  | object

variable {V : Type}

def Kind.Has : Kind → Shape V → Prop
  | null, .null => True
  | boolean, .bool _ => True
  | integer, .number q => q.isInt
  | number, .number _ => True
  | string, .string _ => True
  | array, .array _ => True
  | object, .object _ => True
  | _, _ => False

/-- A regular expression between its anchors `^` and `$`, where it has them. -/
structure Pattern where
  atStart : Bool
  body : RegularExpression Char
  atEnd : Bool

/-- Some part of the text matches, the whole text where both ends are anchored. -/
def Pattern.Matches (p : Pattern) (text : String) : Prop :=
  ∃ left part right, text.toList = left ++ part ++ right ∧ part ∈ p.body.matches' ∧
    (p.atStart → left = []) ∧ (p.atEnd → right = [])

/-- `[…]`: one of the listed characters. -/
def oneOf : List Char → RegularExpression Char
  | [] => 0
  | c :: cs => .char c + oneOf cs

/-- `r+`. -/
def oneOrMore (r : RegularExpression Char) : RegularExpression Char := r * r.star

/-- A schema; an enumeration lists texts only. -/
inductive Schema where
  | never
  | type (kind : Kind)
  | minLength (n : ℕ)
  | pattern (p : Pattern)
  | minimum (bound : ℚ)
  | enum (texts : List String)
  | required (names : List String)
  | properties (named : List (String × Schema)) (additional : Schema)
  | items (each : Schema)
  | allOf (parts : List Schema)
  | anyOf (parts : List Schema)

/-- The schema `true`. -/
def Schema.any : Schema := allOf []

section Validity

variable (view : V → Shape V)

mutual

/-- A keyword says nothing of a value that is not of the kind it is for. -/
def Schema.Valid : Schema → V → Prop
  | .never, _ => False
  | .type kind, v => kind.Has (view v)
  | .minLength n, v => ∀ s, view v = .string s → n ≤ s.length
  | .pattern p, v => ∀ s, view v = .string s → p.Matches s
  | .minimum bound, v => ∀ q, view v = .number q → bound ≤ q
  | .enum texts, v => ∃ s ∈ texts, view v = .string s
  | .required names, v => ∀ ms, view v = .object ms → ∀ name ∈ names, name ∈ ms.map Prod.fst
  | .properties named additional, v => ∀ ms, view v = .object ms → ∀ m ∈ ms,
      MemberValid named m.1 m.2 (additional.Valid m.2)
  | .items each, v => ∀ vs, view v = .array vs → ∀ w ∈ vs, each.Valid w
  | .allOf parts, v => AllValid parts v
  | .anyOf parts, v => AnyValid parts v

def AllValid : List Schema → V → Prop
  | [], _ => True
  | part :: parts, v => part.Valid v ∧ AllValid parts v

def AnyValid : List Schema → V → Prop
  | [], _ => False
  | part :: parts, v => part.Valid v ∨ AnyValid parts v

/-- `others` is what `additionalProperties` asks of a member without a schema of its own. -/
def MemberValid : List (String × Schema) → String → V → Prop → Prop
  | [], _, _, others => others
  | (name, part) :: named, key, v, others =>
    if key = name then part.Valid v else MemberValid named key v others

end

end Validity

section Patterns

theorem Pattern.matches_anchored (r : RegularExpression Char) (text : String) :
    Pattern.Matches ⟨true, r, true⟩ text ↔ text.toList ∈ r.matches' := by
  constructor
  · rintro ⟨left, part, right, ht, hp, hl, hr⟩
    rw [ht, hl rfl, hr rfl]
    simpa using hp
  · intro h
    exact ⟨[], text.toList, [], by simp, h, fun _ => rfl, fun _ => rfl⟩

theorem mem_oneOf {cs : List Char} {text : List Char} :
    text ∈ (oneOf cs).matches' ↔ ∃ c ∈ cs, text = [c] := by
  induction cs with
  | nil =>
    simp only [oneOf, RegularExpression.matches', List.not_mem_nil, false_and, exists_false,
      iff_false]
    exact Language.notMem_zero _
  | cons c cs ih =>
    rw [oneOf, RegularExpression.matches'_add, Language.mem_add, ih]
    simp only [List.mem_cons, exists_eq_or_imp]
    exact Iff.rfl

/-- `[…]+` matches the texts over the class that are not empty. -/
theorem mem_oneOrMore_oneOf {cs : List Char} {text : List Char} :
    text ∈ (oneOrMore (oneOf cs)).matches' ↔ text ≠ [] ∧ ∀ c ∈ text, c ∈ cs := by
  rw [oneOrMore, RegularExpression.matches'_mul, Language.mem_mul]
  constructor
  · rintro ⟨first, hf, rest, hr, rfl⟩
    obtain ⟨c, hc, rfl⟩ := mem_oneOf.mp hf
    rw [RegularExpression.matches'_star, Language.mem_kstar] at hr
    obtain ⟨pieces, rfl, hp⟩ := hr
    refine ⟨by simp, ?_⟩
    intro d hd
    rcases List.mem_cons.mp hd with rfl | hd
    · exact hc
    · obtain ⟨piece, hm, hd⟩ := List.mem_flatten.mp hd
      obtain ⟨e, he, rfl⟩ := mem_oneOf.mp (hp piece hm)
      rwa [List.mem_singleton.mp hd]
  · rintro ⟨hne, hall⟩
    obtain ⟨c, rest, rfl⟩ := List.exists_cons_of_ne_nil hne
    -- the rest is matched by the star one character at a time
    refine ⟨[c], mem_oneOf.mpr ⟨c, hall c (by simp), rfl⟩, rest, ?_, rfl⟩
    rw [RegularExpression.matches'_star, Language.mem_kstar]
    refine ⟨rest.map fun d => [d], ?_, ?_⟩
    · rw [← List.flatMap_def]
      exact (List.flatMap_singleton' rest).symm
    · intro piece hm
      obtain ⟨d, hd, rfl⟩ := List.mem_map.mp hm
      exact mem_oneOf.mpr ⟨d, hall d (List.mem_cons_of_mem c hd), rfl⟩

/-- `r+` matches the texts made of one or more matches of `r`. -/
theorem mem_oneOrMore {r : RegularExpression Char} {text : List Char} :
    text ∈ (oneOrMore r).matches' ↔
      ∃ pieces, pieces ≠ [] ∧ text = pieces.flatten ∧ ∀ piece ∈ pieces, piece ∈ r.matches' := by
  rw [oneOrMore, RegularExpression.matches'_mul, Language.mem_mul,
    RegularExpression.matches'_star]
  constructor
  · rintro ⟨first, hfirst, rest, hrest, rfl⟩
    obtain ⟨pieces, rfl, hpieces⟩ := Language.mem_kstar.mp hrest
    exact ⟨first :: pieces, List.cons_ne_nil _ _, rfl, List.forall_mem_cons.mpr ⟨hfirst, hpieces⟩⟩
  · rintro ⟨pieces, hne, rfl, hpieces⟩
    obtain ⟨first, pieces, rfl⟩ := List.exists_cons_of_ne_nil hne
    obtain ⟨hfirst, hrest⟩ := List.forall_mem_cons.mp hpieces
    exact ⟨first, hfirst, pieces.flatten, Language.mem_kstar.mpr ⟨pieces, rfl, hrest⟩, rfl⟩

theorem mem_char_mul {c : Char} {r : RegularExpression Char} {text : List Char} :
    text ∈ (.char c * r : RegularExpression Char).matches' ↔
      ∃ rest ∈ r.matches', text = c :: rest := by
  rw [RegularExpression.matches'_mul, Language.mem_mul]
  constructor
  · rintro ⟨first, rfl, rest, hrest, rfl⟩
    exact ⟨rest, hrest, rfl⟩
  · rintro ⟨rest, hrest, rfl⟩
    exact ⟨[c], rfl, rest, hrest, rfl⟩

theorem intercalate_cons_flatMap {α : Type} (sep : α) (first : List α) (rest : List (List α)) :
    [sep].intercalate (first :: rest) = first ++ rest.flatMap (sep :: ·) := by
  induction rest generalizing first with
  | nil => simp
  | cons second rest ih =>
    rw [List.intercalate_cons_cons, ih, List.flatMap_cons, List.append_assoc,
      List.singleton_append, List.cons_append]

theorem mem_oneOrMore_char {sep : Char} {r : RegularExpression Char} {text : List Char} :
    text ∈ (oneOrMore (.char sep * r)).matches' ↔
      ∃ parts, parts ≠ [] ∧ text = parts.flatMap (sep :: ·) ∧
        ∀ part ∈ parts, part ∈ r.matches' := by
  rw [mem_oneOrMore]
  constructor
  · rintro ⟨pieces, hne, rfl, hpieces⟩
    have heach (piece : List Char) (hmem : piece ∈ pieces) :
        ∃ part ∈ r.matches', piece = sep :: part :=
      mem_char_mul.mp (hpieces piece hmem)
    have hcut : (pieces.map List.tail).map (sep :: ·) = pieces := by
      rw [List.map_map]
      calc
        _ = pieces.map id := by
          apply List.map_congr_left
          intro piece hmem
          obtain ⟨part, -, rfl⟩ := heach piece hmem
          rfl
        _ = pieces := List.map_id _
    refine ⟨pieces.map List.tail, by simpa using hne, ?_, ?_⟩
    · rw [List.flatMap_def, hcut]
    · rintro _ hpart
      obtain ⟨piece, hmem, rfl⟩ := List.mem_map.mp hpart
      obtain ⟨part, hmatch, rfl⟩ := heach piece hmem
      exact hmatch
  · rintro ⟨parts, hne, rfl, hparts⟩
    refine ⟨parts.map (sep :: ·), by simpa using hne, List.flatMap_def .., ?_⟩
    intro _ hpiece
    obtain ⟨part, hmem, rfl⟩ := List.mem_map.mp hpiece
    exact mem_char_mul.mpr ⟨part, hparts part hmem, rfl⟩

/-- `first(sep rest)+` matches the texts whose parts between the separators match, of which
there are two or more. -/
theorem mem_separated {sep : Char} {first rest : RegularExpression Char} {text : List Char}
    (hfirst : ∀ part ∈ first.matches', sep ∉ part) (hrest : ∀ part ∈ rest.matches', sep ∉ part) :
    text ∈ (first * oneOrMore (.char sep * rest) : RegularExpression Char).matches' ↔
      ∃ head parts, text.splitOn sep = head :: parts ∧ head ∈ first.matches' ∧ parts ≠ [] ∧
        ∀ part ∈ parts, part ∈ rest.matches' := by
  rw [RegularExpression.matches'_mul, Language.mem_mul]
  constructor
  · rintro ⟨head, hhead, _, htail, rfl⟩
    obtain ⟨parts, hne, rfl, hparts⟩ := mem_oneOrMore_char.mp htail
    refine ⟨head, parts, ?_, hhead, hne, hparts⟩
    rw [← intercalate_cons_flatMap]
    apply List.splitOn_intercalate sep _ (List.cons_ne_nil _ _)
    rw [List.forall_mem_cons]
    exact ⟨hfirst head hhead, fun part hmem => hrest part (hparts part hmem)⟩
  · rintro ⟨head, parts, hsplit, hhead, hne, hparts⟩
    refine ⟨head, hhead, _, mem_oneOrMore_char.mpr ⟨parts, hne, rfl, hparts⟩, ?_⟩
    rw [← intercalate_cons_flatMap, ← hsplit]
    exact List.intercalate_splitOn sep

end Patterns

section Rules

variable {view : V → Shape V} {v : V}

@[simp] theorem valid_allOf_nil : (Schema.allOf []).Valid view v ↔ True := Iff.rfl

@[simp] theorem valid_allOf_cons {part : Schema} {parts : List Schema} :
    (Schema.allOf (part :: parts)).Valid view v ↔
      part.Valid view v ∧ (Schema.allOf parts).Valid view v := Iff.rfl

@[simp] theorem valid_any : Schema.any.Valid view v := trivial

theorem valid_anyOf {parts : List Schema} :
    (Schema.anyOf parts).Valid view v ↔ ∃ part ∈ parts, part.Valid view v := by
  show AnyValid view parts v ↔ _
  induction parts with
  | nil => exact iff_of_false id (by simp)
  | cons part parts ih =>
    show part.Valid view v ∨ AnyValid view parts v ↔ _
    rw [ih, List.exists_mem_cons_iff]

theorem valid_type {kind : Kind} : (Schema.type kind).Valid view v ↔ kind.Has (view v) := Iff.rfl

theorem valid_minLength {s : String} (h : view v = .string s) {n : ℕ} :
    (Schema.minLength n).Valid view v ↔ n ≤ s.length := by
  show (∀ s', view v = .string s' → n ≤ s'.length) ↔ _
  simp [h]

theorem valid_pattern {s : String} (h : view v = .string s) {p : Pattern} :
    (Schema.pattern p).Valid view v ↔ p.Matches s := by
  show (∀ s', view v = .string s' → p.Matches s') ↔ _
  simp [h]

theorem valid_minimum {q : ℚ} (h : view v = .number q) {bound : ℚ} :
    (Schema.minimum bound).Valid view v ↔ bound ≤ q := by
  show (∀ q', view v = .number q' → bound ≤ q') ↔ _
  simp [h]

theorem valid_enum {s : String} (h : view v = .string s) {texts : List String} :
    (Schema.enum texts).Valid view v ↔ s ∈ texts := by
  show (∃ s' ∈ texts, view v = .string s') ↔ _
  simp [h]

theorem valid_items {vs : List V} (h : view v = .array vs) {each : Schema} :
    (Schema.items each).Valid view v ↔ ∀ w ∈ vs, each.Valid view w := by
  show (∀ vs', view v = .array vs' → ∀ w ∈ vs', each.Valid view w) ↔ _
  simp [h]

theorem valid_required {ms : List (String × V)} (h : view v = .object ms) {names : List String} :
    (Schema.required names).Valid view v ↔ ∀ name ∈ names, name ∈ ms.map Prod.fst := by
  show (∀ ms', view v = .object ms' → ∀ name ∈ names, name ∈ ms'.map Prod.fst) ↔ _
  simp [h]

theorem valid_properties {ms : List (String × V)} (h : view v = .object ms)
    {named : List (String × Schema)} {additional : Schema} :
    (Schema.properties named additional).Valid view v ↔
      ∀ m ∈ ms, MemberValid view named m.1 m.2 (additional.Valid view m.2) := by
  show (∀ ms', view v = .object ms' → ∀ m ∈ ms',
    MemberValid view named m.1 m.2 (additional.Valid view m.2)) ↔ _
  simp [h]

@[simp] theorem memberValid_nil {key : String} {others : Prop} :
    MemberValid view [] key v others ↔ others := Iff.rfl

theorem memberValid_cons {name key : String} {part : Schema} {named : List (String × Schema)}
    {others : Prop} : MemberValid view ((name, part) :: named) key v others ↔
      if key = name then part.Valid view v else MemberValid view named key v others := Iff.rfl

/-- A member without a schema of its own. -/
theorem memberValid_of_not_mem {named : List (String × Schema)} {key : String} {others : Prop}
    (h : key ∉ named.map Prod.fst) : MemberValid view named key v others ↔ others := by
  induction named with
  | nil => exact memberValid_nil
  | cons entry named ih =>
    rw [List.map_cons, List.mem_cons, not_or] at h
    rw [memberValid_cons, if_neg h.1, ih h.2]

end Rules

end GreenticEvents.Data.JsonSchema
