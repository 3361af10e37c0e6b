import Mathlib.Order.Lattice
import Mathlib.Data.List.Basic
import Mathlib.Data.List.Induction
import Mathlib.Data.List.Nodup

/-!
# Maps kept as association lists sorted by key

`insertEntry` works on any association list, so that recursive types can use
it; `BTreeMap` carries the proof that its keys ascend.
-/

namespace GreenticEvents.Data

variable {κ ν : Type} [LinearOrder κ]

/-- Put `v` at `k`, replacing what was there. -/
def insertEntry (k : κ) (v : ν) : List (κ × ν) → List (κ × ν)
  | [] => [(k, v)]
  | e :: l =>
    if k < e.1 then (k, v) :: e :: l
    else if k = e.1 then (k, v) :: l
    else e :: insertEntry k v l

@[simp] theorem lookup_insertEntry_self (k : κ) (v : ν) (l : List (κ × ν)) :
    (insertEntry k v l).lookup k = some v := by
  induction l with
  | nil => simp [insertEntry]
  | cons e l ih =>
    unfold insertEntry
    split_ifs with h1 h2
    · simp
    · simp
    · rw [List.lookup_cons, beq_false_of_ne h2]
      exact ih

theorem lookup_insertEntry_of_ne {k k' : κ} (h : k' ≠ k) (v : ν) (l : List (κ × ν)) :
    (insertEntry k v l).lookup k' = l.lookup k' := by
  have hk : (k' == k) = false := beq_false_of_ne h
  induction l with
  | nil => simp [insertEntry, List.lookup_cons, hk]
  | cons e l ih =>
    unfold insertEntry
    split_ifs with h1 h2
    · rw [List.lookup_cons, hk]
    · rw [List.lookup_cons, List.lookup_cons, hk, ← h2, hk]
    · rw [List.lookup_cons, List.lookup_cons, ih]

/-- The value put last at `k` counts. -/
theorem insertEntry_insertEntry (k : κ) (v v' : ν) (l : List (κ × ν)) :
    insertEntry k v (insertEntry k v' l) = insertEntry k v l := by
  induction l with
  | nil => simp [insertEntry]
  | cons e l ih =>
    rw [insertEntry]
    split_ifs with h1 h2
    · simp [insertEntry, h1]
    · simp [insertEntry, h2]
    · simp [insertEntry, h1, h2, ih]

/-- Inserting at `k` leaves the other entries in place. -/
theorem filter_insertEntry (k : κ) (v : ν) (l : List (κ × ν)) :
    (insertEntry k v l).filter (fun e => decide (e.1 ≠ k)) =
      l.filter fun e => decide (e.1 ≠ k) := by
  induction l with
  | nil => simp [insertEntry]
  | cons e l ih =>
    unfold insertEntry
    split_ifs with h1 h2
    · simp
    · simp [← h2]
    · rw [List.filter_cons, List.filter_cons, ih]

theorem mem_keys_insertEntry {k x : κ} {v : ν} {l : List (κ × ν)}
    (h : x ∈ (insertEntry k v l).map Prod.fst) : x = k ∨ x ∈ l.map Prod.fst := by
  induction l with
  | nil => simpa [insertEntry] using h
  | cons e l ih =>
    unfold insertEntry at h
    split_ifs at h with h1 h2
    · simpa using h
    · rcases List.mem_cons.mp h with h | h
      · exact .inl h
      · exact .inr (List.mem_cons_of_mem _ h)
    · rcases List.mem_cons.mp h with h | h
      · exact .inr (h ▸ List.mem_cons_self)
      · exact (ih h).imp id (List.mem_cons_of_mem _)

theorem sorted_insertEntry {k : κ} {v : ν} {l : List (κ × ν)}
    (h : (l.map Prod.fst).Pairwise (· < ·)) :
    ((insertEntry k v l).map Prod.fst).Pairwise (· < ·) := by
  induction l with
  | nil => simp [insertEntry]
  | cons e l ih =>
    obtain ⟨he, hl⟩ := List.pairwise_cons.mp h
    unfold insertEntry
    split_ifs with h1 h2
    · refine List.pairwise_cons.mpr ⟨fun x hx => ?_, h⟩
      rcases List.mem_cons.mp hx with rfl | hx
      · exact h1
      · exact lt_trans h1 (he x hx)
    · exact List.pairwise_cons.mpr ⟨fun x hx => h2 ▸ he x hx, hl⟩
    · refine List.pairwise_cons.mpr ⟨fun x hx => ?_, ih hl⟩
      rcases mem_keys_insertEntry hx with rfl | hx
      · exact lt_of_le_of_ne (not_lt.mp h1) (Ne.symm h2)
      · exact he x hx

/-- Under distinct keys the lookup finds each entry. -/
theorem lookup_eq_some_iff_mem {κ : Type} [BEq κ] [LawfulBEq κ] {l : List (κ × ν)}
    (hn : (l.map Prod.fst).Nodup) {k : κ} {v : ν} : l.lookup k = some v ↔ (k, v) ∈ l := by
  induction l with
  | nil => simp
  | cons e l ih =>
    obtain ⟨he, hl⟩ := List.nodup_cons.mp hn
    rw [List.lookup_cons, List.mem_cons, ← ih hl]
    by_cases hk : k = e.1
    · have hlater : l.lookup k ≠ some v := by
        intro h
        exact he (List.mem_map.mpr ⟨(k, v), (ih hl).mp h, hk⟩)
      subst hk
      simp [hlater, Prod.ext_iff, eq_comm]
    · simp [hk, Prod.ext_iff, beq_false_of_ne hk]

section Keyed

variable {α β : Type} {κ : Type}

/-- What the members of two lists give in all, when they have the same keys, each once, and
members with the same key give the same. -/
theorem flatMap_perm_of_keys (key : α → κ) (f : α → List β) {l l' : List α}
    (hn : (l.map key).Nodup) (hn' : (l'.map key).Nodup)
    (hsame : ∀ k, k ∈ l.map key ↔ k ∈ l'.map key)
    (hf : ∀ a ∈ l, ∀ b ∈ l', key a = key b → f a = f b) : (l.flatMap f).Perm (l'.flatMap f) := by
  induction l generalizing l' with
  | nil =>
    have hnil : l'.map key = [] := List.eq_nil_iff_forall_not_mem.mpr fun k hk => by
      simpa using (hsame k).mpr hk
    rw [List.map_eq_nil_iff.mp hnil]
  | cons a l ih =>
    obtain ⟨b, hb, hkey⟩ := List.mem_map.mp ((hsame (key a)).mp (by simp))
    obtain ⟨before, after, rfl⟩ := List.append_of_mem hb
    -- the member with the first one's key is moved to the front
    have hmove : (before ++ b :: after).Perm (b :: (before ++ after)) := List.perm_middle
    obtain ⟨ha, hl⟩ := List.nodup_cons.mp hn
    obtain ⟨hb', hrest⟩ := List.nodup_cons.mp ((hmove.map key).nodup_iff.mp hn')
    have hothers (k : κ) : k ∈ l.map key ↔ k ∈ (before ++ after).map key := by
      have hk := (hsame k).trans (hmove.map key).mem_iff
      rw [List.map_cons, List.mem_cons, List.map_cons, List.mem_cons, hkey] at hk
      constructor
      · intro hmem
        rcases hk.mp (.inr hmem) with rfl | hmem
        · exact absurd hmem ha
        · exact hmem
      · intro hmem
        rcases hk.mpr (.inr hmem) with rfl | hmem
        · exact absurd (hkey ▸ hmem) hb'
        · exact hmem
    refine List.Perm.trans ?_ (hmove.flatMap_right f).symm
    rw [List.flatMap_cons, List.flatMap_cons, hf a (by simp) b hb hkey.symm]
    refine (ih hl hrest hothers fun a' ha' b' hb' => hf a' (by simp [ha']) b' ?_).append_left _
    exact hmove.mem_iff.mpr (List.mem_cons_of_mem b hb')

/-- Under distinct keys the order of the entries does not matter to a lookup. -/
theorem lookup_reverse_of_perm [BEq κ] [LawfulBEq κ] {l l' : List (κ × ν)} (h : l.Perm l')
    (hn : (l.map Prod.fst).Nodup) (k : κ) : l.reverse.lookup k = l'.reverse.lookup k := by
  have hreverse (l : List (κ × ν)) (hn : (l.map Prod.fst).Nodup) :
      (l.reverse.map Prod.fst).Nodup := by
    rwa [List.map_reverse, List.nodup_reverse]
  apply Option.ext
  intro v
  rw [lookup_eq_some_iff_mem (hreverse l hn),
    lookup_eq_some_iff_mem (hreverse l' ((h.map _).nodup_iff.mp hn)), List.mem_reverse,
    List.mem_reverse, h.mem_iff]

end Keyed

variable (κ ν) in
structure BTreeMap where
  entries : List (κ × ν)
  sorted : (entries.map Prod.fst).Pairwise (· < ·)

namespace BTreeMap

def empty : BTreeMap κ ν := ⟨[], .nil⟩

theorem eq_empty_of_isEmpty {m : BTreeMap κ ν} (h : m.entries.isEmpty = true) : m = empty := by
  obtain ⟨entries, hsorted⟩ := m
  cases List.isEmpty_iff.mp h
  rfl

def get (m : BTreeMap κ ν) (k : κ) : Option ν := m.entries.lookup k

def insert (m : BTreeMap κ ν) (k : κ) (v : ν) : BTreeMap κ ν :=
  ⟨insertEntry k v m.entries, sorted_insertEntry m.sorted⟩

@[simp] theorem get_insert_self (m : BTreeMap κ ν) (k : κ) (v : ν) :
    (m.insert k v).get k = some v :=
  lookup_insertEntry_self ..

theorem get_insert_of_ne (m : BTreeMap κ ν) {k k' : κ} (h : k' ≠ k) (v : ν) :
    (m.insert k v).get k' = m.get k' :=
  lookup_insertEntry_of_ne h ..

theorem mem_entries (m : BTreeMap κ ν) {k : κ} {v : ν} :
    (k, v) ∈ m.entries ↔ m.get k = some v :=
  (lookup_eq_some_iff_mem (m.sorted.imp ne_of_lt)).symm

/-- A map is what it holds under each key. -/
theorem ext_get {m m' : BTreeMap κ ν} (h : ∀ k, m.get k = m'.get k) : m = m' := by
  have hnodup (m : BTreeMap κ ν) : m.entries.Nodup :=
    List.Nodup.of_map Prod.fst (m.sorted.imp ne_of_lt)
  have hsorted (m : BTreeMap κ ν) : m.entries.Pairwise fun e e' => e.1 < e'.1 :=
    List.pairwise_map.mp m.sorted
  have hperm : m.entries.Perm m'.entries := by
    apply (List.perm_ext_iff_of_nodup (hnodup m) (hnodup m')).mpr
    intro e
    rw [mem_entries, mem_entries, h]
  have hentries : m.entries = m'.entries :=
    hperm.eq_of_pairwise (fun e e' _ _ hlt hgt => absurd hgt (lt_asymm hlt)) (hsorted m)
      (hsorted m')
  cases m
  cases m'
  cases hentries
  rfl

/-- A field that is skipped has no value. -/
def setField (m : BTreeMap κ ν) (field : κ × Option ν) : BTreeMap κ ν :=
  match field.2 with
  | some v => m.insert field.1 v
  | none => m

/-- What writing the fields one after the other leaves. -/
def ofFields (fields : List (κ × Option ν)) : BTreeMap κ ν := fields.foldl setField empty

theorem ofFields_concat (fields : List (κ × Option ν)) (field : κ × Option ν) :
    ofFields (fields ++ [field]) = (ofFields fields).setField field := by
  simp only [ofFields, List.foldl_append, List.foldl_cons, List.foldl_nil]

/-- Fields under distinct keys are all there. -/
theorem get_ofFields {fields : List (κ × Option ν)} (hn : (fields.map Prod.fst).Nodup)
    {k : κ} {v : ν} : (ofFields fields).get k = some v ↔ (k, some v) ∈ fields := by
  -- from the field written last
  induction fields using List.reverseRecOn with
  | nil => simp [ofFields, empty, get]
  | append_singleton fields field ih =>
    obtain ⟨key, value⟩ := field
    rw [List.map_append, List.nodup_append] at hn
    obtain ⟨hfields, -, hne⟩ := hn
    rw [ofFields_concat, List.mem_append, List.mem_singleton, ← ih hfields]
    cases value with
    | none => simp [setField]
    | some w =>
      show ((ofFields fields).insert key w).get k = some v ↔ _
      by_cases hk : k = key
      · subst hk
        have hnew : (ofFields fields).get k ≠ some v := by
          intro h
          exact hne k (List.mem_map.mpr ⟨_, (ih hfields).mp h, rfl⟩) k (by simp) rfl
        simp [hnew, eq_comm]
      · rw [get_insert_of_ne _ hk]
        simp [hk]

/-- The value of a field, if it has one. -/
theorem get_ofFields_of_mem {fields : List (κ × Option ν)} (hn : (fields.map Prod.fst).Nodup)
    {k : κ} {value : Option ν} (h : (k, value) ∈ fields) : (ofFields fields).get k = value := by
  cases value with
  | some v => exact (get_ofFields hn).mpr h
  | none =>
    apply Option.eq_none_iff_forall_ne_some.mpr
    intro v hget
    have hmem := (get_ofFields hn).mp hget
    cases List.inj_on_of_nodup_map hn h hmem rfl

theorem get_ofFields_of_not_mem {fields : List (κ × Option ν)} {k : κ}
    (h : k ∉ fields.map Prod.fst) : (ofFields fields).get k = none := by
  induction fields using List.reverseRecOn with
  | nil => rfl
  | append_singleton fields field ih =>
    rw [List.map_append, List.mem_append, not_or] at h
    have hk : k ≠ field.1 := by simpa using h.2
    rw [ofFields_concat, setField]
    cases field.2 with
    | none => exact ih h.1
    | some v => exact (get_insert_of_ne _ hk v).trans (ih h.1)

theorem get_ofFields_eq_lookup {fields : List (κ × Option ν)}
    (hn : (fields.map Prod.fst).Nodup) (k : κ) :
    (ofFields fields).get k = (fields.lookup k).join := by
  cases hlookup : fields.lookup k with
  | some value =>
    obtain ⟨before, after, rfl, -⟩ := List.lookup_eq_some_iff.mp hlookup
    exact get_ofFields_of_mem hn (by simp)
  | none =>
    apply get_ofFields_of_not_mem
    intro hmem
    obtain ⟨e, he, rfl⟩ := List.mem_map.mp hmem
    exact absurd (List.lookup_eq_none_iff.mp hlookup e he) (by simp)

/-- The map of a list of entries, of which the last one under a key counts. -/
def ofEntries (entries : List (κ × ν)) : BTreeMap κ ν :=
  ofFields (entries.map fun e => (e.1, some e.2))

theorem get_ofEntries {entries : List (κ × ν)} (hn : (entries.map Prod.fst).Nodup)
    {k : κ} {v : ν} : (ofEntries entries).get k = some v ↔ (k, v) ∈ entries := by
  have hkeys : (entries.map fun e => (e.1, some e.2)).map Prod.fst = entries.map Prod.fst := by
    rw [List.map_map]
    rfl
  rw [ofEntries, get_ofFields (hkeys ▸ hn)]
  simp [Prod.ext_iff]

theorem get_ofEntries_of_not_mem {entries : List (κ × ν)} {k : κ}
    (h : k ∉ entries.map Prod.fst) : (ofEntries entries).get k = none := by
  apply get_ofFields_of_not_mem
  rw [List.map_map]
  exact h

theorem ofEntries_entries (m : BTreeMap κ ν) : ofEntries m.entries = m := by
  apply ext_get
  intro k
  apply Option.ext
  intro v
  rw [get_ofEntries (m.sorted.imp ne_of_lt), mem_entries]

end BTreeMap

end GreenticEvents.Data
