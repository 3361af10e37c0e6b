import Mathlib.Data.List.Infix
import Mathlib.Logic.Function.Basic
import GreenticEvents.Builder

/-!
# What the annotations of a provider say

The loop over the annotations sets one setting for each well-typed value that it
meets.  What it ends with depends only on the value at each of the six keys.
-/

namespace GreenticEvents
open Data

def retrySettings : List String :=
  ["retry.max_retries", "retry.base_delay_ms", "retry.max_delay_ms", "retry.strategy",
    "retry.retryable_errors"]

/-- The well-typed values at the keys of one provider. -/
structure Annotated where
  dlqTopic : Option String
  maxRetries : Option UInt64
  baseDelayMs : Option UInt64
  maxDelayMs : Option UInt64
  strategy : Option String
  retryableErrors : Option (List Json)

namespace Annotated

def ofValues (value : String → Option Json) : Annotated where
  dlqTopic := (value "dlq_topic").bind Json.asStr
  maxRetries := (value "retry.max_retries").bind Json.asU64
  baseDelayMs := (value "retry.base_delay_ms").bind Json.asU64
  maxDelayMs := (value "retry.max_delay_ms").bind Json.asU64
  strategy := (value "retry.strategy").bind Json.asStr
  retryableErrors := (value "retry.retryable_errors").bind Json.asArray

/-- The default policy with the annotated settings in place of its own. -/
def policy (a : Annotated) : RetryPolicy where
  maxRetries := (a.maxRetries.map UInt64.toUInt32).getD RetryPolicy.default.maxRetries
  strategy := (a.strategy.map strategyOfText).getD RetryPolicy.default.strategy
  baseDelay := (a.baseDelayMs.map Duration.fromMillis).getD RetryPolicy.default.baseDelay
  maxDelay := (a.maxDelayMs.map Duration.fromMillis).getD RetryPolicy.default.maxDelay
  retryableErrors := (a.retryableErrors.map (List.filterMap Json.asStr)).getD
    RetryPolicy.default.retryableErrors

def setsRetry (a : Annotated) : Bool :=
  a.maxRetries.isSome || a.baseDelayMs.isSome || a.maxDelayMs.isSome || a.strategy.isSome ||
    a.retryableErrors.isSome

def overrides (a : Annotated) : ProviderOverrides :=
  ⟨if a.setsRetry then some a.policy else none, a.dlqTopic⟩

/-- Whatever makes the loop create a policy, it starts from the default. -/
theorem retry_getD (a : Annotated) : a.overrides.retry.getD .default = a.policy := by
  unfold overrides
  split_ifs with h
  · rfl
  · simp only [setsRetry, Bool.or_eq_true, not_or, Option.not_isSome_iff_eq_none] at h
    obtain ⟨⟨⟨⟨hmax, hbase⟩, hcap⟩, hstrategy⟩, herrors⟩ := h
    simp [policy, hmax, hbase, hcap, hstrategy, herrors, RetryPolicy.default]

theorem setRetry_overrides (a b : Annotated) {f : RetryPolicy → RetryPolicy}
    (hf : f a.policy = b.policy) (hb : b.setsRetry = true) (hdlq : a.dlqTopic = b.dlqTopic) :
    a.overrides.setRetry f = b.overrides := by
  rw [ProviderOverrides.setRetry, retry_getD, hf]
  simp [overrides, hb, hdlq]

end Annotated

open Annotated in
/-- One annotation more: the loop's step follows what is read at its key. -/
theorem applyAnnotation_ofValues {value : String → Option Json} {suffix : String}
    (hnew : value suffix = none) (v : Json) :
    applyAnnotation (ofValues value).overrides suffix v =
      (ofValues (Function.update value suffix (some v))).overrides := by
  by_cases hdlq : suffix = "dlq_topic"
  · subst hdlq
    cases hv : v.asStr <;>
      simp [hv, applyAnnotation, overrides, setsRetry, policy, ofValues, hnew]
  by_cases hretry : suffix ∈ retrySettings
  · simp only [retrySettings, List.mem_cons, List.not_mem_nil, or_false] at hretry
    -- a value of the right type starts or updates the policy, and another one is passed over
    rcases hretry with rfl | rfl | rfl | rfl | rfl
    all_goals
      simp only [ofValues, applyAnnotation]
      split
      · apply setRetry_overrides <;> simp [policy, setsRetry, *]
      · simp [*]
  · have hother : applyAnnotation (ofValues value).overrides suffix v =
        (ofValues value).overrides := by
      simp only [retrySettings, List.mem_cons, List.not_mem_nil, or_false, not_or] at hretry
      simp [hretry, applyAnnotation]
    have hsame (key : String) (hkey : key = "dlq_topic" ∨ key ∈ retrySettings) :
        Function.update value suffix (some v) key = value key := by
      apply Function.update_of_ne
      rintro rfl
      exact hkey.elim hdlq hretry
    rw [hother]
    simp [ofValues, hsame, retrySettings]

theorem afterStart_eq_some {pre key suffix : String} :
    afterStart pre key = some suffix ↔ key = pre ++ suffix := by
  unfold afterStart
  rw [← String.toList_inj, String.toList_append]
  split_ifs with h
  · obtain ⟨rest, hrest⟩ := h
    rw [← hrest, List.drop_left, Option.some_inj, List.append_cancel_left_eq,
      ← String.toList_inj, String.toList_ofList]
  · refine iff_of_false (by simp) fun hkey => h ?_
    rw [hkey]
    exact List.prefix_append ..

def annotationStep (pre : String) (ov : ProviderOverrides) (entry : String × Json) :
    ProviderOverrides :=
  match afterStart pre entry.1 with
  | some suffix => applyAnnotation ov suffix entry.2
  | none => ov

/-- What the entries say is what all but the last say, and the last at its key. -/
theorem values_before_last {pre suffix : String} {v : Json} {entries : List (String × Json)}
    (hnew : ∀ v', (pre ++ suffix, v') ∉ entries) {value : String → Option Json}
    (hvalue : ∀ s v', value s = some v' ↔ (pre ++ s, v') ∈ entries ++ [(pre ++ suffix, v)]) :
    ∃ before : String → Option Json, before suffix = none ∧
      (∀ s v', before s = some v' ↔ (pre ++ s, v') ∈ entries) ∧
      value = Function.update before suffix (some v) := by
  refine ⟨fun s => if s = suffix then none else value s, if_pos rfl, fun s v' => ?_, ?_⟩
  · by_cases hs : s = suffix
    · subst hs
      simp [hnew]
    · simp [hs, hvalue, String.append_right_inj]
  · funext s
    by_cases hs : s = suffix
    · subst hs
      rw [Function.update_self, hvalue]
      simp
    · rw [Function.update_of_ne hs, if_neg hs]

/-- After the loop the overrides are what the entries say, in whatever order they came. -/
theorem foldl_annotationStep {pre : String} {entries : List (String × Json)}
    (hdistinct : (entries.map Prod.fst).Nodup) {value : String → Option Json}
    (hvalue : ∀ suffix v, value suffix = some v ↔ (pre ++ suffix, v) ∈ entries) :
    entries.foldl (annotationStep pre) ⟨none, none⟩ = (Annotated.ofValues value).overrides := by
  -- from the entry that came last
  induction entries using List.reverseRecOn generalizing value with
  | nil =>
    have hnone : value = fun _ => none := by
      funext suffix
      rw [Option.eq_none_iff_forall_ne_some]
      intro v hv
      exact absurd ((hvalue suffix v).mp hv) List.not_mem_nil
    rw [hnone]
    rfl
  | append_singleton entries entry ih =>
    obtain ⟨key, v⟩ := entry
    rw [List.map_append, List.nodup_append] at hdistinct
    obtain ⟨hentries, -, hne⟩ := hdistinct
    rw [List.foldl_append, List.foldl_cons, List.foldl_nil, annotationStep]
    cases hafter : afterStart pre key with
    | none =>
      dsimp only
      refine ih hentries fun suffix v' => ?_
      have hkey : pre ++ suffix ≠ key := fun h => by
        rw [afterStart_eq_some.mpr h.symm] at hafter
        cases hafter
      rw [hvalue, List.mem_append, List.mem_singleton, or_iff_left]
      exact fun h => hkey (congrArg Prod.fst h)
    | some suffix =>
      obtain rfl := afterStart_eq_some.mp hafter
      have hnew (v' : Json) : (pre ++ suffix, v') ∉ entries := fun hmem =>
        hne _ (List.mem_map_of_mem hmem) (pre ++ suffix) (by simp) rfl
      obtain ⟨before, hnone, hbefore, hlast⟩ := values_before_last hnew hvalue
      dsimp only
      rw [ih hentries hbefore, applyAnnotation_ofValues hnone, hlast]

def settingKey (name setting : String) : String := "events.providers." ++ name ++ "." ++ setting

def annotatedValue (annotations : BTreeMap String Json) (name setting : String) : Option Json :=
  annotations.get (settingKey name setting)

/-- The overrides from the entries in the order given. -/
def overridesInOrder (name : String) (entries : List (String × Json)) : Option ProviderOverrides :=
  let ov := entries.foldl (annotationStep ("events.providers." ++ name ++ ".")) ⟨none, none⟩
  if ov.retry.isSome || ov.dlqTopic.isSome then some ov else none

variable {name : String} {annotations : BTreeMap String Json}

theorem overridesInOrder_eq {entries : List (String × Json)}
    (h : entries.Perm annotations.entries) :
    overridesInOrder name entries =
      let ov := (Annotated.ofValues (annotatedValue annotations name)).overrides
      if ov.retry.isSome || ov.dlqTopic.isSome then some ov else none := by
  have hdistinct : (entries.map Prod.fst).Nodup := by
    rw [(h.map Prod.fst).nodup_iff]
    exact annotations.sorted.imp ne_of_lt
  have hvalue (suffix : String) (v : Json) : annotatedValue annotations name suffix = some v ↔
      ("events.providers." ++ name ++ "." ++ suffix, v) ∈ entries := by
    exact annotations.mem_entries.symm.trans h.mem_iff.symm
  unfold overridesInOrder
  rw [foldl_annotationStep hdistinct hvalue]

theorem providerOverridesFromAnnotations_eq :
    providerOverridesFromAnnotations name annotations =
      overridesInOrder name annotations.entries := by
  unfold providerOverridesFromAnnotations overridesInOrder annotationStep
  rfl

def annotatedRetry (name : String) (annotations : BTreeMap String Json) : RetryPolicy :=
  ((providerOverridesFromAnnotations name annotations).bind ProviderOverrides.retry).getD .default

theorem annotatedRetry_eq :
    annotatedRetry name annotations =
      (Annotated.ofValues (annotatedValue annotations name)).policy := by
  rw [← Annotated.retry_getD, annotatedRetry, providerOverridesFromAnnotations_eq,
    overridesInOrder_eq (.refl _)]
  dsimp only
  split_ifs with h
  · rfl
  · rw [Bool.or_eq_true, not_or, Option.not_isSome_iff_eq_none] at h
    rw [h.1]
    rfl

/-- A well-typed retry setting makes the overrides carry the policy that the values say. -/
theorem overrides_of_setsRetry {field : RetryPolicy → Duration} {delay : Duration}
    (hset : (Annotated.ofValues (annotatedValue annotations name)).setsRetry = true)
    (hfield : field (Annotated.ofValues (annotatedValue annotations name)).policy = delay) :
    ∃ ov retry, providerOverridesFromAnnotations name annotations = some ov ∧
      ov.retry = some retry ∧ field retry = delay := by
  refine ⟨(Annotated.ofValues (annotatedValue annotations name)).overrides, _, ?_, ?_, hfield⟩
  · rw [providerOverridesFromAnnotations_eq, overridesInOrder_eq (.refl _)]
    simp [Annotated.overrides, hset]
  · simp [Annotated.overrides, hset]

/-- The delays are the annotated ones, what is missing or ill-typed keeps its default, and
the order of the entries does not matter. -/
structure DecodedFaithfully (name : String) (annotations : BTreeMap String Json) : Prop where
  baseDelay : ∀ ms, (annotatedValue annotations name "retry.base_delay_ms").bind Json.asU64 =
    some ms → ∃ ov retry, providerOverridesFromAnnotations name annotations = some ov ∧
      ov.retry = some retry ∧ retry.baseDelay = .fromMillis ms
  maxDelay : ∀ ms, (annotatedValue annotations name "retry.max_delay_ms").bind Json.asU64 =
    some ms → ∃ ov retry, providerOverridesFromAnnotations name annotations = some ov ∧
      ov.retry = some retry ∧ retry.maxDelay = .fromMillis ms
  defaultRetries : (annotatedValue annotations name "retry.max_retries").bind Json.asU64 = none →
    (annotatedRetry name annotations).maxRetries = RetryPolicy.default.maxRetries
  defaultBase : (annotatedValue annotations name "retry.base_delay_ms").bind Json.asU64 = none →
    (annotatedRetry name annotations).baseDelay = RetryPolicy.default.baseDelay
  defaultMax : (annotatedValue annotations name "retry.max_delay_ms").bind Json.asU64 = none →
    (annotatedRetry name annotations).maxDelay = RetryPolicy.default.maxDelay
  defaultStrategy : (annotatedValue annotations name "retry.strategy").bind Json.asStr = none →
    (annotatedRetry name annotations).strategy = RetryPolicy.default.strategy
  defaultErrors : (annotatedValue annotations name "retry.retryable_errors").bind Json.asArray =
    none → (annotatedRetry name annotations).retryableErrors = RetryPolicy.default.retryableErrors
  anyOrder : ∀ entries, entries.Perm annotations.entries →
    overridesInOrder name entries = providerOverridesFromAnnotations name annotations

theorem decodedFaithfully (name : String) (annotations : BTreeMap String Json) :
    DecodedFaithfully name annotations where
  baseDelay ms h := by
    apply overrides_of_setsRetry
    · simp [Annotated.setsRetry, Annotated.ofValues, h]
    · simp [Annotated.policy, Annotated.ofValues, h]
  maxDelay ms h := by
    apply overrides_of_setsRetry
    · simp [Annotated.setsRetry, Annotated.ofValues, h]
    · simp [Annotated.policy, Annotated.ofValues, h]
  defaultRetries h := by simp [annotatedRetry_eq, Annotated.policy, Annotated.ofValues, h]
  defaultBase h := by simp [annotatedRetry_eq, Annotated.policy, Annotated.ofValues, h]
  defaultMax h := by simp [annotatedRetry_eq, Annotated.policy, Annotated.ofValues, h]
  defaultStrategy h := by simp [annotatedRetry_eq, Annotated.policy, Annotated.ofValues, h]
  defaultErrors h := by simp [annotatedRetry_eq, Annotated.policy, Annotated.ofValues, h]
  anyOrder entries h := by
    rw [providerOverridesFromAnnotations_eq, overridesInOrder_eq h, overridesInOrder_eq (.refl _)]

def providerSettings : List String := "dlq_topic" :: retrySettings

theorem dot_setting_not_suffix {setting setting' : String} (h : setting ∈ providerSettings)
    (h' : setting' ∈ providerSettings) : ¬ '.' :: setting'.toList <:+ setting.toList := by
  have hall : ∀ s ∈ providerSettings, ∀ s' ∈ providerSettings, ¬ '.' :: s'.toList <:+ s.toList := by
    decide
  exact hall setting h setting' h'

/-- Where one name goes on after the other, the rest would have to end a setting. -/
theorem name_of_append {name name' setting setting' : List Char}
    (h : name ++ '.' :: setting = name' ++ '.' :: setting')
    (hsuffix : ¬ '.' :: setting' <:+ setting) (hsuffix' : ¬ '.' :: setting <:+ setting') :
    name = name' := by
  rcases List.append_eq_append_iff.mp h with ⟨x, rfl, hx⟩ | ⟨x, rfl, hx⟩
  · cases x with
    | nil => exact (List.append_nil _).symm
    | cons c x =>
      rw [List.cons_append, List.cons.injEq] at hx
      exact absurd ⟨x, hx.2.symm⟩ hsuffix
  · cases x with
    | nil => exact List.append_nil _
    | cons c x =>
      rw [List.cons_append, List.cons.injEq] at hx
      exact absurd ⟨x, hx.2.symm⟩ hsuffix'

theorem toList_key (pre name setting : String) :
    (pre ++ name ++ "." ++ setting).toList =
      pre.toList ++ (name.toList ++ '.' :: setting.toList) := by
  simp

/-- No key is read as a setting of two providers, whatever dots their names have. -/
theorem settingKey_name {name name' setting setting' : String} (h : setting ∈ providerSettings)
    (h' : setting' ∈ providerSettings)
    (hkey : settingKey name setting = settingKey name' setting') : name = name' := by
  unfold settingKey at hkey
  generalize "events.providers." = pre at hkey
  have hlist := congrArg String.toList hkey
  rw [toList_key, toList_key, List.append_cancel_left_eq] at hlist
  apply String.toList_inj.mp
  exact name_of_append hlist (dot_setting_not_suffix h h') (dot_setting_not_suffix h' h)

/-- The overrides of a provider come from the values of its six settings. -/
theorem overrides_congr {annotations' : BTreeMap String Json}
    (h : ∀ setting ∈ providerSettings,
      annotatedValue annotations' name setting = annotatedValue annotations name setting) :
    providerOverridesFromAnnotations name annotations' =
      providerOverridesFromAnnotations name annotations := by
  have hvalues : Annotated.ofValues (annotatedValue annotations' name) =
      Annotated.ofValues (annotatedValue annotations name) := by
    simp only [providerSettings, retrySettings, List.forall_mem_cons] at h
    obtain ⟨hdlq, hmax, hbase, hcap, hstrategy, herrors, -⟩ := h
    simp only [Annotated.ofValues, hdlq, hmax, hbase, hcap, hstrategy, herrors]
  rw [providerOverridesFromAnnotations_eq, providerOverridesFromAnnotations_eq,
    overridesInOrder_eq (.refl _), overridesInOrder_eq (.refl _), hvalues]

/-- Maps that differ at a setting of one provider only give the other providers the same
overrides. -/
theorem other_provider_unchanged {other setting : String} (hne : name ≠ other)
    (hsetting : setting ∈ providerSettings) {annotations' : BTreeMap String Json}
    (hedit : ∀ key, key ≠ settingKey name setting → annotations'.get key = annotations.get key) :
    providerOverridesFromAnnotations other annotations' =
      providerOverridesFromAnnotations other annotations := by
  apply overrides_congr
  intro setting' hsetting'
  apply hedit
  intro hkey
  exact hne (settingKey_name hsetting' hsetting hkey).symm

/-- A new budget of `mail` is none of `mail.retry`, though the key goes on with that name. -/
theorem other_provider_unchanged_mail :
    providerOverridesFromAnnotations "mail.retry"
        (BTreeMap.empty.insert (settingKey "mail" "retry.max_retries") (.number (.posInt 5))) =
      providerOverridesFromAnnotations "mail.retry" .empty := by
  have hmail : "retry.max_retries" ∈ providerSettings := by decide
  apply other_provider_unchanged (show "mail" ≠ "mail.retry" by decide) hmail
  intro key hkey
  exact BTreeMap.get_insert_of_ne _ hkey _

def withMaxRetries (name : String) (annotations : BTreeMap String Json) (n : UInt64) :
    BTreeMap String Json :=
  annotations.insert (settingKey name "retry.max_retries") (.number (.posInt n))

def attemptsAllowed (policy : RetryPolicy) : ℕ := policy.maxRetries.toNat + 1

/-- The budget is the annotated one modulo `2 ^ 32`. -/
theorem attemptsAllowed_withMaxRetries (name : String) (annotations : BTreeMap String Json)
    (n : UInt64) :
    attemptsAllowed (annotatedRetry name (withMaxRetries name annotations n)) =
      n.toNat % 2 ^ 32 + 1 := by
  have hvalue : annotatedValue (withMaxRetries name annotations n) name "retry.max_retries" =
      some (.number (.posInt n)) := BTreeMap.get_insert_self ..
  rw [attemptsAllowed, annotatedRetry_eq]
  simp [Annotated.policy, Annotated.ofValues, hvalue, Json.asU64]

/-- All annotated settings are decoded faithfully, and of two budgets the larger one allows
no fewer attempts exactly when it does not fall behind modulo `2 ^ 32`. -/
theorem annotations_faithful_iff (name : String) (annotations : BTreeMap String Json)
    (n m : UInt64) :
    DecodedFaithfully name annotations ∧
        (n ≤ m → attemptsAllowed (annotatedRetry name (withMaxRetries name annotations n)) ≤
          attemptsAllowed (annotatedRetry name (withMaxRetries name annotations m))) ↔
      (n ≤ m → n.toNat % 2 ^ 32 ≤ m.toNat % 2 ^ 32) := by
  rw [and_iff_right (decodedFaithfully name annotations)]
  simp only [attemptsAllowed_withMaxRetries, Nat.add_le_add_iff_right]

/-- A budget of `2 ^ 32` retries allows one attempt, a budget of 5 six. -/
theorem larger_budget_fewer_attempts :
    ¬ ∀ (name : String) (annotations : BTreeMap String Json) (n m : UInt64),
      DecodedFaithfully name annotations ∧
        (n ≤ m → attemptsAllowed (annotatedRetry name (withMaxRetries name annotations n)) ≤
          attemptsAllowed (annotatedRetry name (withMaxRetries name annotations m))) := by
  intro hall
  have hle := (hall "mail" .empty 5 4294967296).2 (by decide)
  rw [attemptsAllowed_withMaxRetries, attemptsAllowed_withMaxRetries] at hle
  exact absurd hle (by decide)

end GreenticEvents
