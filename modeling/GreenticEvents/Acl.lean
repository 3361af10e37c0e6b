import GreenticEvents.Types
import GreenticEvents.Pattern
import GreenticEvents.Topic

/-!
# Topic access control (`acl.rs`)
-/

namespace GreenticEvents
open Data

structure TopicAclRule where
  tenantPattern : String
  topicPattern : String
  allowPublish : Bool
  allowSubscribe : Bool

def TopicAclRule.matches (rule : TopicAclRule) (tenant : TenantCtx) (topic : String) : Bool :=
  matchesPattern rule.tenantPattern tenant.tenant.raw && matchesPattern rule.topicPattern topic

structure TopicAcl where
  rules : List TopicAclRule
  defaultAllow : Bool

namespace TopicAcl

/-- The permission of the first rule that matches, or the default. -/
def decision (acl : TopicAcl) (permission : TopicAclRule → Bool) (tenant : TenantCtx)
    (topic : String) : Bool :=
  ((acl.rules.find? fun rule => rule.matches tenant topic).map permission).getD acl.defaultAllow

def check (acl : TopicAcl) (permission : TopicAclRule → Bool) (operation : String)
    (tenant : TenantCtx) (topic : String) : Result Unit :=
  if acl.decision permission tenant topic then .ok ()
  else .error (.aclDenied tenant.tenant.raw topic operation)

def allowPublish (acl : TopicAcl) : TenantCtx → String → Result Unit :=
  acl.check TopicAclRule.allowPublish "publish"

def allowSubscribe (acl : TopicAcl) : TenantCtx → String → Result Unit :=
  acl.check TopicAclRule.allowSubscribe "subscribe"

theorem check_ok {acl : TopicAcl} {permission : TopicAclRule → Bool} {operation : String}
    {tenant : TenantCtx} {topic : String} :
    acl.check permission operation tenant topic = .ok () ↔
      acl.decision permission tenant topic = true := by
  unfold check
  split_ifs with h <;> simp [h]

theorem allowSubscribe_ok {acl : TopicAcl} {tenant : TenantCtx} {topic : String} :
    acl.allowSubscribe tenant topic = .ok () ↔
      acl.decision TopicAclRule.allowSubscribe tenant topic = true :=
  check_ok

theorem check_error {acl : TopicAcl} {permission : TopicAclRule → Bool} {operation : String}
    {tenant : TenantCtx} {topic : String} {err : EventBusError}
    (h : acl.check permission operation tenant topic = .error err) :
    err = .aclDenied tenant.tenant.raw topic operation := by
  unfold check at h
  split_ifs at h
  exact (Except.error.inj h).symm

def denying (topic : String) : TopicAcl where
  rules := [{ tenantPattern := "*", topicPattern := topic, allowPublish := true,
              allowSubscribe := false }]
  defaultAllow := true

theorem denying_decision {topic : String} (hc : Concrete topic) (tenant : TenantCtx) (t : String) :
    (denying topic).decision TopicAclRule.allowSubscribe tenant t = true ↔ t ≠ topic := by
  have hm : (TopicAclRule.mk "*" topic true false).matches tenant t = true ↔ t = topic := by
    rw [TopicAclRule.matches, matchesPattern_star, Bool.true_and]
    exact matchesPattern_concrete hc t
  unfold decision denying
  cases hb : (TopicAclRule.mk "*" topic true false).matches tenant t with
  | true =>
    obtain rfl := hm.mp hb
    simp [hb]
  | false => simp [hb, mt hm.mpr (Bool.eq_false_iff.mp hb)]

/-- If `p` passes the check, so does every concrete topic that `p` covers. -/
def CoversOnlyAllowed (acl : TopicAcl) (tenant : TenantCtx) (p : String) : Prop :=
  acl.allowSubscribe tenant p = .ok () →
    ∀ t, Concrete t → matchesPattern p t = true → acl.allowSubscribe tenant t = .ok ()

/-- A decision has a rule or the default behind it, and no earlier rule that applies. -/
theorem decision_eq {b : Bool} {acl : TopicAcl} {permission : TopicAclRule → Bool}
    {tenant : TenantCtx} {t : String} : acl.decision permission tenant t = b ↔
      (∃ before rule after, acl.rules = before ++ rule :: after ∧ permission rule = b ∧
        rule.matches tenant t = true ∧ ∀ r ∈ before, r.matches tenant t = false) ∨
      acl.defaultAllow = b ∧ ∀ r ∈ acl.rules, r.matches tenant t = false := by
  have hunmatched (l : List TopicAclRule) :
      (∀ r ∈ l, (!r.matches tenant t) = true) ↔ ∀ r ∈ l, r.matches tenant t = false := by
    simp only [Bool.not_eq_true']
  -- `find?` gives the first rule that applies, and says that none before it does
  unfold decision
  cases hfind : acl.rules.find? fun rule => rule.matches tenant t with
  | none =>
    have hnone := List.find?_eq_none.mp hfind
    simp only [Bool.not_eq_true] at hnone
    constructor
    · intro hdefault
      exact .inr ⟨hdefault, hnone⟩
    · rintro (⟨before, rule, after, hrules, _, hm, _⟩ | ⟨hdefault, _⟩)
      · have hmem : rule ∈ acl.rules := hrules ▸ by simp
        exact absurd hm (by simp [hnone rule hmem])
      · exact hdefault
  | some rule =>
    obtain ⟨hm, before, after, hrules, hearlier⟩ := List.find?_eq_some_iff_append.mp hfind
    rw [hunmatched] at hearlier
    constructor
    · intro hrule
      exact .inl ⟨before, rule, after, hrules, hrule, hm, hearlier⟩
    · rintro (⟨before', rule', after', hrules', hrule, hm', hearlier'⟩ | ⟨_, hnone⟩)
      · have hfirst : acl.rules.find? (fun rule => rule.matches tenant t) = some rule' :=
          List.find?_eq_some_iff_append.mpr
            ⟨hm', before', after', hrules', (hunmatched before').mpr hearlier'⟩
        cases hfind.symm.trans hfirst
        exact hrule
      · have hmem : rule ∈ acl.rules := hrules ▸ by simp
        exact absurd hm (by simp [hnone rule hmem])

/-- On the concrete topics of `p` an earlier rule comes before every denying rule,
and some rule before a denying default. -/
structure Shielded (acl : TopicAcl) (tenant : TenantCtx) (p : String) : Prop where
  rules : ∀ before rule after, acl.rules = before ++ rule :: after → rule.allowSubscribe = false →
    ∀ t, Concrete t → matchesPattern p t = true → rule.matches tenant t = true →
      ∃ r ∈ before, r.matches tenant t = true
  fallback : acl.defaultAllow = false → ∀ t, Concrete t → matchesPattern p t = true →
    ∃ r ∈ acl.rules, r.matches tenant t = true

theorem shielded_iff {acl : TopicAcl} {tenant : TenantCtx} {p : String} :
    acl.Shielded tenant p ↔
      ∀ t, Concrete t → matchesPattern p t = true → acl.allowSubscribe tenant t = .ok () := by
  constructor
  · intro hs t hc hm
    rw [allowSubscribe_ok, ← Bool.not_eq_false]
    intro hdeny
    rcases decision_eq.mp hdeny with ⟨before, rule, after, hrules, hno, hrule, hearlier⟩ |
      ⟨hdefault, hnone⟩
    · obtain ⟨r, hr, hfirst⟩ := hs.rules before rule after hrules hno t hc hm hrule
      exact absurd hfirst (by simp [hearlier r hr])
    · obtain ⟨r, hr, happlies⟩ := hs.fallback hdefault t hc hm
      exact absurd happlies (by simp [hnone r hr])
  · intro hall
    have hnot (t : String) (hc : Concrete t) (hm : matchesPattern p t = true) :
        acl.decision TopicAclRule.allowSubscribe tenant t ≠ false := by
      rw [allowSubscribe_ok.mp (hall t hc hm)]
      exact Bool.noConfusion
    constructor
    · intro before rule after hrules hno t hc hm hrule
      -- without an earlier rule the denying one decides
      by_contra hnone
      refine hnot t hc hm (decision_eq.mpr (.inl ⟨before, rule, after, hrules, hno, hrule, ?_⟩))
      intro r hr
      exact Bool.eq_false_iff.mpr fun happlies => hnone ⟨r, hr, happlies⟩
    · intro hdefault t hc hm
      by_contra hnone
      refine hnot t hc hm (decision_eq.mpr (.inr ⟨hdefault, ?_⟩))
      intro r hr
      exact Bool.eq_false_iff.mpr fun happlies => hnone ⟨r, hr, happlies⟩

/-- An argument without wildcards is protected whatever the rules, and no other
argument is; under given rules, one that passes is protected exactly when the
rules shield it. -/
theorem coversOnlyAllowed_iff (tenant : TenantCtx) (p : String) :
    ((∀ acl : TopicAcl, acl.CoversOnlyAllowed tenant p) ↔ Concrete p) ∧
    ∀ acl : TopicAcl, acl.CoversOnlyAllowed tenant p ↔
      (acl.allowSubscribe tenant p = .ok () → acl.Shielded tenant p) := by
  refine ⟨⟨fun h => ?_, fun hp acl hpass t _ hm => ?_⟩, fun acl => ?_⟩
  · -- deny one topic that `p` covers
    by_contra hp
    have hne : p ≠ instantiate p := fun he => hp (he ▸ instantiate_concrete p)
    have hc := instantiate_concrete p
    have hpass := allowSubscribe_ok.mpr ((denying_decision hc tenant p).mpr hne)
    have hcov := h (denying (instantiate p)) hpass _ hc (matchesPattern_instantiate p)
    exact (denying_decision hc tenant _).mp (allowSubscribe_ok.mp hcov) rfl
  · rw [(matchesPattern_concrete hp t).mp hm]
    exact hpass
  · rw [shielded_iff]
    rfl

/-- Subscribing to `*` passes an ACL that denies the topic `secret`. -/
theorem wildcard_subscription_leaks :
    ¬ (denying "secret").CoversOnlyAllowed ⟨"dev", ⟨"tenant-a", by decide⟩, .null⟩ "*" := by
  intro h
  have hcov := h (by decide) "secret" (by decide) (by decide)
  exact absurd hcov (by decide)

end TopicAcl

theorem isIdChar_ascii {c : Char} (h : isIdChar c = true) : c.toNat < 128 := by
  have hbelow {d : Char} (hd : c ≤ d) : c.toNat ≤ d.toNat := UInt32.le_iff_toNat_le.mp hd
  have hZ : 'Z'.toNat = 90 := rfl
  have hz : 'z'.toNat = 122 := rfl
  have h9 : '9'.toNat = 57 := rfl
  rcases isIdChar_iff.mp h with ⟨-, h⟩ | ⟨-, h⟩ | ⟨-, h⟩ | rfl | rfl | rfl
  · have := hbelow h
    omega
  · have := hbelow h
    omega
  · have := hbelow h
    omega
  all_goals decide

theorem isIdChar_of_isSegmentChar {c : Char} (h : isSegmentChar c = true) :
    isIdChar c = true := by
  have halnum : c.isAlphanum = (c.isUpper || c.isLower || c.isDigit) := rfl
  simp only [isSegmentChar, isLowerOrDigit, isIdChar, halnum, Bool.or_eq_true] at h ⊢
  tauto

/-- A pattern's matches among the strings over identifier characters are its language. -/
theorem matchesPattern_id {pattern value : String} (h : ∀ c ∈ value.toList, isIdChar c = true) :
    matchesPattern pattern value = true ↔ Glob '*' '?' pattern.toList value.toList := by
  apply matchesPattern_iff_glob fun c hc => isIdChar_ascii (h c hc)
  intro hstar
  exact absurd (h '*' hstar) (by decide)

/-- The languages of the rule's patterns contain the tenant id and the topic. -/
def TopicAclRule.Covers (rule : TopicAclRule) (tenant : TenantCtx) (topic : String) : Prop :=
  Glob '*' '?' rule.tenantPattern.toList tenant.tenant.raw.toList ∧
    Glob '*' '?' rule.topicPattern.toList topic.toList

theorem TopicAclRule.matches_iff_covers {rule : TopicAclRule} {tenant : TenantCtx} {topic : String}
    (ht : isValidEventTopic topic = true) :
    rule.matches tenant topic = true ↔ rule.Covers tenant topic := by
  rw [TopicAclRule.matches, Bool.and_eq_true, matchesPattern_id, matchesPattern_id]
  · rfl
  · intro c hc
    rcases isValidEventTopic_chars ht c hc with rfl | hc
    · decide
    · exact isIdChar_of_isSegmentChar hc
  · exact List.all_eq_true.mp tenant.tenant.valid

namespace TopicAcl

/-- The first covering rule has the permission, or no rule covers and the default allows. -/
def Permits (acl : TopicAcl) (permission : TopicAclRule → Bool) (tenant : TenantCtx)
    (topic : String) : Prop :=
  (∃ before rule after, acl.rules = before ++ rule :: after ∧ permission rule = true ∧
    rule.Covers tenant topic ∧ ∀ r ∈ before, ¬ r.Covers tenant topic) ∨
  acl.defaultAllow = true ∧ ∀ r ∈ acl.rules, ¬ r.Covers tenant topic

theorem check_ok_iff_permits {acl : TopicAcl} {permission : TopicAclRule → Bool}
    {operation : String} {tenant : TenantCtx} {topic : String}
    (ht : isValidEventTopic topic = true) :
    acl.check permission operation tenant topic = .ok () ↔
      acl.Permits permission tenant topic := by
  have hcovers (r : TopicAclRule) : r.matches tenant topic = true ↔ r.Covers tenant topic :=
    TopicAclRule.matches_iff_covers ht
  rw [check_ok, decision_eq]
  simp only [← Bool.not_eq_true, hcovers]
  rfl

/-- Rules after one that matches are never consulted. -/
theorem check_append {acl : TopicAcl} {permission : TopicAclRule → Bool} {operation : String}
    {tenant : TenantCtx} {topic : String} {rule : TopicAclRule} (hrule : rule ∈ acl.rules)
    (hm : rule.matches tenant topic = true) (more : List TopicAclRule) :
    check ⟨acl.rules ++ more, acl.defaultAllow⟩ permission operation tenant topic =
      acl.check permission operation tenant topic := by
  have hsome : (acl.rules.find? fun rule => rule.matches tenant topic).isSome = true :=
    List.find?_isSome.mpr ⟨rule, hrule, hm⟩
  obtain ⟨first, hfirst⟩ := Option.isSome_iff_exists.mp hsome
  simp only [check, decision, List.find?_append, hfirst, Option.some_or]

/-- On topics of the validators' grammar a request is let through exactly when the
first rule whose languages contain it has the permission, or there is no such rule
and the default allows; rules added after such a rule change nothing. -/
theorem allowed_iff_permits (acl : TopicAcl) (tenant : TenantCtx) {topic : String}
    (ht : isValidEventTopic topic = true) :
    (acl.allowPublish tenant topic = .ok () ↔
      acl.Permits TopicAclRule.allowPublish tenant topic) ∧
    (acl.allowSubscribe tenant topic = .ok () ↔
      acl.Permits TopicAclRule.allowSubscribe tenant topic) ∧
    ∀ more, (∃ rule ∈ acl.rules, rule.Covers tenant topic) →
      allowPublish ⟨acl.rules ++ more, acl.defaultAllow⟩ tenant topic =
        acl.allowPublish tenant topic ∧
      allowSubscribe ⟨acl.rules ++ more, acl.defaultAllow⟩ tenant topic =
        acl.allowSubscribe tenant topic := by
  refine ⟨check_ok_iff_permits ht, check_ok_iff_permits ht, fun more hcover => ?_⟩
  obtain ⟨rule, hrule, hcovers⟩ := hcover
  have hm := (TopicAclRule.matches_iff_covers ht).mpr hcovers
  exact ⟨check_append hrule hm more, check_append hrule hm more⟩

/-- The rule of `denying` decides both ways. -/
theorem allowed_iff_permits_denying :
    let tenant : TenantCtx := ⟨"dev", ⟨"tenant-a", by decide⟩, .null⟩
    let acl := denying "orders.created"
    acl.Permits TopicAclRule.allowPublish tenant "orders.created" ∧
      ¬ acl.Permits TopicAclRule.allowSubscribe tenant "orders.created" := by
  intro tenant acl
  have ht : isValidEventTopic "orders.created" = true := by decide
  obtain ⟨hpublish, hsubscribe, -⟩ := allowed_iff_permits acl tenant ht
  refine ⟨hpublish.mp (by decide), fun hpermits => ?_⟩
  exact absurd (hsubscribe.mpr hpermits) (by decide)

end TopicAcl

end GreenticEvents
