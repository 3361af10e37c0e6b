import GreenticEvents.Polling
import GreenticEvents.Tenants

/-!
# Publishing with a generated envelope (`publish_event` in `bus.rs`)
-/

namespace GreenticEvents
open Data Effects Prog

/-- What `sample_iter(Alphanumeric).take(12)` drew. -/
structure IdSuffix where
  chars : List Char
  length : chars.length = 12
  alphanumeric : ∀ c ∈ chars, c.isAlphanum = true

/-- `EventId::new`, from `greentic_types`. -/
abbrev EventIdNew := String → Except String EventId

/-- On letters and digits `to_lowercase` is ASCII lower case. -/
def generateEventId (eventIdNew : EventIdNew) (suffix : IdSuffix) : Result EventId :=
  (eventIdNew ("evt-" ++ asciiLowercase (.ofList suffix.chars))).mapError .other

/-- The arguments of a `publish_event`, what it draws and the time it reads. -/
structure GeneratedCall where
  tenant : TenantCtx
  topic : String
  payload : Json
  suffix : IdSuffix
  now : DateTime

def buildEnvelope (eventIdNew : EventIdNew) (call : GeneratedCall) : Result EventEnvelope := do
  let id ← generateEventId eventIdNew call.suffix
  return {
    id := id
    topic := call.topic
    type := "greentic.events.generic"
    source := "greentic-events"
    tenant := call.tenant
    subject := none
    time := call.now
    correlationId := none
    payload := call.payload
    metadata := .empty }

def EventBus.publishEvent (eventIdNew : EventIdNew) (bus : EventBus) (call : GeneratedCall) :
    BusProg (Result Unit) :=
  match buildEnvelope eventIdNew call with
  | .error err => return .error err
  | .ok envelope => bus.publish envelope

/-- `evt-` and twelve small letters and digits. -/
def EventId.Generated (id : EventId) : Prop :=
  ∃ chars : List Char, chars.length = 12 ∧
    (∀ c ∈ chars, c.isLower = true ∨ c.isDigit = true) ∧ id.raw = "evt-" ++ .ofList chars

theorem isUpper_iff {c : Char} : c.isUpper = true ↔ 'A'.val ≤ c.val ∧ c.val ≤ 'Z'.val :=
  decide_eq_true_iff

theorem isLower_toLower {c : Char} (h : c.isUpper = true) : c.toLower.isLower = true := by
  have hrange := isUpper_iff.mp h
  have hval : c.toLower.val = c.val + 32 := by
    show (dite _ _ _ : Char).val = _
    rw [dif_pos hrange]
    rfl
  have hnat : (c.val + 32).toNat = c.val.toNat + 32 := by
    have hle : c.val.toNat ≤ 90 := hrange.2
    rw [UInt32.toNat_add, show UInt32.toNat 32 = 32 from rfl]
    omega
  apply isLower_iff.mpr
  constructor
  · show 97 ≤ c.toLower.val.toNat
    have hle : 65 ≤ c.val.toNat := hrange.1
    rw [hval, hnat]
    omega
  · show c.toLower.val.toNat ≤ 122
    have hle : c.val.toNat ≤ 90 := hrange.2
    rw [hval, hnat]
    omega

theorem toLower_of_not_isUpper {c : Char} (h : ¬ c.isUpper = true) : c.toLower = c := by
  rw [isUpper_iff] at h
  exact dif_neg h

theorem toLower_alphanumeric {c : Char} (h : c.isAlphanum = true) :
    c.toLower.isLower = true ∨ c.toLower.isDigit = true := by
  by_cases hupper : c.isUpper = true
  · exact .inl (isLower_toLower hupper)
  · rw [toLower_of_not_isUpper hupper]
    have halnum : c.isAlphanum = (c.isUpper || c.isLower || c.isDigit) := rfl
    rw [halnum, Bool.eq_false_iff.mpr hupper, Bool.false_or, Bool.or_eq_true] at h
    exact h

section Envelope

variable {eventIdNew : EventIdNew} {call : GeneratedCall} {envelope : EventEnvelope}

theorem generateEventId_generated (hkeeps : ∀ text id, eventIdNew text = .ok id → id.raw = text)
    {suffix : IdSuffix} {id : EventId} (h : generateEventId eventIdNew suffix = .ok id) :
    id.Generated := by
  refine ⟨suffix.chars.map Char.toLower, ?_, fun c hc => ?_, ?_⟩
  · rw [List.length_map, suffix.length]
  · obtain ⟨c, hmem, rfl⟩ := List.mem_map.mp hc
    exact toLower_alphanumeric (suffix.alphanumeric c hmem)
  · rw [hkeeps _ _ (mapError_ok.mp h), asciiLowercase, String.toList_ofList]

structure BuiltFrom (call : GeneratedCall) (envelope : EventEnvelope) : Prop where
  id : envelope.id.Generated
  topic : envelope.topic = call.topic
  tenant : envelope.tenant = call.tenant
  payload : envelope.payload = call.payload
  unkeyed : envelope.metadata.get "idempotency_key" = none

theorem buildEnvelope_builtFrom (hkeeps : ∀ text id, eventIdNew text = .ok id → id.raw = text)
    (h : buildEnvelope eventIdNew call = .ok envelope) : BuiltFrom call envelope := by
  obtain ⟨id, hid, h⟩ := except_bind_ok.mp h
  obtain rfl := Except.ok.inj h
  exact ⟨generateEventId_generated hkeeps hid, rfl, rfl, rfl, rfl⟩

end Envelope

inductive PublishCall where
  | publish (event : EventEnvelope)
  | publishEvent (call : GeneratedCall)

def PublishCall.program (eventIdNew : EventIdNew) (bus : EventBus) :
    PublishCall → BusProg (Result Unit)
  | .publish event => bus.publish event
  | .publishEvent call => bus.publishEvent eventIdNew call

def PublishCall.generated : PublishCall → Bool
  | .publish _ => false
  | .publishEvent _ => true

section Histories

variable {eventIdNew : EventIdNew} {bus : EventBus} {call : GeneratedCall} {h : BusHistory}
  {q : BusProg (Result Unit)}

theorem PublishTrace.unkeyed {event : EventEnvelope} {f : Footprint} {v : Option (Result Unit)}
    (ht : PublishTrace bus event f v) (hnone : event.metadata.get "idempotency_key" = none) :
    f.keys = [] ∧ ∀ key, v ≠ some (.error (.duplicate key)) := by
  cases ht with
  | start => exact ⟨rfl, by simp⟩
  | counted => exact ⟨rfl, by simp⟩
  | denied refused =>
    obtain rfl := TopicAcl.check_error refused
    exact ⟨rfl, by simp⟩
  | unrouted _ unrouted =>
    obtain rfl := providerForTopic_error unrouted
    exact ⟨rfl, by simp⟩
  | duplicate _ _ key hkey => cases hnone.symm.trans hkey
  | passed provider ha hd =>
    have hpassed : passedKeys event = [] := by rw [passedKeys, hnone]
    refine ⟨by rw [hpassed, hd.keys_nil, List.append_nil], ?_⟩
    cases hd <;> simp

/-- A call that got its envelope publishes it, any other asks nothing. -/
theorem publishEvent_runs (hr : Runs (bus.publishEvent eventIdNew call) h q) :
    (∃ envelope, buildEnvelope eventIdNew call = .ok envelope ∧ Runs (bus.publish envelope) h q) ∨
      h = [] ∧ ∃ err, q = .ret (.error (.other err)) := by
  unfold EventBus.publishEvent at hr
  cases hbuilt : buildEnvelope eventIdNew call with
  | ok envelope =>
    rw [hbuilt] at hr
    exact .inl ⟨envelope, rfl, hr⟩
  | error err =>
    rw [hbuilt] at hr
    obtain ⟨rfl, rfl⟩ := runs_ret.mp hr
    right
    rcases except_bind_error.mp hbuilt with hid | ⟨id, -, hid⟩
    · unfold generateEventId at hid
      cases hnew : eventIdNew ("evt-" ++ asciiLowercase (.ofList call.suffix.chars)) with
      | ok id =>
        rw [hnew] at hid
        cases hid
      | error text =>
        rw [hnew] at hid
        cases hid
        exact ⟨rfl, text, rfl⟩
    · cases hid

end Histories

/-- What `publish_event` may do: it checks no key and reports no duplicate, and its provider is
given attempts at one envelope, built from the arguments, and the dead letter of that envelope. -/
structure AsGenerated (bus : EventBus) (call : GeneratedCall) (h : BusHistory)
    (v : Option (Result Unit)) : Prop where
  unchecked : keyChecks h = []
  noDuplicate : ∀ key, v ≠ some (.error (.duplicate key))
  oneEnvelope : calls h = [] ∨
    ∃ envelope, BuiltFrom call envelope ∧ CallsOf bus envelope (calls h)

theorem publishEvent_asGenerated {eventIdNew : EventIdNew} {bus : EventBus} {call : GeneratedCall}
    {h : BusHistory} {q : BusProg (Result Unit)}
    (hkeeps : ∀ text id, eventIdNew text = .ok id → id.raw = text)
    (hr : Runs (bus.publishEvent eventIdNew call) h q) : AsGenerated bus call h q.value? := by
  rcases publishEvent_runs hr with ⟨envelope, hbuilt, hr⟩ | ⟨rfl, err, rfl⟩
  · have hfrom := buildEnvelope_builtFrom hkeeps hbuilt
    obtain ⟨hkeys, hvalue⟩ := (publish_runs hr).unkeyed hfrom.unkeyed
    exact ⟨hkeys, hvalue, .inr ⟨envelope, hfrom, publish_callsOf hr⟩⟩
  · exact ⟨rfl, by simp, .inl rfl⟩

section Mixed

variable {ι σ : Type} [DecidableEq ι] {store : ι → IdempotencyStore σ} {bus : ι → EventBus}
  {eventIdNew : EventIdNew} {call : ι → PublishCall} {s₀ : BusState σ} {log : BusLog ι}
  {c : Config ι (BusState σ) (BusProg (Result Unit))}

/-- A step that checks no key leaves the store as it is. -/
theorem handle_unchecked {store : IdempotencyStore σ} {s s' : BusState σ} {e : Event busInterface}
    (hstep : BusState.handle store s e s') (hnone : keyChecks [e] = []) :
    s'.idempotency = s.idempotency := by
  obtain ⟨o, a⟩ := e
  cases o with
  | recordKey key => cases hnone
  | _ =>
    cases hstep
    rfl

/-- The counters may differ. -/
def SameStore (s t : BusState σ) : Prop := s.idempotency = t.idempotency

/-- Counters apart, a step does the same to states with the same store. -/
theorem handle_same_store {store : IdempotencyStore σ} {s s' t : BusState σ}
    {e : Event busInterface} (hsame : SameStore s t) (hstep : BusState.handle store s e s') :
    ∃ t', BusState.handle store t e t' ∧ SameStore s' t' := by
  unfold SameStore at hsame ⊢
  obtain ⟨o, a⟩ := e
  cases o with
  | recordKey key =>
    obtain ⟨ha, rfl⟩ := hstep
    rw [hsame] at ha
    exact ⟨_, ⟨ha, rfl⟩, by rw [hsame]⟩
  | record m =>
    cases hstep
    exact ⟨_, rfl, hsame⟩
  | _ =>
    cases hstep
    exact ⟨t, rfl, hsame⟩

/-- Calls of `publish_event` beside calls of `publish`, in any interleaving: none checks a key or is
held a duplicate, each gives its provider attempts at one envelope with a generated id and the dead
letter for the last of their errors, and without them the other calls take the same steps and leave
the same store. -/
theorem generated_calls_apart (hkeeps : ∀ text id, eventIdNew text = .ok id → id.raw = text)
    (hr : (busSystem store).Run ⟨s₀, fun i => (call i).program eventIdNew (bus i)⟩ log c) :
    (∀ i generated, call i = .publishEvent generated →
      AsGenerated (bus i) generated (localHistory i log) (c.proc i).value?) ∧
    ∃ c', (busSystem store).Run ⟨s₀, fun i => (call i).program eventIdNew (bus i)⟩
        (restrict (fun i => (call i).generated = false) log) c' ∧
      c'.shared.idempotency = c.shared.idempotency ∧
      ∀ i, (call i).generated = false → c'.proc i = c.proc i := by
  constructor
  · intro i generated hcall
    have hlocal := hr.local i
    dsimp only at hlocal
    rw [hcall] at hlocal
    exact publishEvent_asGenerated hkeeps hlocal
  · have hdropped (i : ι) (h : BusHistory) (e : Event busInterface) (q : BusProg (Result Unit))
        (hi : ¬ (call i).generated = false)
        (hp : Runs ((call i).program eventIdNew (bus i)) (h ++ [e]) q) : keyChecks [e] = [] := by
      cases hcall : call i with
      | publish event =>
        rw [hcall] at hi
        exact absurd rfl hi
      | publishEvent generated =>
        rw [hcall] at hp
        have hnone := (publishEvent_asGenerated hkeeps hp).unchecked
        rw [keyChecks, List.filterMap_append, List.append_eq_nil_iff] at hnone
        exact hnone.2
    have hsame : SameStore s₀ s₀ := rfl
    -- the two runs share the store; the counters go apart with the first call left out
    obtain ⟨c', hr', hsame, hproc⟩ := hr.restricted hsame
      (fun i h e q s s' t _ _ hsame hstep => handle_same_store hsame hstep)
      (fun i h e q s s' t hi hp hsame hstep =>
        (handle_unchecked hstep (hdropped i h e q hi hp)).trans hsame)
      (fun e => e.elim)
    exact ⟨c', hr', hsame.symm, hproc⟩

end Mixed

/-- Twelve times the letter `Q`. -/
def greetingDraws : List Char := List.replicate 12 'Q'

theorem greetingDraws_alphanumeric : ∀ c ∈ greetingDraws, c.isAlphanum = true := by
  intro c hc
  rw [List.eq_of_mem_replicate hc]
  rfl

def greeting : GeneratedCall where
  tenant := tenantA
  topic := "orders"
  payload := .null
  suffix := ⟨greetingDraws, rfl, greetingDraws_alphanumeric⟩
  now := ⟨0⟩

def greetingCalls : Fin 3 → PublishCall
  | 1 => .publishEvent greeting
  | _ => .publish keyedEvent

def greetingOutcome : Outcome busInterface (World InMemoryIdempotencyStore) (Result Unit) :=
  ((greetingCalls 1).program utcCodec.eventId wildcardBus).exec
    (World.answer InMemoryIdempotencyStore.store) (.constant (.ok ()))

theorem utcCodec_keeps (text : String) (id : EventId) (h : utcCodec.eventId text = .ok id) :
    id.raw = text := by
  change (if text.isEmpty then Except.error "empty id" else .ok ⟨text⟩) = Except.ok id at h
  split_ifs at h
  rw [← Except.ok.inj h]

theorem generated_calls_apart_greeting :
    AsGenerated wildcardBus greeting greetingOutcome.history (some (.ok ())) := by
  have hr : (busSystem fun _ : Fin 3 => InMemoryIdempotencyStore.store).Run _ _ _ := Prog.exec_run
    rfl (World.answer InMemoryIdempotencyStore.store) World.toBusState 1
    (World.handle_answer InMemoryIdempotencyStore.store)
    ((greetingCalls 1).program utcCodec.eventId wildcardBus) (.constant (.ok ()))
    (fun i => (greetingCalls i).program utcCodec.eventId wildcardBus) rfl
  have hone := (generated_calls_apart utcCodec_keeps hr).1 1 greeting rfl
  have hvalue : some greetingOutcome.value = some (.ok ()) := rfl
  rw [localHistory_map_act] at hone
  rw [← hvalue]
  simpa [greetingOutcome] using hone

end GreenticEvents
