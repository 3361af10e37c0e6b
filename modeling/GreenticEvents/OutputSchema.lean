import GreenticEvents.ProviderCodec

namespace GreenticEvents
open Data JsonSchema

def statusSchema : Schema := .allOf [.type .string, .enum ["published", "queued"]]

/-- `publish.output.schema.json` -/
def publishOutputSchema : Schema := .allOf [
  .type .object,
  .properties [
    ("receipt_id", textSchema),
    ("provider_event_id", textSchema),
    ("status", statusSchema),
    ("ts", .type .string)] .never,
  .required ["receipt_id", "status"]]

/-- The schema asks for ids that are not empty, the type does not. -/
structure PublishOutput.Named (output : PublishOutput) : Prop where
  receiptId : output.receiptId ≠ ""
  providerEventId : output.providerEventId ≠ some ""

theorem valid_string {value : Json} :
    (Schema.type .string).Valid Json.view value ↔ ∃ s, value = .string s := by
  rw [valid_type]
  cases value <;> simp [Json.view, Kind.Has]

theorem valid_text {value : Json} :
    textSchema.Valid Json.view value ↔ ∃ s, value = .string s ∧ s ≠ "" := by
  constructor
  · intro h
    obtain ⟨s, rfl⟩ := valid_string.mp (valid_allOf_cons.mp h).1
    exact ⟨s, rfl, valid_textSchema.mp h⟩
  · rintro ⟨s, rfl, hs⟩
    exact valid_textSchema.mpr hs

theorem valid_status {value : Json} :
    statusSchema.Valid Json.view value ↔ ∃ status : PublishStatus, value = status.toJson := by
  constructor
  · intro h
    obtain ⟨hstring, henum, -⟩ := h
    obtain ⟨s, rfl⟩ := valid_string.mp hstring
    have hview : Json.view (.string s) = .string s := rfl
    have hs : s = "published" ∨ s = "queued" := by simpa using (valid_enum hview).mp henum
    rcases hs with rfl | rfl
    · exact ⟨.published, rfl⟩
    · exact ⟨.queued, rfl⟩
  · rintro ⟨status, rfl⟩
    cases status with
    | published => exact ⟨trivial, ⟨"published", by simp, rfl⟩, trivial⟩
    | queued => exact ⟨trivial, ⟨"queued", by simp, rfl⟩, trivial⟩

theorem mem_keys_iff {m : BTreeMap String Json} {name : String} :
    name ∈ m.entries.map Prod.fst ↔ ∃ value, m.get name = some value := by
  simp only [List.mem_map, Prod.exists, exists_and_right, exists_eq_right, BTreeMap.mem_entries]

/-- The members of an optional field that is a text. -/
theorem get_optional {m : BTreeMap String Json} {name : String} {P : String → Prop}
    (h : ∀ value, m.get name = some value → ∃ s, value = .string s ∧ P s) :
    ∃ text : Option String, m.get name = text.map .string ∧ ∀ s ∈ text, P s := by
  cases hget : m.get name with
  | none => exact ⟨none, rfl, by simp⟩
  | some value =>
    obtain ⟨s, rfl, hs⟩ := h value hget
    exact ⟨some s, rfl, by simpa using hs⟩

theorem valid_of_toJson {output : PublishOutput} (h : output.Named) :
    publishOutputSchema.Valid Json.view output.toJson := by
  have hn : (([("receipt_id", some (.string output.receiptId)),
      ("provider_event_id", output.providerEventId.map .string),
      ("status", some output.status.toJson),
      ("ts", output.ts.map .string)] : List (String × Option Json)).map Prod.fst).Nodup := by simp
  refine ⟨trivial, (valid_ofFields hn).mpr ?_, required_ofFields hn ?_, trivial⟩
  · simp only [List.forall_mem_cons, List.not_mem_nil, false_imp_iff, implies_true, and_true,
      Option.mem_def, Option.map_eq_some_iff, Option.some.injEq, forall_exists_index, and_imp,
      forall_apply_eq_imp_iff₂, forall_eq', memberValid_cons, ↓reduceIte, String.reduceEq]
    refine ⟨valid_textSchema.mpr h.receiptId, fun s hs => ?_, valid_status.mpr ⟨_, rfl⟩,
      fun s _ => valid_string.mpr ⟨s, rfl⟩⟩
    refine valid_textSchema.mpr ?_
    rintro rfl
    exact h.providerEventId hs
  · simp

theorem toJson_of_valid {m : BTreeMap String Json}
    (h : publishOutputSchema.Valid Json.view (.object m.entries)) :
    ∃ output : PublishOutput, output.Named ∧ output.toJson = .object m.entries := by
  obtain ⟨-, hproperties, hrequired, -⟩ := h
  have hview : Json.view (.object m.entries) = .object m.entries := rfl
  have hmember (key : String) (value : Json) (hget : m.get key = some value) :=
    (valid_properties hview).mp hproperties (key, value) ((BTreeMap.mem_entries m).mpr hget)
  simp only [memberValid_cons, memberValid_nil] at hmember
  have hrequired := (valid_required hview).mp hrequired
  obtain ⟨receipt, hreceipt⟩ := mem_keys_iff.mp (hrequired "receipt_id" (by simp))
  obtain ⟨status, hstatus⟩ := mem_keys_iff.mp (hrequired "status" (by simp))
  obtain ⟨receiptId, rfl, hid⟩ := valid_text.mp (by simpa using hmember _ _ hreceipt)
  obtain ⟨status, rfl⟩ := valid_status.mp (by simpa using hmember _ _ hstatus)
  obtain ⟨eventId, hevent, hnamed⟩ := get_optional (P := (· ≠ "")) fun value hget =>
    valid_text.mp (by simpa using hmember "provider_event_id" value hget)
  obtain ⟨ts, hts, -⟩ := get_optional (P := fun _ => True) fun value hget =>
    (valid_string.mp (by simpa using hmember "ts" value hget)).imp fun _ hs => ⟨hs, trivial⟩
  refine ⟨⟨receiptId, eventId, status, ts⟩, ⟨hid, fun h => hnamed "" h rfl⟩, ?_⟩
  -- the two maps have the same value under every key, the known ones and the rest
  refine congrArg (fun map : BTreeMap String Json => Json.object map.entries)
    (BTreeMap.ext_get fun key => ?_)
  rw [BTreeMap.get_ofFields_eq_lookup (by simp)]
  by_cases hknown : key ∈ ["receipt_id", "provider_event_id", "status", "ts"]
  · simp only [List.mem_cons, List.not_mem_nil, or_false] at hknown
    rcases hknown with rfl | rfl | rfl | rfl
    · simp [hreceipt]
    · simp [List.lookup_cons, hevent]
    · simp [List.lookup_cons, hstatus]
    · simp [List.lookup_cons, hts]
  · simp only [List.mem_cons, List.not_mem_nil, or_false, not_or] at hknown
    have hnone : m.get key = none := by
      apply Option.eq_none_iff_forall_ne_some.mpr
      intro value hget
      have hnever : Schema.never.Valid Json.view value := by
        simpa [hknown] using hmember key value hget
      exact hnever
    simp [List.lookup_cons, hknown, hnone, beq_false_of_ne]

/-- The documents that meet the schema are the encodings of the outputs with ids that are not empty;
they decode to these outputs, which encode to the same documents again. -/
theorem output_schema_exact (m : BTreeMap String Json) :
    publishOutputSchema.Valid Json.view (.object m.entries) ↔ ∃ output : PublishOutput,
      output.Named ∧ output.toJson = .object m.entries ∧
        PublishOutput.fromJson (.object m.entries) = some output := by
  constructor
  · intro h
    obtain ⟨output, hnamed, hencode⟩ := toJson_of_valid h
    exact ⟨output, hnamed, hencode, hencode ▸ output.fromJson_toJson⟩
  · rintro ⟨output, hnamed, hencode, -⟩
    exact hencode ▸ valid_of_toJson hnamed

end GreenticEvents
