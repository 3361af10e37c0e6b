import Mathlib.Data.String.Basic
import GreenticEvents.Data.SortedMap

/-!
# Values the crates pass around (`greentic_types`, `serde_json`, `error.rs`)
-/

namespace GreenticEvents
open Data

/-- `serde_json::Number`; a float is kept as its bits. -/
inductive Number where
  | posInt (n : UInt64)
  | negInt (n : Int64)
  | float (bits : UInt64)

/-- `serde_json::Value`; an object is the entry list of its sorted map. -/
inductive Json where
  | null
  | bool (b : Bool)
  | number (n : Number)
  | string (s : String)
  | array (values : List Json)
  | object (entries : List (String × Json))

namespace Json

def asU64 : Json → Option UInt64
  | number (.posInt n) => some n
  | _ => none

def asBool : Json → Option Bool
  | bool b => some b
  | _ => none

def asStr : Json → Option String
  | string s => some s
  | _ => none

def asArray : Json → Option (List Json)
  | array values => some values
  | _ => none

/-- `Value::get` with a key: a member of an object, nothing of any other value. -/
def get (key : String) : Json → Option Json
  | object entries => entries.lookup key
  | _ => none

end Json

def isIdChar (c : Char) : Bool := c.isAlphanum || c == '.' || c == '_' || c == '-'

theorem char_range (c lo hi : Char) :
    (decide (lo.val ≤ c.val) && decide (c.val ≤ hi.val)) = true ↔ lo ≤ c ∧ c ≤ hi := by
  rw [Bool.and_eq_true, decide_eq_true_iff, decide_eq_true_iff]
  exact Iff.rfl

theorem isLower_iff {c : Char} : c.isLower = true ↔ 'a' ≤ c ∧ c ≤ 'z' := char_range c 'a' 'z'

theorem isDigit_iff {c : Char} : c.isDigit = true ↔ '0' ≤ c ∧ c ≤ '9' := char_range c '0' '9'

theorem isIdChar_iff {c : Char} : isIdChar c = true ↔
    ('A' ≤ c ∧ c ≤ 'Z') ∨ ('a' ≤ c ∧ c ≤ 'z') ∨ ('0' ≤ c ∧ c ≤ '9') ∨
      c = '.' ∨ c = '_' ∨ c = '-' := by
  have hupper : c.isUpper = true ↔ 'A' ≤ c ∧ c ≤ 'Z' := decide_eq_true_iff
  have halnum : c.isAlphanum = (c.isUpper || c.isLower || c.isDigit) := rfl
  simp only [isIdChar, halnum, Bool.or_eq_true, hupper, isLower_iff, isDigit_iff, beq_iff_eq,
    or_assoc]

/-- A tenant id holds ASCII letters, digits, dots, underscores and hyphens only. -/
structure TenantId where
  raw : String
  valid : raw.toList.all isIdChar = true
  deriving DecidableEq

theorem TenantId.colon_not_mem (t : TenantId) : ':' ∉ t.raw.toList := by
  intro h
  exact absurd (List.all_eq_true.mp t.valid ':' h) (by decide)

/-- `TenantCtx`; `rest` stands for the fields that no code here reads. -/
structure TenantCtx where
  env : String
  tenant : TenantId
  rest : Json

structure EventId where
  raw : String
  deriving DecidableEq

/-- `DateTime<Utc>`, in nanoseconds since the epoch. -/
structure DateTime where
  nanos : ℤ
  deriving DecidableEq

structure EventEnvelope where
  id : EventId
  topic : String
  type : String
  source : String
  tenant : TenantCtx
  subject : Option String
  time : DateTime
  correlationId : Option String
  payload : Json
  metadata : BTreeMap String String

inductive EventBusError where
  | noProvider (topic : String)
  | aclDenied (tenant topic operation : String)
  | duplicate (key : String)
  | deliveryFailed (provider reason : String)
  | bridgeNotFound (bridge : String)
  | bridgeError (message : String)
  | other (message : String)
  deriving DecidableEq

abbrev Result (α : Type) := Except EventBusError α

theorem except_bind_ok {ε α β : Type} {x : Except ε α} {f : α → Except ε β} {b : β} :
    (x >>= f) = .ok b ↔ ∃ a, x = .ok a ∧ f a = .ok b := by
  cases x with
  | error err => simp [bind, Except.bind]
  | ok a => simp [bind, Except.bind]

theorem except_bind_error {ε α β : Type} {x : Except ε α} {f : α → Except ε β} {err : ε} :
    (x >>= f) = .error err ↔ x = .error err ∨ ∃ a, x = .ok a ∧ f a = .error err := by
  cases x with
  | error err => simp [bind, Except.bind]
  | ok a => simp [bind, Except.bind]

theorem mapError_ok {ε δ α : Type} {x : Except ε α} {f : ε → δ} {a : α} :
    x.mapError f = .ok a ↔ x = .ok a := by
  cases x <;> simp [Except.mapError]

end GreenticEvents
