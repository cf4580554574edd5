import ChartScript.Failure

/-!
# Refusals

The errors that an operation of the library can end in: a report of a description that was turned
down, a name that is not safe, an unknown indentation style, and a name that an index does not
hold.
-/

namespace ChartScript

/-- Why an operation has no result. -/
inductive Refusal where
  /-- A description with failures. -/
  | invalid (report : Report)
  /-- A name that becomes no safe identifier. -/
  | refusedName (raw : String)
  /-- A word that names no indentation style. -/
  | unknownIndent (word : String)
  /-- A code that an index does not hold. -/
  | notIndexed (space : Namespace) (code : String)
  deriving DecidableEq

namespace Refusal

/-- The wording of a refusal. -/
def message : Refusal → String
  | .invalid report => "Validation error:\n" ++ report.text
  | .refusedName raw => "Unsafe identifier: " ++ Text.quoteShown raw
  | .unknownIndent word => "Invalid indentation style: " ++ word
  | .notIndexed space code =>
    "Internal error: " ++ space.label ++ " " ++ Problem.named code ++ " missing from index"

end Refusal

/-- The identifier for a raw name, or the refusal of the name. -/
def Identifier.sanitize (space : Namespace) (raw : String) : Except Refusal (Identifier space) :=
  match Identifier.ofRaw? space raw with
  | some name => .ok name
  | none => .error (.refusedName raw)

namespace Identifier

variable {space : Namespace} {raw : String}

/-- A name is sanitized exactly when it is safe, and is then kept as it is spelled. -/
theorem sanitize_eq_ok_iff {name : Identifier space} :
    sanitize space raw = .ok name ↔ name.raw = raw := by
  rw [sanitize, ← ofRaw?_eq_some_iff]
  cases ofRaw? space raw <;> simp

/-- A name is refused, as it is spelled, exactly when it is not safe. -/
theorem sanitize_eq_error_iff {refusal : Refusal} :
    sanitize space raw = .error refusal ↔
      space.isSafe raw = false ∧ refusal = .refusedName raw := by
  rw [sanitize, ← ofRaw?_eq_none_iff]
  cases ofRaw? space raw <;> simp [eq_comm]

end Identifier

end ChartScript
