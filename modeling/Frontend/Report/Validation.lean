import Frontend.Diagnostic.Render
import Frontend.Program.Parse

/-!
# Validation

Validating a source runs both stages and reports the first diagnostic, rendered, with
its stage and its place counted from one.  A numeral beyond the conversion limit is not
a diagnostic and ends the validation without a report.  The limit of the machine matters
only to the rendering.
-/

namespace Frontend

/-- The verdict on a source. -/
structure Validation where
  valid : Bool
  diagnostics : List String
  stage : Option Stage
  position : Option (Nat × Nat)
  deriving DecidableEq, Repr

namespace Validation

/-- The verdict on a source without diagnostics. -/
def accepted : Validation := ⟨true, [], none, none⟩

/-- The verdict on a source with a diagnostic. -/
def rejected (diagnostic : Diagnostic) (rendered : String) : Validation :=
  ⟨false, [rendered], some diagnostic.stage,
    some (diagnostic.span.line + 1, diagnostic.span.column + 1)⟩

/-- The verdict that an outcome of both stages gives. -/
def ofOutcome (limit : Nat) (source : String) :
    Except Failure (Program Span) → Except Fault Validation
  | .ok _ => .ok accepted
  | .error (.diagnostic diagnostic) => (diagnostic.render limit source).map (rejected diagnostic)
  | .error (.fault fault) => .error fault

end Validation

/-- Validates a source. -/
def validate (limit : Nat) (source : String) : Except Fault Validation :=
  Validation.ofOutcome limit source (Program.ofSource source)

/-- Validates a source, with the reports of both stages. -/
def validateTraced (limit : Nat) (source : String) : Traced (Except Fault Validation) :=
  let parsed := Program.ofSourceTraced source
  ⟨Validation.ofOutcome limit source parsed.result, parsed.log⟩

end Frontend
