import Frontend.Text.Decimal
import Frontend.Text.Record

/-!
# Spans

A span is a stretch of one source line: a line, a column and a length, with line and
column counted from zero in characters.  Everything shown to a reader counts from one.
The fields are natural numbers, so a span with a negative field does not exist;
`Span.ofFields` is the one place where integers from outside are turned into a span or
refused.
-/

namespace Frontend

/-- A stretch of one source line. -/
structure Span where
  line : Nat
  column : Nat
  length : Nat
  deriving DecidableEq, Repr

namespace Span

/-- Builds a span from integers, refusing negative ones. -/
def ofFields (line column length : Int) : Except Fault Span :=
  if line < 0 ∨ column < 0 ∨ length < 0 then .error (.negativeSpan line column length)
  else .ok ⟨line.toNat, column.toNat, length.toNat⟩

/-- Line and column, counted from one. -/
def label (span : Span) : Except Fault String := do
  let line ← Text.decimal (span.line + 1)
  let column ← Text.decimal (span.column + 1)
  return line ++ ":" ++ column

/-- The span with its fields named. -/
def dump (span : Span) : String :=
  Text.record "PositionInfo"
    [("line", span.line.repr), ("column", span.column.repr), ("length", span.length.repr)]

/-- The fields of a span build that span. -/
theorem ofFields_cast (span : Span) :
    ofFields span.line span.column span.length = .ok span := by
  have hNonneg : ¬((span.line : Int) < 0 ∨ (span.column : Int) < 0 ∨ (span.length : Int) < 0) := by
    omega
  rw [ofFields, if_neg hNonneg]
  rfl

end Span

end Frontend
