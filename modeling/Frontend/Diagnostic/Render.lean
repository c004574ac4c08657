import Frontend.Diagnostic
import Frontend.Source.Lines
import Frontend.Text.Fill

/-!
# Rendered diagnostics

A rendered diagnostic is a header of three lines (stage tag, message, place) and an
excerpt of four (a frame, the source line, a marker under the span, a frame).  Three
things can be missing, and they are looked for in this order: the place must have a
text, the source must have the line that the span names, and there must be room for the
two runs of the marker.  How much room there is depends on the machine, whose `limit` is
given from outside; but beside a source there is always room for a run that is at most
one character longer.
-/

namespace Frontend.Diagnostic

/-- The stage tag, the message and the place counted from one, each on its line. -/
def header (diagnostic : Diagnostic) : Except Fault String := do
  let line ← Text.decimal (diagnostic.span.line + 1)
  let column ← Text.decimal (diagnostic.span.column + 1)
  return "[SDW E/" ++ diagnostic.stage.tag ++ "]\n"
    ++ diagnostic.message ++ "\n"
    ++ "error occurred at line " ++ line ++ ", character " ++ column ++ ".\n"

/-- How long a run may be that is made beside a source. -/
def room (limit : Nat) (source : String) : Nat := max limit (source.length + 1)

/-- As many spaces as the column and as many carets as the length. -/
def marker (room : Nat) (span : Span) : Except Fault (List Char) := do
  let indent ← Text.fill room ' ' span.column
  let carets ← Text.fill room '^' span.length
  return indent ++ carets

/-- A source line with a marker below it, between two frames. -/
def frame (line marker : List Char) : String :=
  "[ .. ]\n"
    ++ String.ofList line ++ "\n"
    ++ String.ofList marker ++ " - error occurred here!\n"
    ++ "[ .. ]\n"

/-- The refusal to quote a line that a source of `available` lines does not have.  It
names the line, which must have a text. -/
def missingLine (line available : Nat) : Fault :=
  match Text.decimal (line + 1) with
  | .ok _ => .lineMissing line available
  | .error fault => fault

/-- The source line of the diagnostic with its span marked. -/
def excerpt (limit : Nat) (diagnostic : Diagnostic) (source : String) : Except Fault String :=
  let lines := Source.lines source.toList
  match lines[diagnostic.span.line]? with
  | some line => (marker (room limit source) diagnostic.span).map (frame line)
  | none => .error (missingLine diagnostic.span.line lines.length)

/-- Header and excerpt. -/
def render (limit : Nat) (diagnostic : Diagnostic) (source : String) : Except Fault String := do
  let header ← diagnostic.header
  let excerpt ← diagnostic.excerpt limit source
  return header ++ excerpt

end Frontend.Diagnostic
