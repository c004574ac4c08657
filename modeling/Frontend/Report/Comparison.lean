import Frontend.Program.Parse

/-!
# Comparison of two sources

Two sources are compared by what the front end makes of them: their lexemes, their
programs or their diagnostics, spans included.  A question is answered only if both
sources get far enough for it to make sense.
-/

namespace Frontend

/-- What the front end makes of a source: it gets through both stages, or fails in
one. -/
inductive Progress where
  | unlexed (diagnostic : Diagnostic)
  | unparsed (lexemes : List Lexeme) (diagnostic : Diagnostic)
  | parsed (lexemes : List Lexeme) (program : Program Span)

namespace Progress

/-- Runs both stages on a source. -/
def ofSource (source : String) : Except Fault Progress :=
  match lex source with
  | .error (.fault fault) => .error fault
  | .error (.diagnostic diagnostic) => .ok (.unlexed diagnostic)
  | .ok lexemes =>
    match parse lexemes with
    | .error diagnostic => .ok (.unparsed lexemes diagnostic)
    | .ok program => .ok (.parsed lexemes program)

/-- The lexemes, if the first stage succeeds. -/
def lexemes? : Progress → Option (List Lexeme)
  | .unlexed _ => none
  | .unparsed lexemes _ | .parsed lexemes _ => some lexemes

/-- The program, if both stages succeed. -/
def program? : Progress → Option (Program Span)
  | .unlexed _ | .unparsed _ _ => none
  | .parsed _ program => some program

/-- The diagnostic, if a stage fails. -/
def diagnostic? : Progress → Option Diagnostic
  | .unlexed diagnostic | .unparsed _ diagnostic => some diagnostic
  | .parsed _ _ => none

end Progress

/-- How many different elements a list has. -/
def distinct {α : Type} [DecidableEq α] (elements : List α) : Nat :=
  elements.eraseDups.length

/-- The answers to all questions that make sense. -/
structure Comparison where
  lexemesEqual : Option Bool
  kindsEqual : Option Bool
  distinctLexemes : Option Nat
  distinctSpans : Option Nat
  programsEqual : Option Bool
  distinctStatements : Option Nat
  problemsEqual : Option Bool
  problemSpansEqual : Option Bool
  deriving DecidableEq, Repr

/-- A question about two things, both of which must be there. -/
def both {α β : Type} (a b : Option α) (question : α → α → β) : Option β :=
  match a, b with
  | some a, some b => some (question a b)
  | _, _ => none

/-- Compares what the front end makes of two sources. -/
def Progress.compare (a b : Progress) : Comparison where
  lexemesEqual := both a.lexemes? b.lexemes? fun xs ys => xs = ys
  kindsEqual := both a.lexemes? b.lexemes? fun xs ys => xs.map Lexeme.kind = ys.map Lexeme.kind
  distinctLexemes := both a.lexemes? b.lexemes? fun xs ys => distinct (xs ++ ys)
  distinctSpans := both a.lexemes? b.lexemes? fun xs ys => distinct ((xs ++ ys).map Lexeme.span)
  programsEqual := both a.program? b.program? fun p q => p = q
  distinctStatements :=
    both a.program? b.program? fun p q => distinct (p.statements ++ q.statements)
  problemsEqual := both a.diagnostic? b.diagnostic? fun d e => d.problem = e.problem
  problemSpansEqual := both a.diagnostic? b.diagnostic? fun d e => d.span = e.span

/-- Compares two sources. -/
def compareSources (a b : String) : Except Fault Comparison := do
  return (← Progress.ofSource a).compare (← Progress.ofSource b)

end Frontend
