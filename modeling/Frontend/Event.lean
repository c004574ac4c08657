import Frontend.Source.Span

/-!
# Events

The stages of the front end report their progress.  An event is one such report; a
traced result is a result with the reports made on the way to it, in order.  A report
holds what it is about and is worded by whoever writes it down.  Only then may it turn
out that there is no wording, because a place is too far out; to the stages that makes
no difference.
-/

namespace Frontend

/-- A report of progress. -/
inductive Event where
  /-- A text was divided into lexemes to its end. -/
  | lexed (lexemes lines : Nat)
  /-- Parsing stopped before a closing brace that nothing opens. -/
  | stoppedAtBrace (span : Span) (unconsumed : Nat)
  /-- A program was parsed. -/
  | parsed (statements : Nat)
  deriving DecidableEq, Repr

namespace Event

/-- The stage that makes the report. -/
inductive Origin where
  | lexing
  | parsing
  deriving DecidableEq, Repr

/-- Where an event comes from. -/
def origin : Event → Origin
  | .lexed _ _ => .lexing
  | .stoppedAtBrace _ _ | .parsed _ => .parsing

/-- The wording of an event, in which the place of a brace must have a text. -/
def message : Event → Except Fault String
  | .lexed lexemes lines =>
    .ok ("lexed " ++ lexemes.repr ++ " lexeme(s) over " ++ lines.repr ++ " line(s)")
  | .stoppedAtBrace span unconsumed => do
    let place ← span.label
    return "stopped at unmatched '\x7d' (" ++ place ++ ") with " ++ unconsumed.repr
      ++ " lexeme(s) unconsumed"
  | .parsed statements => .ok ("parsed " ++ statements.repr ++ " top-level statement(s)")

/-- What is written down of a log, event by event: the wordings up to the first event
that has none, and why that one has none. -/
def writeDown : List Event → List (Origin × String) × Option Fault
  | [] => ([], none)
  | event :: events =>
    match event.message with
    | .error fault => ([], some fault)
    | .ok text =>
      let later := writeDown events
      ((event.origin, text) :: later.1, later.2)

end Event

/-- A result with the events on the way to it. -/
structure Traced (α : Type) where
  result : α
  log : List Event
  deriving DecidableEq, Repr

end Frontend
