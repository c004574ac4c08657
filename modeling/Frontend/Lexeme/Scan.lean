import Frontend.Event
import Frontend.Lexeme.Piece
import Frontend.Source.Cursor

/-!
# Scanning

Scanning turns the pieces of a text into lexemes.  It carries a place, which every piece
moves on, and one bit: whether a line feed here would be *idle*, because no lexeme
stands before it or the last one was a line break already.  An idle line feed yields no
lexeme, so blank lines leave no trace and a text never begins with a line break.

The recursion is on the list of pieces.  `Scan.next` stops after one lexeme, `Scan.all`
goes on to the end or to the first piece that cannot be read; the cursor is then just
past that piece.
-/

namespace Frontend

open Source (Place Cursor)

namespace Scan

/-- What one piece contributes. -/
inductive Step where
  | yield (lexeme : Lexeme)
  | skip
  | fail (failure : Failure)
  deriving DecidableEq, Repr

/-- The span of a piece that begins at a place. -/
def spanAt (place : Place) (piece : List Char) : Span :=
  ⟨place.line, place.column, piece.length⟩

/-- The lexeme that a piece becomes at a place. -/
def lexemeAt (place : Place) (piece : List Char) (kind : Kind) (value : Value) : Lexeme :=
  ⟨kind, String.ofList piece, spanAt place piece, value⟩

/-- Reads one piece at a place; `idle` says that a line feed yields nothing here. -/
def step (idle : Bool) (place : Place) (piece : List Char) : Step :=
  match Reading.of piece with
  | .lexeme kind value => .yield (lexemeAt place piece kind value)
  | .lineBreak => if idle then .skip else .yield (lexemeAt place piece .lineBreak .absent)
  | .space => .skip
  | .problem problem => .fail (.diagnostic ⟨problem, spanAt place piece⟩)
  | .fault fault => .fail (.fault fault)

/-- The answer to a request for one more lexeme. -/
inductive Next where
  | lexeme (lexeme : Lexeme) (cursor : Cursor)
  | ended (cursor : Cursor)
  | failed (failure : Failure) (cursor : Cursor)
  deriving DecidableEq, Repr

/-- The next lexeme of the pieces that begin at a place. -/
def next (idle : Bool) (place : Place) : List (List Char) → Next
  | [] => .ended ⟨place, []⟩
  | piece :: rest =>
    match step idle place piece with
    | .yield lexeme => .lexeme lexeme ⟨place.pass piece, rest.flatten⟩
    | .skip => next idle (place.pass piece) rest
    | .fail failure => .failed failure ⟨place.pass piece, rest.flatten⟩

/-- The lexemes up to the end or to the first failure, and where the cursor is then. -/
structure Result where
  lexemes : List Lexeme
  failure : Option Failure
  cursor : Cursor
  deriving DecidableEq, Repr

/-- The result with one more lexeme in front. -/
def Result.cons (lexeme : Lexeme) (result : Result) : Result :=
  { result with lexemes := lexeme :: result.lexemes }

/-- All lexemes of the pieces that begin at a place. -/
def all (idle : Bool) (place : Place) : List (List Char) → Result
  | [] => ⟨[], none, ⟨place, []⟩⟩
  | piece :: rest =>
    match step idle place piece with
    | .yield lexeme => (all (lexeme.kind = .lineBreak) (place.pass piece) rest).cons lexeme
    | .skip => all idle (place.pass piece) rest
    | .fail failure => ⟨[], some failure, ⟨place.pass piece, rest.flatten⟩⟩

/-- The lexemes if the end was reached, else the failure. -/
def Result.outcome (result : Result) : Except Failure (List Lexeme) :=
  match result.failure with
  | none => .ok result.lexemes
  | some failure => .error failure

/-- There are lexemes exactly if the end was reached. -/
theorem Result.outcome_eq_ok_iff {result : Result} {lexemes : List Lexeme} :
    result.outcome = .ok lexemes ↔ result.failure = none ∧ result.lexemes = lexemes := by
  unfold outcome
  cases result.failure with
  | none => simp
  | some failure => simp

/-- There is a failure exactly if the end was not reached. -/
theorem Result.outcome_eq_error_iff {result : Result} {failure : Failure} :
    result.outcome = .error failure ↔ result.failure = some failure := by
  unfold outcome
  cases result.failure with
  | none => simp
  | some other => simp

/-- The outcome, with a report of how much was read if the end was reached. -/
def Result.traced (result : Result) : Traced (Except Failure (List Lexeme)) where
  result := result.outcome
  log :=
    match result.failure with
    | none => [.lexed result.lexemes.length (result.cursor.place.line + 1)]
    | some _ => []

end Scan

/-- The next lexeme after a cursor. -/
def Source.Cursor.nextLexeme (idle : Bool) (cursor : Cursor) : Scan.Next :=
  Scan.next idle cursor.place (pieces cursor.rest)

/-- All lexemes after a cursor. -/
def Source.Cursor.lexemes (idle : Bool) (cursor : Cursor) : Scan.Result :=
  Scan.all idle cursor.place (pieces cursor.rest)

/-- Divides a source into lexemes from the start to the end or to the first failure. -/
def scan (source : String) : Scan.Result :=
  (Cursor.ofText source).lexemes true

/-- The lexemes of a source. -/
def lex (source : String) : Except Failure (List Lexeme) :=
  (scan source).outcome

end Frontend
