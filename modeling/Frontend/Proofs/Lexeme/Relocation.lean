import Frontend.Proofs.Lexeme.Sessions

/-!
# Relocation

A text can be scanned by itself, or as the rest of a longer one from a place in it.  The
lexemes are the same, and so is a failure; what differs is where they stand.  Seen from
the longer text a span is `rebase`d: its line counts from the line of the place, and its
column counts from the column of the place as long as it is on that line.  A line feed
in between takes the column back to zero, so on every later line the column is the same
in both texts.

Passing a character commutes with moving the base (`Place.rebase_next`), hence so does
reading a piece (`step_rebase`) and scanning all of them (`all_rebase`).  Wherever the
requests to a session have left its cursor, reading on from there is therefore lexing
what is left (`readAll_eq_lex_rest`).
-/

namespace Frontend

open Source (Place Cursor)

/-! ## Places and spans seen from a base -/

/-- The place that is as far from a base as a place is from the start. -/
def Source.Place.rebase (base place : Place) : Place :=
  ⟨base.offset + place.offset, base.line + place.line,
    if place.line = 0 then base.column + place.column else place.column⟩

/-- A span of the text from a base on, as a span of the whole text. -/
def Span.rebase (base : Place) (span : Span) : Span :=
  ⟨base.line + span.line, if span.line = 0 then base.column + span.column else span.column,
    span.length⟩

/-- A span further down. -/
def Span.down (lines : Nat) (span : Span) : Span := { span with line := span.line + lines }

/-- The lexeme with its span changed. -/
def Lexeme.mapSpan (f : Span → Span) (lexeme : Lexeme) : Lexeme :=
  { lexeme with span := f lexeme.span }

/-- The failure with its span changed, if it has one. -/
def Failure.mapSpan (f : Span → Span) : Failure → Failure
  | .diagnostic ⟨problem, span⟩ => .diagnostic ⟨problem, f span⟩
  | .fault reason => .fault reason

/-- The outcome of lexing with all its spans changed. -/
def mapSpans (f : Span → Span) (outcome : Except Failure (List Lexeme)) :
    Except Failure (List Lexeme) :=
  (outcome.map (List.map (Lexeme.mapSpan f))).mapError (Failure.mapSpan f)

theorem Source.Place.rebase_start (base : Place) : base.rebase .start = base := rfl

/-- The next place seen from a base is the next place from there. -/
theorem Source.Place.rebase_next (base place : Place) (c : Char) :
    base.rebase (place.next c) = (base.rebase place).next c := by
  unfold Place.next
  by_cases hFeed : c = '\n'
  · simp only [hFeed, if_true, Place.rebase]
    simp [Nat.add_assoc]
  · simp only [hFeed, if_false, Place.rebase]
    by_cases hLine : place.line = 0
    · simp [hLine, Nat.add_assoc]
    · simp [hLine, Nat.add_assoc]

theorem Source.Place.rebase_pass (base place : Place) (text : List Char) :
    base.rebase (place.pass text) = (base.rebase place).pass text := by
  induction text generalizing place with
  | nil => rfl
  | cons c text ih => rw [Place.pass_cons, Place.pass_cons, ih, Place.rebase_next]

/-- From the beginning of a line on, only lines are counted anew. -/
theorem Span.rebase_eq_down {base : Place} (hColumn : base.column = 0) :
    Span.rebase base = Span.down base.line := by
  funext span
  rw [Span.rebase, Span.down, hColumn, Nat.zero_add, ite_self, Nat.add_comm]

namespace Scan

/-! ## Scanning from a base -/

/-- What a piece contributes with its span changed. -/
def Step.mapSpan (f : Span → Span) : Step → Step
  | .yield lexeme => .yield (lexeme.mapSpan f)
  | .skip => .skip
  | .fail failure => .fail (failure.mapSpan f)

/-- A result of the text from a base on, as a result of the whole text. -/
def Result.rebase (base : Place) (result : Result) : Result :=
  ⟨result.lexemes.map (Lexeme.mapSpan (Span.rebase base)),
    result.failure.map (Failure.mapSpan (Span.rebase base)),
    ⟨base.rebase result.cursor.place, result.cursor.rest⟩⟩

/-- **One piece** contributes the same from a base on. -/
theorem step_rebase (base : Place) (idle : Bool) (place : Place) (piece : List Char) :
    step idle (base.rebase place) piece = (step idle place piece).mapSpan (Span.rebase base) := by
  unfold step
  cases Reading.of piece with
  | lexeme | space | problem | fault => rfl
  | lineBreak => cases idle <;> rfl

/-- **All pieces** contribute the same from a base on. -/
theorem all_rebase (base : Place) (idle : Bool) (place : Place) (segments : List (List Char)) :
    all idle (base.rebase place) segments = (all idle place segments).rebase base := by
  induction segments generalizing idle place with
  | nil => rfl
  | cons piece rest ih =>
      rw [all, all, step_rebase, ← Place.rebase_pass]
      cases step idle place piece with
      | yield lexeme =>
          show Result.cons _ (all _ (base.rebase (place.pass piece)) rest) = _
          rw [ih]
          rfl
      | skip => exact ih idle (place.pass piece)
      | fail failure => rfl

theorem outcome_rebase (base : Place) (result : Result) :
    (result.rebase base).outcome = mapSpans (Span.rebase base) result.outcome := by
  unfold Result.outcome Result.rebase
  cases result.failure <;> rfl

/-- **Reading on** from a cursor is scanning what is left. -/
theorem lexemes_eq_rebase (cursor : Cursor) :
    cursor.lexemes true = (scan (String.ofList cursor.rest)).rebase cursor.place := by
  show all true cursor.place (pieces cursor.rest) =
    (all true Place.start (pieces (String.ofList cursor.rest).toList)).rebase cursor.place
  rw [String.toList_ofList, ← all_rebase, Place.rebase_start]

/-- **Restarting.**  Wherever the requests to a session have left its cursor, reading
all that follows yields the lexemes of the rest of the source, or its failure, seen from
the place of the cursor. -/
theorem readAll_eq_lex_rest (source : String) (requests : List Request) :
    let session := stateAfter Session.serve (Session.ofSource source) requests
    let place := session.cursor.place
    (session.serve .readAll).1.result = .ofOutcome
      (mapSpans (Span.rebase place) (lex (String.ofList (source.toList.drop place.offset)))) := by
  intro session place
  obtain ⟨before, hStands⟩ := stateAfter_standsAfter source requests
  have hRest : session.cursor.rest = source.toList.drop place.offset := hStands.standsIn.rest
  show Answer.ofOutcome (session.cursor.lexemes true).outcome = _
  rw [lexemes_eq_rebase, outcome_rebase, hRest]
  rfl

/-- A session that has failed at a stray character and has then taken a letter of the
word behind it. -/
def strandedSession : Session :=
  stateAfter Session.serve (Session.ofSource "@ab\ncd") [.readAll, .advance]

/-- What is left of a word is a word.  Its column is that in the source, and so are
those of the next line, which the cut does not change. -/
private theorem strandedSession_reads_rest :
    strandedSession.cursor.place = ⟨2, 0, 2⟩ ∧
    (strandedSession.serve .readAll).1.result =
      .ofOutcome (mapSpans (Span.rebase ⟨2, 0, 2⟩) (lex "b\ncd")) ∧
    (strandedSession.serve .readAll).1.result =
      .lexemes [⟨.identifier, "b", ⟨0, 2, 1⟩, .name "b"⟩,
        ⟨.lineBreak, "\n", ⟨0, 3, 1⟩, .absent⟩, ⟨.identifier, "cd", ⟨1, 0, 2⟩, .name "cd"⟩] :=
  ⟨rfl, readAll_eq_lex_rest "@ab\ncd" [.readAll, .advance], rfl⟩

end Scan

end Frontend
