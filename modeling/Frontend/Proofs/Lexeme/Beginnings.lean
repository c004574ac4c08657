import Frontend.Proofs.Lexeme.Cuts
import Frontend.Proofs.Lexeme.Written

/-!
# Scanning on after a beginning

The pieces of a text are scanned from the left, and of those that are behind only one
bit is kept.  So a text can be divided between any two of its pieces.  If the first part
is read without a failure, the second is scanned from the place where the first ends,
and a line feed at its beginning is idle exactly if nothing or a line break was read
before it (`all_append`).  If the first part fails, the whole fails in the same way
(`failure_append`).

Conversely every failure divides a text: there is a first piece that cannot be read, and
all pieces before it are read (`exists_failing_piece`).
-/

namespace Frontend

open Source (Place lastLine)

namespace Scan

/-! ## Where a text is divided -/

/-- The span of a piece of a text, counted in the text before it. -/
def spanAfter (before piece : List Char) : Span :=
  ⟨before.count '\n', (lastLine before).length, piece.length⟩

/-- The place behind a text, counted in it. -/
def placeAfter (text : List Char) : Place :=
  ⟨text.length, text.count '\n', (lastLine text).length⟩

theorem spanAt_start_pass (before piece : List Char) :
    spanAt (Place.start.pass before) piece = spanAfter before piece := by
  rw [spanAt, Source.line_start_pass, Source.column_start_pass]
  rfl

theorem start_pass_eq_placeAfter (text : List Char) : Place.start.pass text = placeAfter text := by
  have hOffset : (Place.start.pass text).offset = text.length := by
    rw [Place.offset_pass]
    exact Nat.zero_add _
  have hLine := Source.line_start_pass text
  have hColumn := Source.column_start_pass text
  cases hPlace : Place.start.pass text with
  | mk offset line column =>
      rw [hPlace] at hOffset hLine hColumn
      rw [placeAfter, ← hOffset, ← hLine, ← hColumn]

/-- A text is cut before and behind every mark. -/
theorem pieces_append_mark {c : Char} (hMark : IsMark c) (before after : List Char) :
    pieces (before ++ c :: after) = pieces before ++ [c] :: pieces after := by
  have hPieces : pieces (before ++ c :: after) = pieces before ++ pieces (c :: after) :=
    List.splitBy_append_cons after fun a _ => joins_mark_right hMark a
  rw [hPieces, pieces_mark hMark]

/-- The first pieces of a text are the pieces of a text of their own. -/
private theorem pieces_flatten_left {text : List Char} {first second : List (List Char)}
    (hPieces : pieces text = first ++ second) : pieces first.flatten = first := by
  obtain ⟨_, hNonempty, hChains, hApart⟩ := List.splitBy_eq_iff.1 hPieces
  apply List.splitBy_flatten
  · exact fun hMem => hNonempty (List.mem_append_left second hMem)
  · exact fun piece hMem => hChains piece (List.mem_append_left second hMem)
  · exact hApart.left_of_append

private theorem mem_cuts_append (before : List Char) (first second : List (List Char))
    (piece : List Char) :
    ⟨before ++ first.flatten, piece⟩ ∈ cuts before (first ++ piece :: second) := by
  induction first generalizing before with
  | nil =>
      rw [List.flatten_nil, List.append_nil]
      exact List.mem_cons_self
  | cons other first ih =>
      rw [List.flatten_cons, ← List.append_assoc]
      exact List.mem_cons_of_mem _ (ih (before ++ other))

/-- Every piece of a text is a cut of it. -/
theorem exists_isCut {text piece : List Char} {first second : List (List Char)}
    (hPieces : pieces text = first ++ piece :: second) :
    ∃ after, IsCut text ⟨first.flatten, piece⟩ after := by
  have hMem := mem_cuts_append [] first second piece
  rw [← hPieces, List.nil_append] at hMem
  exact mem_cuts_pieces hMem

/-! ## What is left of a beginning -/

/-- Whether a line feed is idle after some lexemes, if `idle` says so where there are
none. -/
def idleAfter (idle : Bool) (lexemes : List Lexeme) : Bool :=
  match lexemes.getLast? with
  | none => idle
  | some last => last.kind = .lineBreak

private theorem idleAfter_cons (idle : Bool) (lexeme : Lexeme) (lexemes : List Lexeme) :
    idleAfter idle (lexeme :: lexemes) = idleAfter (lexeme.kind = .lineBreak) lexemes := by
  unfold idleAfter
  rw [List.getLast?_cons]
  cases lexemes.getLast? <;> rfl

theorem outcome_prepend (lexemes : List Lexeme) (result : Result) :
    (result.prepend lexemes).outcome = result.outcome.map fun more => lexemes ++ more := by
  unfold Result.outcome Result.prepend
  cases result.failure <;> rfl

section Append

variable {idle : Bool} {place : Place} {first : List (List Char)} {failure : Failure}

/-- **Pieces that are read** are followed by what is made of the others. -/
theorem all_append (hFirst : (all idle place first).failure = none)
    (second : List (List Char)) :
    all idle place (first ++ second) =
      (all (idleAfter idle (all idle place first).lexemes) (place.pass first.flatten)
        second).prepend (all idle place first).lexemes := by
  induction first generalizing idle place with
  | nil => rfl
  | cons piece rest ih =>
      rw [List.cons_append, List.flatten_cons, Place.pass_append]
      rw [all] at hFirst ⊢
      rw [all]
      cases hStep : step idle place piece with
      | yield lexeme =>
          rw [hStep] at hFirst
          show Result.cons lexeme (all _ _ (rest ++ second)) =
            (all (idleAfter idle (lexeme :: (all _ _ rest).lexemes)) _ second).prepend _
          rw [idleAfter_cons, ih hFirst]
          rfl
      | skip =>
          rw [hStep] at hFirst
          exact ih hFirst
      | fail failure =>
          rw [hStep] at hFirst
          cases hFirst

/-- **Pieces that are not read** fail whatever comes after them. -/
theorem failure_append (hFirst : (all idle place first).failure = some failure)
    (second : List (List Char)) : (all idle place (first ++ second)).failure = some failure := by
  induction first generalizing idle place with
  | nil => cases hFirst
  | cons piece rest ih =>
      rw [List.cons_append]
      rw [all] at hFirst ⊢
      cases hStep : step idle place piece with
      | yield | skip =>
          rw [hStep] at hFirst
          exact ih hFirst
      | fail other =>
          rw [hStep] at hFirst
          exact hFirst

/-- A failure is that of a first piece that cannot be read. -/
theorem exists_failing_piece {segments : List (List Char)}
    (hFailure : (all idle place segments).failure = some failure) :
    ∃ first piece second idle', segments = first ++ piece :: second ∧
      (all idle place first).failure = none ∧
      step idle' (place.pass first.flatten) piece = .fail failure := by
  induction segments generalizing idle place with
  | nil => cases hFailure
  | cons piece rest ih =>
      rw [all] at hFailure
      cases hStep : step idle place piece with
      | yield | skip =>
          rw [hStep] at hFailure
          obtain ⟨first, failing, second, idle', rfl, hFirst, hFail⟩ := ih hFailure
          refine ⟨piece :: first, failing, second, idle', rfl, ?_, ?_⟩
          · rw [all, hStep]
            exact hFirst
          · rwa [List.flatten_cons, Place.pass_append]
      | fail other =>
          rw [hStep] at hFailure
          cases hFailure
          exact ⟨[], piece, rest, idle, rfl, rfl, hStep⟩

end Append

/-! ## Texts -/

theorem lex_ofList (text : List Char) :
    lex (String.ofList text) = (all true Place.start (pieces text)).outcome := by
  show (all true Place.start (pieces (String.ofList text).toList)).outcome = _
  rw [String.toList_ofList]

/-- The first pieces of a text, if they are read, are a text that has lexemes. -/
theorem lex_flatten_left {text : List Char} {first second : List (List Char)}
    (hPieces : pieces text = first ++ second)
    (hFirst : (all true Place.start first).failure = none) :
    lex (String.ofList first.flatten) = .ok (all true Place.start first).lexemes := by
  rw [lex_ofList, pieces_flatten_left hPieces]
  exact Result.outcome_eq_ok_iff.2 ⟨hFirst, rfl⟩

/-- A text that has lexemes is followed by what is made of the pieces after it. -/
theorem all_append_of_lex {text : List Char} {lexemes : List Lexeme}
    (hLex : lex (String.ofList text) = .ok lexemes) (second : List (List Char)) :
    all true Place.start (pieces text ++ second) =
      (all (idleAfter true lexemes) (Place.start.pass text) second).prepend lexemes := by
  rw [lex_ofList] at hLex
  obtain ⟨hEnd, rfl⟩ := Result.outcome_eq_ok_iff.1 hLex
  rw [all_append hEnd, flatten_pieces]

end Scan

end Frontend
