import Frontend.Lexeme.Reader
import Frontend.Proofs.Lexeme.Sessions
import Frontend.Proofs.Lexeme.Written

/-!
# Reading character by character is scanning

Where a character is taken there is one, because the procedure has looked at it before,
or its caller has.  A run of letters or digits is a piece, and after it the cursor is
where scanning leaves it; as no run holds a line feed, the difference of the columns is
its length.  So each procedure takes one piece and makes of it what scanning does
(`Takes`), and reading up to a lexeme, or to the end, comes to what scanning comes to
(`on_next`, `on_all`).  A bound greater than the number of characters is never reached.

It follows that from no cursor, wherever a session may have left it, does reading fail
at the end of the text or at a span (`reading_safe`).
-/

namespace Frontend.Scan

open Procedure (on on_bind_of_ok on_bind_of_error)
open Source (Place Cursor)

/-! ## The first piece -/

/-- The first piece of a text, and what is left after it. -/
structure Begins (text piece after : List Char) : Prop where
  isPiece : IsPiece piece
  parts : text = piece ++ after
  pieces : pieces text = piece :: pieces after

/-- A run of the class of the first character is the first piece, if it joins nothing
else. -/
private theorem begins_run {belongs : Char → Bool} {c : Char} {rest : List Char}
    (hRun : IsPiece (c :: rest.takeWhile belongs))
    (hJoins : ∀ a ∈ c :: rest.takeWhile belongs, ∀ b, belongs b = false → joins a b = false) :
    Begins (c :: rest) (c :: rest.takeWhile belongs) (rest.dropWhile belongs) := by
  have hParts : c :: rest = (c :: rest.takeWhile belongs) ++ rest.dropWhile belongs := by
    rw [List.cons_append, List.takeWhile_append_dropWhile]
  have hApart : ∀ a ∈ (c :: rest.takeWhile belongs).getLast?,
      ∀ b ∈ (rest.dropWhile belongs).head?, joins a b = false := by
    intro a hLast b hHead
    refine hJoins a (List.mem_of_mem_getLast? hLast) b ?_
    have hStop := List.head?_dropWhile_not belongs rest
    rw [Option.mem_def.1 hHead] at hStop
    simpa using hStop
  refine ⟨hRun, hParts, ?_⟩
  calc Frontend.pieces (c :: rest)
      = Frontend.pieces ((c :: rest.takeWhile belongs) ++ rest.dropWhile belongs) := by
        rw [← hParts]
    _ = Frontend.pieces (c :: rest.takeWhile belongs) ++
          Frontend.pieces (rest.dropWhile belongs) := List.splitBy_append hApart
    _ = (c :: rest.takeWhile belongs) :: Frontend.pieces (rest.dropWhile belongs) := by
        rw [pieces_of_isPiece hRun, List.singleton_append]

namespace Begins

variable {text piece after : List Char} {idle : Bool} {place : Place}

/-- A first piece that yields a lexeme yields the next one. -/
theorem nextLexeme_of_yield {lexeme : Lexeme} (hBegins : Begins text piece after)
    (hStep : step idle place piece = .yield lexeme) :
    Cursor.nextLexeme idle ⟨place, text⟩ = .lexeme lexeme ⟨place.pass piece, after⟩ := by
  simp only [Cursor.nextLexeme, hBegins.pieces, next, hStep, flatten_pieces]

/-- A first piece that yields nothing leaves the next lexeme to what is behind it. -/
theorem nextLexeme_of_skip (hBegins : Begins text piece after)
    (hStep : step idle place piece = .skip) :
    Cursor.nextLexeme idle ⟨place, text⟩ = Cursor.nextLexeme idle ⟨place.pass piece, after⟩ := by
  simp only [Cursor.nextLexeme, hBegins.pieces, next, hStep]

/-- A first piece that cannot be read is the failure. -/
theorem nextLexeme_of_fail {failure : Failure} (hBegins : Begins text piece after)
    (hStep : step idle place piece = .fail failure) :
    Cursor.nextLexeme idle ⟨place, text⟩ = .failed failure ⟨place.pass piece, after⟩ := by
  simp only [Cursor.nextLexeme, hBegins.pieces, next, hStep, flatten_pieces]

end Begins

namespace Reader

variable {place : Place} {c : Char} {text piece rest after : List Char} {bound : Nat}

private theorem begins_word (hLetter : c.isAlpha = true) (rest : List Char) :
    Begins (c :: rest) (c :: rest.takeWhile Char.isAlpha) (rest.dropWhile Char.isAlpha) ∧
      ∀ a ∈ c :: rest.takeWhile Char.isAlpha, a.isAlpha = true := by
  have hLetters : ∀ a ∈ c :: rest.takeWhile Char.isAlpha, a.isAlpha = true :=
    List.forall_mem_cons.2 ⟨hLetter, fun _ => List.mem_takeWhile_imp⟩
  refine ⟨begins_run (.word (List.cons_ne_nil _ _) hLetters) fun a hMem b hOther => ?_, hLetters⟩
  simp [joins, hOther, isDigit_eq_false_of_isAlpha (hLetters a hMem)]

private theorem begins_numeral (hDigit : c.isDigit = true) (rest : List Char) :
    Begins (c :: rest) (c :: rest.takeWhile Char.isDigit) (rest.dropWhile Char.isDigit) ∧
      ∀ a ∈ c :: rest.takeWhile Char.isDigit, a.isDigit = true := by
  have hDigits : ∀ a ∈ c :: rest.takeWhile Char.isDigit, a.isDigit = true :=
    List.forall_mem_cons.2 ⟨hDigit, fun _ => List.mem_takeWhile_imp⟩
  refine ⟨begins_run (.digits (List.cons_ne_nil _ _) hDigits) fun a hMem b hOther => ?_, hDigits⟩
  rw [Bool.eq_false_iff]
  intro hJoins
  rw [isDigit_of_joins hJoins (hDigits a hMem)] at hOther
  cases hOther

private theorem begins_mark (hMark : IsMark c) (rest : List Char) : Begins (c :: rest) [c] rest :=
  ⟨.mark hMark.1 hMark.2, rfl, pieces_mark hMark rest⟩

/-! ## Characters, texts and spans -/

private theorem on_get (cursor : Cursor) :
    on (get : Reader Cursor) cursor = some (.ok cursor, cursor) := rfl

private theorem on_peek (place : Place) (c : Char) (rest : List Char) :
    on peek ⟨place, c :: rest⟩ = some (.ok (some c), ⟨place, c :: rest⟩) := rfl

/-- A character that is there is taken. -/
private theorem on_advance (place : Place) (c : Char) (rest : List Char) :
    on advance ⟨place, c :: rest⟩ = some (.ok c, ⟨place.next c, rest⟩) := rfl

/-- **A run** is taken up to the first character that does not belong. -/
theorem on_run {belongs : Char → Bool} (hBound : rest.length < bound) :
    on (run belongs bound) ⟨place, rest⟩ =
      some (.ok (), ⟨place.pass (rest.takeWhile belongs), rest.dropWhile belongs⟩) := by
  induction bound generalizing place rest with
  | zero => exact absurd hBound (Nat.not_lt_zero _)
  | succ bound ih =>
      cases rest with
      | nil => rfl
      | cons c rest =>
          rw [run, on_bind_of_ok (on_peek place c rest), Option.any_some]
          by_cases hBelongs : belongs c = true
          · have hLeft : rest.length < bound := Nat.lt_of_succ_lt_succ hBound
            rw [if_pos hBelongs, on_bind_of_ok (on_advance place c rest), ih hLeft,
              List.takeWhile_cons_of_pos hBelongs, List.dropWhile_cons_of_pos hBelongs,
              Place.pass_cons]
          · rw [if_neg hBelongs, List.takeWhile_cons_of_neg hBelongs,
              List.dropWhile_cons_of_neg hBelongs]
            rfl

/-- The text between two places of the cursor is the piece that was taken between
them. -/
private theorem on_text (hBegins : Begins text piece after) (place : Place) :
    on (Reader.text ⟨place, text⟩) ⟨place.pass piece, after⟩ =
      some (.ok piece, ⟨place.pass piece, after⟩) := by
  have hTaken : text.take ((place.pass piece).offset - place.offset) = piece := by
    rw [Place.offset_pass, Nat.add_sub_cancel_left, hBegins.parts, List.take_left]
  show some (Except.ok (text.take ((place.pass piece).offset - place.offset)), _) = _
  rw [hTaken]

/-- The columns tell the length of a piece on one line. -/
private theorem on_span (hFeed : '\n' ∉ piece) (place : Place) (after : List Char) :
    on (span place.line place.column) ⟨place.pass piece, after⟩ =
      some (.ok (spanAt place piece), ⟨place.pass piece, after⟩) := by
  show on (attempt (Span.ofFields place.line place.column
    ((place.pass piece).column - place.column))) _ = _
  rw [ofFields_spanAt hFeed]
  rfl

/-! ## Pieces -/

/-- A procedure takes the first piece of a text and makes of it what scanning does. -/
inductive Takes (procedure : Reader Lexeme) (place : Place) (text : List Char) : Prop where
  | yields {piece after : List Char} {lexeme : Lexeme} (hBegins : Begins text piece after)
      (hStep : ∀ idle, step idle place piece = .yield lexeme)
      (hOn : on procedure ⟨place, text⟩ = some (.ok lexeme, ⟨place.pass piece, after⟩))
  | fails {piece after : List Char} {failure : Failure} (hBegins : Begins text piece after)
      (hStep : ∀ idle, step idle place piece = .fail failure)
      (hOn : on procedure ⟨place, text⟩ = some (.error failure, ⟨place.pass piece, after⟩))

private theorem step_word {piece : List Char} (hNonempty : piece ≠ [])
    (hLetters : ∀ a ∈ piece, a.isAlpha = true) (idle : Bool) (place : Place) :
    step idle place piece = .yield (classify (String.ofList piece) (spanAt place piece)) := by
  rw [step, Reading.of_word hNonempty hLetters, Reading.ofWord, classify]
  cases Kind.keywords.lookup (String.ofList piece) <;> rfl

/-- **A run of letters** is taken as a word. -/
theorem takes_word (hLetter : c.isAlpha = true) (hBound : rest.length < bound) :
    Takes (word place.line place.column bound) place (c :: rest) := by
  obtain ⟨hBegins, hLetters⟩ := begins_word hLetter rest
  have hRun : on (run Char.isAlpha bound) ⟨place.next c, rest⟩ = some (.ok (),
      ⟨place.pass (c :: rest.takeWhile Char.isAlpha), rest.dropWhile Char.isAlpha⟩) := on_run hBound
  generalize c :: rest.takeWhile Char.isAlpha = piece, rest.dropWhile Char.isAlpha = after
    at hBegins hLetters hRun
  have hStep (idle : Bool) := step_word hBegins.isPiece.ne_nil hLetters idle place
  have hFeed : '\n' ∉ piece := fun hMem => absurd (hLetters '\n' hMem) (by decide)
  refine .yields hBegins hStep ?_
  rw [word, on_bind_of_ok (on_get _), on_bind_of_ok (on_advance place c rest),
    on_bind_of_ok hRun, on_bind_of_ok (on_text hBegins place),
    on_bind_of_ok (on_span hFeed place after)]
  rfl

/-- **A run of digits** is taken as a numeral. -/
theorem takes_numeral (hDigit : c.isDigit = true) (hBound : rest.length + 1 < bound) :
    Takes (numeral place.line place.column bound) place (c :: rest) := by
  obtain ⟨hBegins, hDigits⟩ := begins_numeral hDigit rest
  have hRun : on (run Char.isDigit bound) ⟨place, c :: rest⟩ = some (.ok (),
      ⟨place.pass (c :: rest.takeWhile Char.isDigit), rest.dropWhile Char.isDigit⟩) := by
    rw [on_run hBound, List.takeWhile_cons_of_pos hDigit, List.dropWhile_cons_of_pos hDigit]
  generalize c :: rest.takeWhile Char.isDigit = piece, rest.dropWhile Char.isDigit = after
    at hBegins hDigits hRun
  have hNonempty := hBegins.isPiece.ne_nil
  have hReading := Reading.of_digits hNonempty hDigits
  have hFeed : '\n' ∉ piece := fun hMem => absurd (hDigits '\n' hMem) (by decide)
  have hSpan := on_span hFeed place after
  have hNumeral : on (numeral place.line place.column bound) ⟨place, c :: rest⟩ =
      on (integer place.line place.column piece) ⟨place.pass piece, after⟩ := by
    rw [numeral, on_bind_of_ok (on_get _), on_bind_of_ok hRun,
      on_bind_of_ok (on_text hBegins place)]
  by_cases hLong : digitLimit < piece.length
  · have hConvert : convert piece = .error (.numeralTooLong piece.length) := by
      simp [convert, hNonempty, hLong]
    refine .fails hBegins (fun _ => by rw [step, hReading, Reading.ofDigits, if_pos hLong]) ?_
    rw [hNumeral, integer, hConvert]
    rfl
  have hConvert : convert piece = .ok (Nat.ofDigitChars 10 piece 0) := by
    simp [convert, hNonempty, hLong]
  by_cases hLarge : int64Max < Nat.ofDigitChars 10 piece 0
  · refine .fails hBegins (fun _ => by
      rw [step, hReading, Reading.ofDigits, if_neg hLong, if_pos hLarge]) ?_
    rw [hNumeral, integer, hConvert, attempt, pure_bind, if_pos hLarge, on_bind_of_ok hSpan]
    rfl
  · refine .yields hBegins (fun _ => by
      rw [step, hReading, Reading.ofDigits, if_neg hLong, if_neg hLarge]) ?_
    rw [hNumeral, integer, hConvert, attempt, pure_bind, if_neg hLarge, on_bind_of_ok hSpan]
    rfl

/-- **Any other character** that is no blank is taken as a mark. -/
theorem takes_mark (hMark : IsMark c) (hBlank : c ∉ Kind.blanks) (place : Place)
    (rest : List Char) : Takes (mark place.line place.column (some c)) place (c :: rest) := by
  have hBegins := begins_mark hMark rest
  have hFeed : c ≠ '\n' := by
    rintro rfl
    exact hBlank (by decide)
  have hReading := Reading.of_mark hMark.1 hMark.2
  have hSpan : on (span place.line place.column) ⟨place.next c, rest⟩ =
      some (.ok (spanAt place [c]), ⟨place.pass [c], rest⟩) :=
    on_span (mt List.mem_singleton.1 hFeed.symm) place rest
  rw [Reading.ofMark, if_neg hFeed, if_neg hBlank] at hReading
  cases hFound : Kind.punctuation.lookup c with
  | some kind =>
      rw [hFound] at hReading
      refine .yields hBegins (fun _ => by rw [step, hReading]) ?_
      rw [mark, on_bind_of_ok (on_advance place c rest)]
      simp only [Option.bind_some, hFound]
      rw [on_bind_of_ok hSpan]
      rfl
  | none =>
      rw [hFound] at hReading
      refine .fails hBegins (fun _ => by rw [step, hReading]) ?_
      rw [mark, on_bind_of_ok (on_advance place c rest)]
      simp only [Option.bind_some, hFound]
      rw [on_bind_of_ok hSpan]
      rfl

/-! ## Lexemes -/

/-- What a request for one more lexeme comes to, and the cursor that it leaves. -/
def reply : Next → Except Failure (Option Lexeme) × Cursor
  | .lexeme lexeme cursor => (.ok (some lexeme), cursor)
  | .ended cursor => (.ok none, cursor)
  | .failed failure cursor => (.error failure, cursor)

/-- Where a procedure takes the first piece, it reads what scanning reads. -/
private theorem Takes.on_some {procedure : Reader Lexeme} (hTakes : Takes procedure place text)
    (idle : Bool) :
    on (do return some (← procedure)) ⟨place, text⟩ =
      some (reply (Cursor.nextLexeme idle ⟨place, text⟩)) := by
  cases hTakes with
  | yields hBegins hStep hOn =>
      rw [hBegins.nextLexeme_of_yield (hStep idle), on_bind_of_ok hOn]
      rfl
  | fails hBegins hStep hOn =>
      rw [hBegins.nextLexeme_of_fail (hStep idle), on_bind_of_error hOn]
      rfl

/-- A blank yields nothing, unless it is a line feed that is not idle. -/
private theorem step_blank (hMark : IsMark c) (hBlank : c ∈ Kind.blanks) (idle : Bool)
    (place : Place) :
    step idle place [c] =
      if c = '\n' ∧ ¬idle then .yield (lexemeAt place [c] .lineBreak .absent) else .skip := by
  rw [step, Reading.of_mark hMark.1 hMark.2, Reading.ofMark]
  by_cases hFeed : c = '\n'
  · cases idle <;> simp [hFeed]
  · simp [hFeed, hBlank]

/-- **Reading up to a lexeme**, or to the end, comes to what scanning comes to. -/
theorem on_next {cursor : Cursor} {rounds : Nat} (idle : Bool)
    (hBound : cursor.rest.length < bound) (hRounds : cursor.rest.length < rounds) :
    on (Reader.next bound rounds idle) cursor = some (reply (cursor.nextLexeme idle)) := by
  induction rounds generalizing cursor with
  | zero => exact absurd hRounds (Nat.not_lt_zero _)
  | succ rounds ih =>
      obtain ⟨place, text⟩ := cursor
      cases text with
      | nil => rfl
      | cons c rest =>
          have hLeft : rest.length < bound := Nat.lt_of_succ_lt hBound
          have hMore : Cursor.atEnd ⟨place, c :: rest⟩ = false := rfl
          rw [Reader.next, on_bind_of_ok (on_get _), hMore, if_neg Bool.false_ne_true,
            on_bind_of_ok (on_peek place c rest)]
          simp only [Option.any_some, decide_eq_true_eq, Option.some.injEq]
          by_cases hLetter : c.isAlpha = true
          · rw [if_pos hLetter]
            exact (takes_word hLetter hLeft).on_some idle
          by_cases hDigit : c.isDigit = true
          · rw [if_neg hLetter, if_pos hDigit]
            exact (takes_numeral hDigit hBound).on_some idle
          have hMark : IsMark c := ⟨Bool.eq_false_iff.2 hLetter, Bool.eq_false_iff.2 hDigit⟩
          rw [if_neg hLetter, if_neg hDigit]
          by_cases hBlank : c ∈ Kind.blanks
          · have hBegins := begins_mark hMark rest
            have hStep := step_blank hMark hBlank idle place
            rw [if_pos hBlank, on_bind_of_ok (on_advance place c rest)]
            by_cases hYields : c = '\n' ∧ ¬idle
            · have hSpan : Span.ofFields place.line place.column 1 = .ok (spanAt place [c]) :=
                Span.ofFields_cast (spanAt place [c])
              rw [if_pos hYields] at hStep
              rw [if_pos hYields, hSpan, hBegins.nextLexeme_of_yield hStep, hYields.1]
              rfl
            · rw [if_neg hYields] at hStep
              rw [if_neg hYields, hBegins.nextLexeme_of_skip hStep]
              exact ih hLeft (Nat.lt_of_succ_lt_succ hRounds)
          · rw [if_neg hBlank]
            exact (takes_mark hMark hBlank place rest).on_some idle

/-- A lexeme takes characters. -/
private theorem length_rest_lt {segments : List (List Char)}
    (hPieces : ∀ piece ∈ segments, piece ≠ [])
    {idle : Bool} {lexeme : Lexeme} {now : Cursor}
    (hNext : Scan.next idle place segments = .lexeme lexeme now) :
    now.rest.length < segments.flatten.length := by
  induction segments generalizing place with
  | nil => cases hNext
  | cons piece segments ih =>
      obtain ⟨hPiece, hLater⟩ := List.forall_mem_cons.1 hPieces
      have hShorter : segments.flatten.length < (piece :: segments).flatten.length := by
        have hPositive := List.length_pos_iff.2 hPiece
        rw [List.flatten_cons, List.length_append]
        omega
      rw [Scan.next] at hNext
      cases hStep : step idle place piece with
      | yield found =>
          rw [hStep] at hNext
          cases hNext
          exact hShorter
      | skip =>
          rw [hStep] at hNext
          exact Nat.lt_trans (ih hLater hNext) hShorter
      | fail failure =>
          rw [hStep] at hNext
          cases hNext

/-- **Reading all lexemes** comes to what scanning comes to, wherever that ends. -/
theorem on_all {idle : Bool} {cursor : Cursor} {result : Result}
    (hReads : ReadsOn idle cursor result) {rounds : Nat} (hBound : cursor.rest.length < bound)
    (hRounds : cursor.rest.length < rounds) :
    on (Reader.all bound rounds idle) cursor = some (result.outcome, result.cursor) := by
  induction hReads generalizing rounds with
  | @lexeme idle cursor now lexeme result hNext _ ih =>
      obtain ⟨rounds, rfl⟩ := Nat.exists_eq_succ_of_ne_zero (Nat.ne_zero_of_lt hRounds)
      have hShorter : now.rest.length < (pieces cursor.rest).flatten.length :=
        length_rest_lt (fun _ hMem => (isPiece_of_mem hMem).ne_nil) hNext
      rw [flatten_pieces] at hShorter
      have hFirst := on_next idle hBound hBound
      rw [hNext] at hFirst
      have hLeft : now.rest.length < rounds := by omega
      have hLater := ih (Nat.lt_trans hShorter hBound) hLeft
      rw [Reader.all, on_bind_of_ok hFirst]
      show on (do return lexeme :: (← Reader.all bound rounds (lexeme.kind = .lineBreak))) now = _
      obtain ⟨lexemes, failure, final⟩ := result
      cases failure with
      | none =>
          rw [on_bind_of_ok hLater]
          rfl
      | some failure =>
          rw [on_bind_of_error hLater]
          rfl
  | @ended idle cursor final hNext =>
      obtain ⟨rounds, rfl⟩ := Nat.exists_eq_succ_of_ne_zero (Nat.ne_zero_of_lt hRounds)
      have hFirst := on_next idle hBound hBound
      rw [hNext] at hFirst
      rw [Reader.all, on_bind_of_ok hFirst]
      rfl
  | @failed idle cursor final failure hNext =>
      obtain ⟨rounds, rfl⟩ := Nat.exists_eq_succ_of_ne_zero (Nat.ne_zero_of_lt hRounds)
      have hFirst := on_next idle hBound hBound
      rw [hNext] at hFirst
      rw [Reader.all, on_bind_of_error hFirst]
      rfl

/-! ## Faults -/

/-- A piece is no fault, unless it is a numeral beyond the conversion limit. -/
private theorem fault_of_step {piece : List Char} (hPiece : IsPiece piece) {idle : Bool}
    {fault : Fault}
    (hStep : step idle place piece = .fail (.fault fault)) :
    ∃ digits, fault = .numeralTooLong digits := by
  have hReads := hPiece.reads
  unfold step at hStep
  generalize Reading.of piece = reading at hReads hStep
  cases hReads with
  | tooLong =>
      cases hStep
      exact ⟨_, rfl⟩
  | lineBreak => cases idle <;> cases hStep
  | lexeme | space | unrecognised | overflow => cases hStep

private theorem fault_of_next {segments : List (List Char)}
    (hPieces : ∀ piece ∈ segments, IsPiece piece)
    {idle : Bool} {fault : Fault} {now : Cursor}
    (hNext : Scan.next idle place segments = .failed (.fault fault) now) :
    ∃ digits, fault = .numeralTooLong digits := by
  induction segments generalizing place with
  | nil => cases hNext
  | cons piece segments ih =>
      obtain ⟨hPiece, hLater⟩ := List.forall_mem_cons.1 hPieces
      rw [Scan.next] at hNext
      cases hStep : step idle place piece with
      | yield found =>
          rw [hStep] at hNext
          cases hNext
      | skip =>
          rw [hStep] at hNext
          exact ih hLater hNext
      | fail failure =>
          rw [hStep] at hNext
          cases hNext
          exact fault_of_step hPiece hStep

/-- **Reading is safe.**  From every cursor reading character by character ends, and it
comes to what scanning comes to, for one lexeme and for all of them.  It fails at no
fault, be it the end of the text or a negative span, but a numeral beyond the conversion
limit. -/
theorem reading_safe {cursor : Cursor} (idle : Bool) (hBound : cursor.rest.length < bound) :
    on (Reader.next bound bound idle) cursor = some (reply (cursor.nextLexeme idle)) ∧
    on (Reader.all bound bound idle) cursor =
      some ((cursor.lexemes idle).outcome, (cursor.lexemes idle).cursor) ∧
    ∀ fault left, on (Reader.next bound bound idle) cursor = some (.error (.fault fault), left) →
      ∃ digits, fault = .numeralTooLong digits := by
  have hNext := on_next idle hBound hBound
  refine ⟨hNext, on_all (readsOn_lexemes idle cursor) hBound hBound, ?_⟩
  intro fault left hFails
  rw [hNext] at hFails
  cases hFound : cursor.nextLexeme idle with
  | lexeme lexeme now =>
      rw [hFound] at hFails
      cases hFails
  | ended now =>
      rw [hFound] at hFails
      cases hFails
  | failed failure now =>
      rw [hFound] at hFails
      cases hFails
      exact fault_of_next (fun _ => isPiece_of_mem) hFound

/-- Both faults are there to be met: a character taken at the end of a text, and a span
that ends before it begins. -/
example : on advance ⟨⟨2, 0, 2⟩, []⟩ = some (.error (.fault .textExhausted), ⟨⟨2, 0, 2⟩, []⟩) ∧
    on (span 0 3) ⟨⟨2, 0, 2⟩, []⟩ =
      some (.error (.fault (.negativeSpan 0 3 (-1))), ⟨⟨2, 0, 2⟩, []⟩) := ⟨rfl, rfl⟩

end Reader

end Frontend.Scan
