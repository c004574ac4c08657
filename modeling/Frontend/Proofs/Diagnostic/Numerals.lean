import Frontend.Proofs.Diagnostic.Fit
import Frontend.Proofs.Lexeme.Beginnings

/-!
# Numerals of any length

A numeral is a maximal run of digits.  Where nothing before it is wrong, its value alone
should decide what becomes of it: it is a literal, with however many leading zeros, or
it is reported as a whole for being too large.  A source of which that holds, and of
which nothing else is reported but diagnostics, is `Diagnosed`.

The conversion limit stands in the way, since it is a limit on the length of a numeral.
What scanning makes of a numeral is known exactly (`Reaches.scan_eq`), and it fails
without a diagnostic at no other piece (`exists_reaches_of_fault`).  So the sources that
are diagnosed are those in which no numeral that scanning comes to is longer than the
limit (`diagnosed_iff_numeralsShort`), and a run of zeros is enough to show that not all
are (`zeros_not_diagnosed`).
-/

namespace Frontend

open Source (Place)

/-! ## Numerals -/

/-- A maximal run of digits in a text, and what is before and after it. -/
structure IsNumeral (text before run after : List Char) : Prop where
  parts : text = before ++ (run ++ after)
  nonempty : run ≠ []
  digits : ∀ c ∈ run, c.isDigit = true
  left : ∀ c ∈ before.getLast?, c.isDigit = false
  right : ∀ c ∈ after.head?, c.isDigit = false

/-- A numeral of a source before which nothing is wrong, and the lexemes before it. -/
structure Reaches (source : String) (before run : List Char) (lexemes : List Lexeme) : Prop where
  numeral : ∃ after, IsNumeral source.toList before run after
  earlier : lex (String.ofList before) = .ok lexemes

private theorem joins_digit_left {c d : Char} (hDigit : c.isDigit = true) :
    joins c d = d.isDigit := by
  cases hOther : d.isDigit with
  | true => simp [joins, hDigit, hOther]
  | false =>
      rw [Bool.eq_false_iff]
      intro hJoins
      rw [isDigit_of_joins hJoins hDigit] at hOther
      cases hOther

private theorem joins_comm (c d : Char) : joins c d = joins d c := by
  simp only [joins, Bool.and_comm]

open Scan

section Reached

variable {source : String} {text before run after : List Char} {lexemes : List Lexeme}

/-- A maximal run of digits is a piece. -/
theorem IsNumeral.pieces_eq (hNumeral : IsNumeral text before run after) :
    pieces text = pieces before ++ run :: pieces after := by
  have hLeft : ∀ c ∈ before.getLast?, ∀ d ∈ (run ++ after).head?, joins c d = false := by
    intro c hLast d hHead
    rw [List.head?_append_of_ne_nil _ hNumeral.nonempty] at hHead
    have hDigit := hNumeral.digits d (List.mem_of_mem_head? hHead)
    rw [joins_comm, joins_digit_left hDigit]
    exact hNumeral.left c hLast
  have hRight : ∀ c ∈ run.getLast?, ∀ d ∈ after.head?, joins c d = false := by
    intro c hLast d hHead
    rw [joins_digit_left (hNumeral.digits c (List.mem_of_mem_getLast? hLast))]
    exact hNumeral.right d hHead
  have hRun : pieces run = [run] := pieces_of_isPiece (.digits hNumeral.nonempty hNumeral.digits)
  calc pieces text = pieces (before ++ (run ++ after)) := by rw [hNumeral.parts]
    _ = pieces before ++ pieces (run ++ after) := List.splitBy_append hLeft
    _ = pieces before ++ (pieces run ++ pieces after) := by
        rw [show pieces (run ++ after) = pieces run ++ pieces after from List.splitBy_append hRight]
    _ = pieces before ++ run :: pieces after := by rw [hRun, List.singleton_append]

theorem IsNumeral.reading_eq (hNumeral : IsNumeral text before run after) :
    Reading.of run = Reading.ofDigits run :=
  Reading.of_digits hNumeral.nonempty hNumeral.digits

/-- A numeral beyond the conversion limit is not read, whatever its value. -/
theorem IsNumeral.step_of_long (hNumeral : IsNumeral text before run after)
    (hLong : digitLimit < run.length) (idle : Bool) (place : Place) :
    step idle place run = .fail (.fault (.numeralTooLong run.length)) := by
  rw [step, hNumeral.reading_eq, Reading.ofDigits, if_pos hLong]

/-- A numeral within the limit that is too large is reported as a whole. -/
theorem IsNumeral.step_of_large (hNumeral : IsNumeral text before run after)
    (hShort : run.length ≤ digitLimit) (hLarge : int64Max < Nat.ofDigitChars 10 run 0)
    (idle : Bool) (place : Place) :
    step idle place run =
      .fail (.diagnostic ⟨.integerOverflow (String.ofList run), spanAt place run⟩) := by
  rw [step, hNumeral.reading_eq, Reading.ofDigits, if_neg (Nat.not_lt.2 hShort), if_pos hLarge]

/-- **A numeral** is read where scanning comes to it, after the lexemes before it. -/
theorem Reaches.scan_eq (hReaches : Reaches source before run lexemes) :
    ∃ idle rest, scan source =
      (all idle (Place.start.pass before) (run :: rest)).prepend lexemes := by
  obtain ⟨⟨after, hNumeral⟩, hEarlier⟩ := hReaches
  refine ⟨idleAfter true lexemes, pieces after, ?_⟩
  rw [← all_append_of_lex hEarlier, ← hNumeral.pieces_eq]
  rfl

/-- Scanning fails at a numeral as the numeral does. -/
private theorem Reaches.lex_eq_error {failure : Failure}
    (hReaches : Reaches source before run lexemes)
    (hStep : ∀ idle, step idle (Place.start.pass before) run = .fail failure) :
    lex source = .error failure := by
  obtain ⟨idle, rest, hScan⟩ := hReaches.scan_eq
  rw [all, hStep idle] at hScan
  rw [lex, hScan]
  rfl

private theorem Reaches.lex_of_long (hReaches : Reaches source before run lexemes)
    (hLong : digitLimit < run.length) :
    lex source = .error (.fault (.numeralTooLong run.length)) := by
  obtain ⟨after, hNumeral⟩ := hReaches.numeral
  exact hReaches.lex_eq_error fun idle => hNumeral.step_of_long hLong idle _

private theorem Reaches.lex_of_large (hReaches : Reaches source before run lexemes)
    (hShort : run.length ≤ digitLimit) (hLarge : int64Max < Nat.ofDigitChars 10 run 0) :
    lex source = .error (.diagnostic
      ⟨.integerOverflow (String.ofList run), spanAt (Place.start.pass before) run⟩) := by
  obtain ⟨after, hNumeral⟩ := hReaches.numeral
  exact hReaches.lex_eq_error fun idle => hNumeral.step_of_large hShort hLarge idle _

/-- The literal that a numeral is read as. -/
def literalAt (before run : List Char) : Lexeme :=
  lexemeAt (Place.start.pass before) run .integer (.integer (Nat.ofDigitChars 10 run 0))

/-- A numeral within the limit that is not too large is the next lexeme. -/
private theorem Reaches.prefix_of_fits (hReaches : Reaches source before run lexemes)
    (hShort : run.length ≤ digitLimit) (hFits : Nat.ofDigitChars 10 run 0 ≤ int64Max) :
    lexemes ++ [literalAt before run] <+: (scan source).lexemes := by
  obtain ⟨idle, rest, hScan⟩ := hReaches.scan_eq
  obtain ⟨after, hNumeral⟩ := hReaches.numeral
  have hReading : Reading.of run = .lexeme .integer (.integer (Nat.ofDigitChars 10 run 0)) := by
    rw [hNumeral.reading_eq, Reading.ofDigits, if_neg (Nat.not_lt.2 hShort),
      if_neg (Nat.not_lt.2 hFits)]
  rw [all_lexeme hReading] at hScan
  rw [hScan]
  show lexemes ++ [literalAt before run] <+: lexemes ++ ([literalAt before run] ++ _)
  rw [← List.append_assoc]
  exact List.prefix_append _ _

/-- A cut that holds digits is a numeral. -/
theorem isNumeral_of_isCut {cut : Cut} (hCut : IsCut text cut after)
    (hDigits : ∀ c ∈ cut.piece, c.isDigit = true) :
    IsNumeral text cut.before cut.piece after where
  parts := hCut.parts
  nonempty := hCut.piece.ne_nil
  digits := hDigits
  left := by
    intro c hLast
    have hHead := List.head?_eq_some_head hCut.piece.ne_nil
    have hApart := hCut.left c hLast _ hHead
    rwa [joins_comm, joins_digit_left (hDigits _ (List.mem_of_mem_head? hHead))] at hApart
  right := by
    intro c hHead
    have hLast := List.getLast?_eq_some_getLast hCut.piece.ne_nil
    have hApart := hCut.right _ hLast c hHead
    rwa [joins_digit_left (hDigits _ (List.mem_of_mem_getLast? hLast))] at hApart

/-- **Faults of scanning** are numerals beyond the limit, and scanning has come to
them. -/
theorem exists_reaches_of_fault {fault : Fault} (hLex : lex source = .error (.fault fault)) :
    ∃ before run lexemes, Reaches source before run lexemes ∧ digitLimit < run.length ∧
      fault = .numeralTooLong run.length := by
  have hFailure : (all true Place.start (pieces source.toList)).failure = some (.fault fault) :=
    Result.outcome_eq_error_iff.1 hLex
  obtain ⟨first, run, second, idle, hPieces, hFirst, hFail⟩ := exists_failing_piece hFailure
  obtain ⟨after, hCut⟩ := exists_isCut hPieces
  have hReports := reports_of_failure? hCut.piece (failure?_of_fail hFail)
  cases hReports with
  | tooLong hDigits hLong =>
      exact ⟨first.flatten, run, (all true Place.start first).lexemes,
        ⟨⟨after, isNumeral_of_isCut hCut hDigits⟩, lex_flatten_left hPieces hFirst⟩, hLong, rfl⟩

end Reached

/-! ## Sources that are diagnosed -/

/-- Whatever is wrong with a source is told by a diagnostic.  Scanning yields the
lexemes or a diagnostic of its own stage; a numeral that it comes to is reported if it
is too large and a literal otherwise; and validation yields a verdict on every machine,
if the length of the source can be counted at all. -/
structure Diagnosed (source : String) : Prop where
  lexed : (∃ lexemes, lex source = .ok lexemes) ∨
    ∃ diagnostic, lex source = .error (.diagnostic diagnostic) ∧ diagnostic.stage = .lexical
  reported : ∀ before run lexemes, Reaches source before run lexemes →
    int64Max < Nat.ofDigitChars 10 run 0 → lex source = .error (.diagnostic
      ⟨.integerOverflow (String.ofList run), spanAt (Place.start.pass before) run⟩)
  accepted : ∀ before run lexemes, Reaches source before run lexemes →
    Nat.ofDigitChars 10 run 0 ≤ int64Max →
      lexemes ++ [literalAt before run] <+: (scan source).lexemes
  validated : source.length ≤ int64Max → ∀ limit, ∃ verdict, validate limit source = .ok verdict

/-- No numeral that scanning comes to is beyond the conversion limit. -/
def NumeralsShort (source : String) : Prop :=
  ∀ before run lexemes, Reaches source before run lexemes → run.length ≤ digitLimit

private theorem lexed_of_numeralsShort {source : String} (hShort : NumeralsShort source) :
    (∃ lexemes, lex source = .ok lexemes) ∨
      ∃ diagnostic, lex source = .error (.diagnostic diagnostic) ∧ diagnostic.stage = .lexical := by
  cases hLex : lex source with
  | ok lexemes => exact Or.inl ⟨lexemes, rfl⟩
  | error failure =>
      cases failure with
      | diagnostic diagnostic => exact Or.inr ⟨diagnostic, rfl, (fitsOn_of_lex hLex).1⟩
      | fault fault =>
          obtain ⟨before, run, lexemes, hReaches, hLong, _⟩ := exists_reaches_of_fault hLex
          exact absurd (hShort before run lexemes hReaches) (Nat.not_le.2 hLong)

private theorem IsReported.exists_verdict {limit : Nat} {source : String}
    (hReported : IsReported limit source) : ∃ verdict, validate limit source = .ok verdict := by
  rcases hReported with ⟨hValid, _⟩ | ⟨_, _, _, _, hRejected, _⟩
  · exact ⟨_, hValid⟩
  · exact ⟨_, hRejected⟩

private theorem diagnosed_of_numeralsShort {source : String} (hShort : NumeralsShort source) :
    Diagnosed source where
  lexed := lexed_of_numeralsShort hShort
  reported := fun before run lexemes hReaches hLarge =>
    hReaches.lex_of_large (hShort before run lexemes hReaches) hLarge
  accepted := fun before run lexemes hReaches hFits =>
    hReaches.prefix_of_fits (hShort before run lexemes hReaches) hFits
  validated := by
    intro hCounted limit
    rcases lexed_of_numeralsShort hShort with ⟨lexemes, hLex⟩ | ⟨diagnostic, hLex, _⟩
    · exact (isReported_of_lexemes hCounted hLex).exists_verdict
    · exact (isReported_of_lex hCounted hLex).exists_verdict

/-- In particular, a source that is itself within the limit is diagnosed. -/
theorem diagnosed_of_length_le {source : String} (hLength : source.length ≤ digitLimit) :
    Diagnosed source := by
  apply diagnosed_of_numeralsShort
  rintro before run lexemes ⟨⟨after, hNumeral⟩, _⟩
  have hParts := congrArg List.length hNumeral.parts
  rw [String.length_toList, List.length_append, List.length_append] at hParts
  omega

/-- A numeral beyond the limit leaves the source without a diagnostic. -/
private theorem Reaches.not_diagnosed {source : String} {before run : List Char}
    {lexemes : List Lexeme}
    (hReaches : Reaches source before run lexemes) (hLong : digitLimit < run.length) :
    ¬Diagnosed source := by
  intro hDiagnosed
  have hLex := hReaches.lex_of_long hLong
  rcases hDiagnosed.lexed with ⟨found, hFound⟩ | ⟨diagnostic, hFound, _⟩
  · cases hFound.symm.trans hLex
  · cases hFound.symm.trans hLex

/-- **What is diagnosed.**  A source is diagnosed exactly if no numeral that scanning
comes to is beyond the conversion limit.  If one is, scanning and validation both fail
with a fault that tells its length. -/
theorem diagnosed_iff_numeralsShort (source : String) :
    (Diagnosed source ↔ NumeralsShort source) ∧
    (Diagnosed source ∨ ∃ before run lexemes, Reaches source before run lexemes ∧
      digitLimit < run.length ∧
      lex source = .error (.fault (.numeralTooLong run.length)) ∧
      ∀ limit, validate limit source = .error (.numeralTooLong run.length)) := by
  refine ⟨⟨?_, diagnosed_of_numeralsShort⟩, ?_⟩
  · intro hDiagnosed before run lexemes hReaches
    by_contra hLong
    exact hReaches.not_diagnosed (Nat.not_le.1 hLong) hDiagnosed
  · by_cases hShort : NumeralsShort source
    · exact Or.inl (diagnosed_of_numeralsShort hShort)
    · unfold NumeralsShort at hShort
      push Not at hShort
      obtain ⟨before, run, lexemes, hReaches, hLong⟩ := hShort
      have hLex := hReaches.lex_of_long hLong
      refine Or.inr ⟨before, run, lexemes, hReaches, hLong, hLex, fun limit => ?_⟩
      rw [validate, Program.ofSource_of_lex_error hLex]
      rfl

/-- One zero more than the conversion limit allows. -/
def zeros : List Char := List.replicate (digitLimit + 1) '0'

private theorem reaches_zeros : Reaches (String.ofList zeros) [] zeros [] where
  numeral := by
    refine ⟨[], ?_, List.cons_ne_nil _ _, ?_, nofun, nofun⟩
    · rw [String.toList_ofList, List.append_nil, List.nil_append]
    · intro c hMem
      rw [List.eq_of_mem_replicate hMem]
      rfl
  earlier := rfl

/-- So many zeros are not read as a literal, though their value is nothing. -/
theorem zeros_not_diagnosed :
    Nat.ofDigitChars 10 zeros 0 = 0 ∧
    lex (String.ofList zeros) = .error (.fault (.numeralTooLong 4301)) ∧
    ¬Diagnosed (String.ofList zeros) := by
  have hLength : zeros.length = 4301 := List.length_replicate
  have hLong : digitLimit < zeros.length := hLength ▸ by decide
  refine ⟨?_, ?_, reaches_zeros.not_diagnosed hLong⟩
  · rw [zeros, Nat.ofDigitChars_replicate_zero, Nat.mul_zero]
  · rw [reaches_zeros.lex_of_long hLong, hLength]

end Frontend
