import Frontend.Proofs.Diagnostic.Numerals
import Frontend.Proofs.Lexeme.Cursors

/-!
# The first offence

Two things have no lexeme wherever they stand in a text: a character that is no letter,
no digit, no blank and no punctuation mark, and a numeral that is too large or too long.
Which parts of a text offend in this way can be told from the text alone (`Offends`): a
stray character by itself, a numeral by the run of digits as a whole, so that leading
zeros count for its length but not for its value, and a letter between two digits makes
two numerals of them.

Scanning goes from the left.  Every offence is a piece of the text, and the text before
it has the pieces that it has by itself (`Offends.pieces_eq`).  So the text before the
first offence is read as if nothing came after it, and scanning fails at the offence
(`FirstOffence.scan_eq`).
-/

namespace Frontend

open Source (Place Cursor)
open Scan

/-! ## Offences -/

/-- A part of a text that has no lexeme, and the failure that says so. -/
inductive Offends (text before : List Char) : List Char → Failure → Prop where
  | stray {c : Char} {after : List Char} (hText : text = before ++ c :: after)
      (hLetter : c.isAlpha = false) (hDigit : c.isDigit = false) (hBlank : c ∉ Kind.blanks)
      (hMark : c ∉ Kind.punctuation.map Prod.fst) :
      Offends text before [c]
        (.diagnostic ⟨.unrecognisedToken (String.ofList [c]), spanAfter before [c]⟩)
  | tooLarge {run after : List Char} (hNumeral : IsNumeral text before run after)
      (hShort : run.length ≤ digitLimit) (hLarge : int64Max < Nat.ofDigitChars 10 run 0) :
      Offends text before run
        (.diagnostic ⟨.integerOverflow (String.ofList run), spanAfter before run⟩)
  | tooLong {run after : List Char} (hNumeral : IsNumeral text before run after)
      (hLong : digitLimit < run.length) :
      Offends text before run (.fault (.numeralTooLong run.length))

/-- An offence that no other one stands before. -/
structure FirstOffence (text before item : List Char) (failure : Failure) : Prop where
  offends : Offends text before item failure
  leftmost : ∀ earlier other cause, Offends text earlier other cause →
    before.length ≤ earlier.length

private theorem lookup_punctuation_eq_none_iff (c : Char) :
    Kind.punctuation.lookup c = none ↔ c ∉ Kind.punctuation.map Prod.fst := by
  rw [List.lookup_eq_none_iff, List.mem_map]
  constructor
  · rintro hApart ⟨entry, hMem, rfl⟩
    simpa using hApart entry hMem
  · intro hNone entry hMem
    exact bne_iff_ne.2 fun hSame => hNone ⟨entry, hMem, hSame.symm⟩

namespace Offends

variable {text before item : List Char} {failure : Failure}

/-- **An offence** is a piece of the text, and divides its pieces into those of two
texts. -/
theorem pieces_eq (hOffends : Offends text before item failure) :
    ∃ after, text = before ++ (item ++ after) ∧
      pieces text = pieces before ++ item :: pieces after := by
  cases hOffends with
  | @stray c after hText hLetter hDigit =>
      refine ⟨after, hText, ?_⟩
      rw [hText]
      exact pieces_append_mark ⟨hLetter, hDigit⟩ before after
  | @tooLarge run after hNumeral | @tooLong run after hNumeral =>
      exact ⟨after, hNumeral.parts, hNumeral.pieces_eq⟩

/-- Scanning fails where it comes to an offence. -/
theorem step_eq (hOffends : Offends text before item failure) (idle : Bool) :
    step idle (Place.start.pass before) item = .fail failure := by
  cases hOffends with
  | @stray c after _ hLetter hDigit hBlank hMark =>
      have hFeed : c ≠ '\n' := by
        rintro rfl
        exact hBlank (by decide)
      have hLookup := (lookup_punctuation_eq_none_iff c).2 hMark
      rw [step, Reading.of_mark hLetter hDigit, Reading.ofMark, if_neg hFeed, if_neg hBlank,
        hLookup, ← spanAt_start_pass]
  | tooLarge hNumeral hShort hLarge =>
      rw [hNumeral.step_of_large hShort hLarge, spanAt_start_pass]
  | tooLong hNumeral hLong => exact hNumeral.step_of_long hLong idle _

end Offends

/-- A cut of a text that causes a failure is an offence. -/
private theorem offends_of_failure? {text after : List Char} {cut : Cut} {failure : Failure}
    (hCut : IsCut text cut after) (hFailure : cut.failure? = some failure) :
    Offends text cut.before cut.piece failure := by
  cases fails_of_failure? hCut.piece hFailure with
  | stray hSingle hLetter hDigit hBlank hMark =>
      have hText := hCut.parts
      rw [hSingle] at hText ⊢
      rw [Cut.place, spanAt_start_pass]
      exact .stray hText hLetter hDigit hBlank ((lookup_punctuation_eq_none_iff _).1 hMark)
  | tooLarge hDigits hShort hLarge =>
      rw [Cut.place, spanAt_start_pass]
      exact .tooLarge (isNumeral_of_isCut hCut hDigits) hShort hLarge
  | tooLong hDigits hLong => exact .tooLong (isNumeral_of_isCut hCut hDigits) hLong

section Pieces

variable {text piece : List Char} {first second : List (List Char)} {failure : Failure}

/-- A piece of a text that cannot be read is an offence. -/
private theorem offends_of_fail (hPieces : pieces text = first ++ piece :: second) {idle : Bool}
    (hFail : step idle (Place.start.pass first.flatten) piece = .fail failure) :
    Offends text first.flatten piece failure := by
  obtain ⟨after, hCut⟩ := exists_isCut hPieces
  exact offends_of_failure? hCut (failure?_of_fail hFail)

/-- A text one piece of which cannot be read has no lexemes. -/
private theorem lex_ne_ok_of_fail (hPieces : pieces text = first ++ piece :: second)
    (hFail : ∀ idle, step idle (Place.start.pass first.flatten) piece = .fail failure)
    (lexemes : List Lexeme) : lex (String.ofList text) ≠ .ok lexemes := by
  rw [lex_ofList, hPieces]
  intro hLex
  have hEnd := (Result.outcome_eq_ok_iff.1 hLex).1
  cases hFirst : (all true Place.start first).failure with
  | none =>
      rw [all_append hFirst, all, hFail] at hEnd
      cases hEnd
  | some other =>
      rw [failure_append hFirst] at hEnd
      cases hEnd

end Pieces

/-! ## The first of them -/

section First

variable {text before item : List Char} {failure : Failure}

private theorem Offends.lex_ne_ok (hOffends : Offends text before item failure)
    (lexemes : List Lexeme) :
    lex (String.ofList text) ≠ .ok lexemes := by
  obtain ⟨after, _, hPieces⟩ := hOffends.pieces_eq
  have hFail := hOffends.step_eq
  rw [← flatten_pieces before] at hFail
  exact lex_ne_ok_of_fail hPieces hFail lexemes

/-- An offence is the first if the text before it can be read. -/
private theorem Offends.first_of_lex_ok {lexemes : List Lexeme}
    (hOffends : Offends text before item failure)
    (hBefore : lex (String.ofList before) = .ok lexemes) :
    FirstOffence text before item failure := by
  refine ⟨hOffends, fun earlier other cause hEarlier => ?_⟩
  by_contra hShorter
  obtain ⟨after, _, hPieces⟩ := hOffends.pieces_eq
  obtain ⟨later, _, hSplit⟩ := hEarlier.pieces_eq
  -- Both offences divide the same pieces, so the earlier one is a piece of the text
  -- before the later.
  rcases List.append_eq_append_iff.1 (hPieces.symm.trans hSplit) with
    ⟨between, hBetween, _⟩ | ⟨between, hBetween, hRest⟩
  · have hLength := congrArg (fun segments => segments.flatten.length) hBetween
    simp only [List.flatten_append, List.length_append, flatten_pieces] at hLength
    omega
  · cases between with
    | nil =>
        rw [List.append_nil] at hBetween
        have hSame := congrArg List.flatten hBetween
        rw [flatten_pieces, flatten_pieces] at hSame
        exact hShorter (le_of_eq (congrArg List.length hSame))
    | cons piece between =>
        obtain ⟨rfl, _⟩ := List.cons.inj hRest
        have hFail := hEarlier.step_eq
        rw [← flatten_pieces earlier] at hFail
        exact lex_ne_ok_of_fail hBetween hFail lexemes hBefore

/-- The text before the first offence can be read. -/
private theorem FirstOffence.exists_lexemes (hFirst : FirstOffence text before item failure) :
    ∃ lexemes, lex (String.ofList before) = .ok lexemes := by
  cases hLex : lex (String.ofList before) with
  | ok lexemes => exact ⟨lexemes, rfl⟩
  | error cause =>
      exfalso
      rw [lex_ofList] at hLex
      obtain ⟨first, piece, second, idle, hPieces, _, hFail⟩ :=
        exists_failing_piece (Result.outcome_eq_error_iff.1 hLex)
      obtain ⟨after, _, hText⟩ := hFirst.offends.pieces_eq
      rw [hPieces, List.append_assoc, List.cons_append] at hText
      have hLeftmost := hFirst.leftmost _ _ _ (offends_of_fail hText hFail)
      have hNonempty : piece ≠ [] := (isPiece_of_mem (by rw [hPieces]; simp)).ne_nil
      have hBefore := congrArg (fun segments => segments.flatten.length) hPieces
      simp only [flatten_pieces, List.flatten_append, List.flatten_cons, List.length_append]
        at hBefore
      have hLength := List.length_pos_of_ne_nil hNonempty
      omega

/-- A text that cannot be read has a first offence. -/
private theorem exists_firstOffence (hLex : lex (String.ofList text) = .error failure) :
    ∃ before item, FirstOffence text before item failure := by
  rw [lex_ofList] at hLex
  obtain ⟨first, item, second, idle, hPieces, hFirst, hFail⟩ :=
    exists_failing_piece (Result.outcome_eq_error_iff.1 hLex)
  have hBefore := lex_flatten_left hPieces hFirst
  exact ⟨first.flatten, item, (offends_of_fail hPieces hFail).first_of_lex_ok hBefore⟩

/-- **Scanning to the first offence** yields the lexemes of the text before it. -/
theorem FirstOffence.all_eq (hFirst : FirstOffence text before item failure) :
    ∃ lexemes after, text = before ++ (item ++ after) ∧
      lex (String.ofList before) = .ok lexemes ∧
      all true Place.start (pieces text) =
        ⟨lexemes, some failure, ⟨placeAfter (before ++ item), after⟩⟩ := by
  obtain ⟨lexemes, hBefore⟩ := hFirst.exists_lexemes
  obtain ⟨after, hText, hPieces⟩ := hFirst.offends.pieces_eq
  refine ⟨lexemes, after, hText, hBefore, ?_⟩
  rw [hPieces, all_append_of_lex hBefore, all, hFirst.offends.step_eq, flatten_pieces,
    ← start_pass_eq_placeAfter, Place.pass_append]
  simp [Result.prepend]

end First

/-- **The first offence.**  A source has lexemes exactly if nothing in it offends.  If
anything does, one of its offences is the first; reading the source lexeme by lexeme
then yields what the text before that offence has and fails there, and the cursor is
just behind it. -/
theorem lex_fails_at_first_offence (source : String) :
    ((∃ lexemes, lex source = .ok lexemes) ↔
      ∀ before item failure, ¬Offends source.toList before item failure) ∧
    ((∃ before item failure, Offends source.toList before item failure) →
      ∃ before item failure, FirstOffence source.toList before item failure) ∧
    ∀ before item failure, FirstOffence source.toList before item failure →
      ∃ lexemes after, source.toList = before ++ (item ++ after) ∧
        lex (String.ofList before) = .ok lexemes ∧
        lex source = .error failure ∧
        ReadsOn true (Cursor.ofText source)
          ⟨lexemes, some failure, ⟨placeAfter (before ++ item), after⟩⟩ := by
  have hSource : lex (String.ofList source.toList) = lex source := by rw [String.ofList_toList]
  refine ⟨⟨?_, ?_⟩, ?_, ?_⟩
  · rintro ⟨lexemes, hLex⟩ before item failure hOffends
    exact hOffends.lex_ne_ok lexemes (hSource.trans hLex)
  · intro hNone
    cases hLex : lex source with
    | ok lexemes => exact ⟨lexemes, rfl⟩
    | error failure =>
        obtain ⟨before, item, hFirst⟩ := exists_firstOffence (hSource.trans hLex)
        exact absurd hFirst.offends (hNone before item failure)
  · rintro ⟨before, item, failure, hOffends⟩
    cases hLex : lex source with
    | ok lexemes => exact absurd (hSource.trans hLex) (hOffends.lex_ne_ok lexemes)
    | error cause =>
        obtain ⟨first, other, hFirst⟩ := exists_firstOffence (hSource.trans hLex)
        exact ⟨first, other, cause, hFirst⟩
  · intro before item failure hFirst
    obtain ⟨lexemes, after, hText, hBefore, hAll⟩ := hFirst.all_eq
    refine ⟨lexemes, after, hText, hBefore, ?_, readsOn_iff.2 hAll⟩
    show (all true Place.start (pieces source.toList)).outcome = .error failure
    rw [hAll]
    rfl

/-- A numeral that is too large, behind two zeros and before a stray character. -/
def numeralThenStray : String := "x 009223372036854775808\n@"

/-- The failure at that numeral, which shows its zeros. -/
def numeralFailure : Failure := .diagnostic ⟨.integerOverflow "009223372036854775808", ⟨0, 2, 21⟩⟩

/-- The numeral is the first offence: the word is yielded, and what follows the numeral
is left. -/
theorem numeralThenStray_fails_at_numeral :
    FirstOffence numeralThenStray.toList "x ".toList "009223372036854775808".toList
      numeralFailure ∧
    lex numeralThenStray = .error numeralFailure ∧
    ReadsOn true (Cursor.ofText numeralThenStray)
      ⟨[⟨.identifier, "x", ⟨0, 0, 1⟩, .name "x"⟩], some numeralFailure,
        ⟨⟨23, 0, 23⟩, "\n@".toList⟩⟩ := by
  have hNumeral : IsNumeral numeralThenStray.toList "x ".toList "009223372036854775808".toList
      "\n@".toList :=
    ⟨rfl, List.cons_ne_nil _ _, List.all_eq_true.1 rfl, by rintro c ⟨⟩; rfl, by rintro c ⟨⟩; rfl⟩
  have hOffends : Offends numeralThenStray.toList "x ".toList "009223372036854775808".toList
      numeralFailure := .tooLarge hNumeral (by decide) (by decide)
  have hWord : lex (String.ofList "x ".toList) =
      .ok [⟨.identifier, "x", ⟨0, 0, 1⟩, .name "x"⟩] := rfl
  have hFirst := hOffends.first_of_lex_ok hWord
  obtain ⟨lexemes, after, hText, hBefore, hLex, hReads⟩ :=
    (lex_fails_at_first_offence numeralThenStray).2.2 _ _ _ hFirst
  obtain rfl := Except.ok.inj (hBefore.symm.trans hWord)
  have hAfter := hNumeral.parts.symm.trans hText
  obtain rfl := List.append_cancel_left (List.append_cancel_left hAfter)
  exact ⟨hFirst, hLex, hReads⟩

end Frontend
