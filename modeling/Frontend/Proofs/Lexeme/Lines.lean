import Frontend.Proofs.Lexeme.Beginnings
import Frontend.Proofs.Lexeme.Relocation

/-!
# Lexing line by line

A line feed ends every run, so a text is cut before and behind it whatever stands there.
After it the scan is where it is at the start of a text: at the beginning of a line, and
with a further line feed idle.  So what comes after a line feed is lexed as a text of
its own and then moved down (`lex_feed_of_ok`), and what comes before it decides only on
whether the line feed itself is a lexeme: it is none at the beginning, and none after
another line break (`breakAfter`).
-/

namespace Frontend

open Source (Place lastLine)
open Scan

/-- The line break that a line feed after a text becomes, given the lexemes of the
text. -/
def breakAfter (text : List Char) (lexemes : List Lexeme) : List Lexeme :=
  let lineBreak : Lexeme := ⟨.lineBreak, "\n", spanAfter text ['\n'], .absent⟩
  match lexemes.getLast? with
  | none => []
  | some last => if last.kind = .lineBreak then [] else [lineBreak]

namespace Scan

private theorem lexemeAt_feed (text : List Char) :
    lexemeAt (Place.start.pass text) ['\n'] .lineBreak .absent =
      ⟨.lineBreak, "\n", spanAfter text ['\n'], .absent⟩ := by
  rw [lexemeAt, spanAt_start_pass]

/-- The bit that is kept of some lexemes decides on the line break after them. -/
private theorem breakAfter_eq (text : List Char) (lexemes : List Lexeme) :
    breakAfter text lexemes = if idleAfter true lexemes then []
      else [lexemeAt (Place.start.pass text) ['\n'] .lineBreak .absent] := by
  rw [lexemeAt_feed, breakAfter, idleAfter]
  cases lexemes.getLast? with
  | none => rfl
  | some last => simp only [decide_eq_true_eq]

/-- After a line feed a line begins. -/
private theorem pass_feed (text : List Char) :
    ((Place.start.pass text).pass ['\n']).line = text.count '\n' + 1 ∧
      ((Place.start.pass text).pass ['\n']).column = 0 := by
  refine ⟨?_, ?_⟩
  · show (Place.start.pass text).line + 1 = _
    rw [Source.line_start_pass]
  · rfl

private theorem toList_append_feed (first second : String) :
    (first ++ "\n" ++ second).toList = first.toList ++ '\n' :: second.toList := by
  rw [String.toList_append, String.toList_append, List.append_assoc]
  rfl

/-- **Behind a line feed** a text is scanned as from the start, and is that many lines
further down. -/
theorem all_feed (idle : Bool) (text : List Char) (second : String) :
    all idle (Place.start.pass text) (['\n'] :: pieces second.toList) =
      ((scan second).rebase ((Place.start.pass text).pass ['\n'])).prepend
        (if idle then [] else [lexemeAt (Place.start.pass text) ['\n'] .lineBreak .absent]) := by
  have hFeed := all_lineBreak idle (Place.start.pass text) second.toList
  rw [List.singleton_append, pieces_mark ⟨rfl, rfl⟩] at hFeed
  have hRest := all_rebase ((Place.start.pass text).pass ['\n']) true .start (pieces second.toList)
  rw [Place.rebase_start] at hRest
  rw [hFeed, hRest]
  rfl

end Scan

/-- A text that cannot be read cannot be read with more lines after it. -/
private theorem lex_feed_of_error {first : String} {failure : Failure}
    (hFirst : lex first = .error failure)
    (second : String) : lex (first ++ "\n" ++ second) = .error failure := by
  have hFailure := Result.outcome_eq_error_iff.1 hFirst
  apply Result.outcome_eq_error_iff.2
  show (all true Place.start (pieces (first ++ "\n" ++ second).toList)).failure = some failure
  rw [toList_append_feed, pieces_append_mark ⟨rfl, rfl⟩]
  exact failure_append hFailure _

/-- **A text that is read** is followed by a line break, if one is due, and by what is
made of the lines after it. -/
theorem lex_feed_of_ok {first : String} {lexemes : List Lexeme} (hFirst : lex first = .ok lexemes)
    (second : String) :
    lex (first ++ "\n" ++ second) =
      (mapSpans (Span.down (first.toList.count '\n' + 1)) (lex second)).map fun more =>
        lexemes ++ (breakAfter first.toList lexemes ++ more) := by
  have hFirst' : lex (String.ofList first.toList) = .ok lexemes := by
    rw [String.ofList_toList]
    exact hFirst
  obtain ⟨hLine, hColumn⟩ := pass_feed first.toList
  have hScan := all_append_of_lex hFirst' (['\n'] :: pieces second.toList)
  rw [all_feed, ← breakAfter_eq, ← pieces_append_mark ⟨rfl, rfl⟩, ← toList_append_feed] at hScan
  show (all true Place.start (pieces (first ++ "\n" ++ second).toList)).outcome = _
  rw [hScan, outcome_prepend, outcome_prepend, outcome_rebase, Span.rebase_eq_down hColumn, hLine]
  show Except.map _ (Except.map _ (mapSpans _ (lex second))) = _
  cases mapSpans (Span.down (first.toList.count '\n' + 1)) (lex second) <;> rfl

/-- **Line by line.**  Two texts with a line feed between them fail as the first does,
or else as the second does, further down.  If both have lexemes, the whole has those of
the first, the line break between them if one is due, and those of the second, further
down. -/
theorem lex_append_feed (first second : String) :
    let lines := first.toList.count '\n' + 1
    let both := first ++ "\n" ++ second
    (∀ failure, lex first = .error failure → lex both = .error failure) ∧
    (∀ lexemes failure, lex first = .ok lexemes → lex second = .error failure →
      lex both = .error (failure.mapSpan (Span.down lines))) ∧
    ∀ lexemes more, lex first = .ok lexemes → lex second = .ok more →
      lex both = .ok (lexemes ++ breakAfter first.toList lexemes ++
        more.map (Lexeme.mapSpan (Span.down lines))) := by
  intro lines both
  refine ⟨fun failure hFirst => lex_feed_of_error hFirst second, ?_, ?_⟩
  · intro lexemes failure hFirst hSecond
    rw [lex_feed_of_ok hFirst second, hSecond]
    rfl
  · intro lexemes more hFirst hSecond
    rw [lex_feed_of_ok hFirst second, hSecond, List.append_assoc]
    rfl

/-- The lexemes of a line that ends with a blank. -/
def wordLexemes : List Lexeme := [⟨.identifier, "ab", ⟨0, 0, 2⟩, .name "ab"⟩]

/-- The lexemes of a numeral on the second line of a text whose first line is empty. -/
def numeralLexemes : List Lexeme := [⟨.integer, "12", ⟨1, 0, 2⟩, .integer 12⟩]

/-- A character that begins no lexeme, in the second column. -/
def strayFailure : Failure := .diagnostic ⟨.unrecognisedToken "@", ⟨0, 1, 1⟩⟩

/-- Of the two line feeds between the word and the numeral the first is a line break; a
stray character in the first text stays where it is, and in the second it moves down. -/
theorem wordAndNumeral_append_feed :
    (lex "ab " = .ok wordLexemes ∧ lex "\n12" = .ok numeralLexemes ∧
      lex ("ab " ++ "\n" ++ "\n12") = .ok (wordLexemes ++
        [⟨.lineBreak, "\n", ⟨0, 3, 1⟩, .absent⟩] ++ [⟨.integer, "12", ⟨2, 0, 2⟩, .integer 12⟩])) ∧
    (lex "x@" = .error strayFailure ∧ lex ("x@" ++ "\n" ++ "\n12") = .error strayFailure) ∧
    lex ("ab " ++ "\n" ++ "x@") = .error (.diagnostic ⟨.unrecognisedToken "@", ⟨1, 1, 1⟩⟩) := by
  have hWord : lex "ab " = .ok wordLexemes := rfl
  have hNumeral : lex "\n12" = .ok numeralLexemes := rfl
  have hStray : lex "x@" = .error strayFailure := rfl
  obtain ⟨_, _, hBoth⟩ := lex_append_feed "ab " "\n12"
  obtain ⟨hFails, _⟩ := lex_append_feed "x@" "\n12"
  obtain ⟨_, hMoved, _⟩ := lex_append_feed "ab " "x@"
  exact ⟨⟨hWord, hNumeral, hBoth _ _ hWord hNumeral⟩, ⟨hStray, hFails _ hStray⟩,
    hMoved _ _ hWord hStray⟩

end Frontend
