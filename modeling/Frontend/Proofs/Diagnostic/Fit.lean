import Frontend.Proofs.Diagnostic.Excerpt
import Frontend.Proofs.Program.Runs
import Frontend.Report.Validation

/-!
# Diagnostics fit their source

A diagnostic on a source quotes a line of that source and marks what is wrong there.
For a piece that cannot be read that is the piece; for a lexeme that is refused it is
the lexeme, or the end of the line if the lexeme is a line break; and for an input that
ends too early it is the place just past the last lexeme, wherever the source itself
goes on after that (`diagnostics_fit`).

Every failure of either stage is traced to a cut of the source.  For the first stage
this is the cut that caused it, and for the second the cut of a lexeme: the one refused,
or the last of all.
-/

namespace Frontend

open Parsing (Queue Reply Refuses Ends endSpan lastOf)
open Scan (Cut IsCut spanAt)
open Source (lines)

/-- The lexeme that a refusal is about: a name that is no type has been taken already,
any other is the next in the queue. -/
def Parsing.Reply.offender? {α : Type} (reply : Reply α) : Problem → Option Lexeme
  | .unknownType _ => reply.queue.last
  | _ => reply.queue.peek?

/-- A span marks a lexeme on a line, or the end of the line if the lexeme is a line
break. -/
def Span.MarksLexeme (span : Span) (lexeme : Lexeme) (line : List Char) : Prop :=
  if lexeme.kind = .lineBreak then span.column = line.length ∧ span.length = 1
  else span.marked line = lexeme.text.toList

/-- What a diagnostic marks on its line, by what is wrong. -/
def Diagnostic.Marks (diagnostic : Diagnostic) (offender : Option Lexeme) (line : List Char) :
    Prop :=
  match diagnostic.problem with
  | .unrecognisedToken raw | .integerOverflow raw => diagnostic.span.marked line = raw.toList
  | .unexpectedLexeme _ got => ∃ lexeme, offender = some lexeme ∧ got = lexeme.describe ∧
      diagnostic.span.MarksLexeme lexeme line
  | .unsupportedSyntax _ => ∃ lexeme, offender = some lexeme ∧
      diagnostic.span.MarksLexeme lexeme line
  | .unknownType name => ∃ lexeme, offender = some lexeme ∧ name = lexeme.text ∧
      diagnostic.span.MarksLexeme lexeme line
  | .unexpectedEnd _ => diagnostic.span.column ≤ line.length ∧ diagnostic.span.length = 1
  | .custom _ _ => False

/-- A diagnostic fits a source: on any machine it can be rendered there as far as its
line is concerned, and what it marks on that line is what it is about. -/
structure Diagnostic.Fits (diagnostic : Diagnostic) (source : String) (offender : Option Lexeme) :
    Prop where
  rendered : ∀ limit missing available,
    diagnostic.render limit source ≠ .error (.lineMissing missing available)
  marked : ∃ line, (lines source.toList)[diagnostic.span.line]? = some line ∧
    diagnostic.span.column + diagnostic.span.length ≤ line.length + 1 ∧
    diagnostic.Marks offender line

private theorem Span.FitsOn.fits {diagnostic : Diagnostic} {source : String} {line : List Char}
    {offender : Option Lexeme} (hFits : diagnostic.span.FitsOn source.toList line)
    (hMarks : diagnostic.Marks offender line) : diagnostic.Fits source offender := by
  refine ⟨fun _ => Diagnostic.render_ne_lineMissing hFits, line, hFits.found, ?_, hMarks⟩
  have hColumn := hFits.column_le
  rcases hFits.length_le with hSingle | hWithin
  · omega
  · omega

/-! ## The first stage -/

/-- **A piece that cannot be read** is marked as a whole. -/
theorem fitsOn_of_lex {source : String} {diagnostic : Diagnostic}
    (hLex : lex source = .error (.diagnostic diagnostic)) :
    diagnostic.stage = .lexical ∧ ∃ line, diagnostic.span.FitsOn source.toList line ∧
      ∀ offender, diagnostic.Marks offender line := by
  obtain ⟨cut, after, hCut, hFails⟩ := Scan.fails_of_lex hLex
  obtain ⟨line, hFits, hMarked⟩ := fitsOn_of_isCut hCut hFails.ne_feed
  cases hFails with
  | stray | tooLarge =>
      exact ⟨rfl, line, hFits, fun _ => hMarked.trans String.toList_ofList.symm⟩

/-! ## The second stage -/

namespace Parsing

/-- A problem is about a lexeme and names it. -/
def Blames (lexeme : Lexeme) : Problem → Prop
  | .unexpectedLexeme _ got => got = lexeme.describe
  | .unsupportedSyntax _ => True
  | .unknownType name => name = lexeme.text
  | _ => False

/-- What is refused is blamed, and it is the lexeme at which the queue stands. -/
private theorem Refuses.blames {α β : Type} {lexeme : Lexeme} {point : Point β} {refusal : Refusal}
    (hRefuses : Refuses lexeme point refusal) (last : Option Lexeme) (rest : List Lexeme) :
    Blames lexeme refusal.problem ∧
      (@Queue.failAt α last lexeme rest refusal).offender? refusal.problem = some lexeme := by
  cases hRefuses with
  | type => exact ⟨rfl, rfl⟩
  | kind => cases point <;> exact ⟨by first | rfl | trivial, rfl⟩

/-- **Who is to blame**: nobody at the end of the input, else the lexeme that is
refused. -/
theorem blames_of_parse {lexemes : List Lexeme} {diagnostic : Diagnostic}
    (hParse : parse lexemes = .error diagnostic) :
    (∃ expected, diagnostic = ⟨.unexpectedEnd expected, Parsing.endSpan lexemes.getLast?⟩) ∨
      ∃ lexeme ∈ lexemes, diagnostic.span = lexeme.span ∧ Blames lexeme diagnostic.problem ∧
        (Queue.ofList lexemes).program.offender? diagnostic.problem = some lexeme := by
  cases fails_of_parse hParse with
  | @cutShort _ expected =>
      have hLast : lastOf none lexemes = lexemes.getLast? := Option.or_none
      exact Or.inl ⟨expected.text, by rw [← hLast]⟩
  | @refused before rest lexeme _ refusal hSplit hRun hRefuses =>
      subst hSplit
      rw [program_of_refused hRun hRefuses rest]
      obtain ⟨hBlames, hOffender⟩ := hRefuses.blames (lastOf none before) rest
      exact Or.inr ⟨lexeme, by simp, rfl, hBlames, hOffender⟩

end Parsing

section Lexemes

variable {source : String} {lexemes : List Lexeme}

/-- The lexeme of a cut is a line break exactly if the piece is the line feed. -/
private theorem kind_eq_lineBreak_iff_piece {cut : Cut} {lexeme : Lexeme}
    (hText : lexeme.text = String.ofList cut.piece)
    (hSpelling : Spelling lexeme.text lexeme.kind lexeme.value) :
    lexeme.kind = .lineBreak ↔ cut.piece = ['\n'] := by
  rw [hSpelling.kind_eq_lineBreak_iff, hText, ← String.toList_inj, String.toList_ofList]
  exact Iff.rfl

/-- **A lexeme** is marked on its line by its own span. -/
theorem fitsOn_of_mem_lex {lexeme : Lexeme} (hLex : lex source = .ok lexemes)
    (hMem : lexeme ∈ lexemes) :
    ∃ line, lexeme.span.FitsOn source.toList line ∧ lexeme.span.MarksLexeme lexeme line := by
  obtain ⟨cut, after, hCut, hLexeme⟩ := Scan.isCut_of_mem_lex hLex hMem
  obtain ⟨hText, hSpan, hSpelling⟩ := Scan.spelling_of_lexeme? hCut.piece hLexeme
  have hBreak := kind_eq_lineBreak_iff_piece hText hSpelling
  unfold Span.MarksLexeme
  rw [hSpan]
  by_cases hKind : lexeme.kind = .lineBreak
  · have hFeed := hBreak.1 hKind
    obtain ⟨line, hFits, hColumn⟩ := fitsOn_feed hCut hFeed
    refine ⟨line, hFits, ?_⟩
    rw [if_pos hKind]
    exact ⟨hColumn, congrArg List.length hFeed⟩
  · obtain ⟨line, hFits, hMarked⟩ := fitsOn_of_isCut hCut (mt hBreak.2 hKind)
    refine ⟨line, hFits, ?_⟩
    rw [if_neg hKind, hText, String.toList_ofList]
    exact hMarked

/-- The span just past a lexeme is the end of the text up to there. -/
private theorem endSpan_of_isCut {text after : List Char} {cut : Cut} {lexeme : Lexeme}
    (hCut : IsCut text cut after) (hLexeme : cut.lexeme? = some lexeme) :
    endSpan (some lexeme) = endOf (cut.before ++ cut.piece) := by
  obtain ⟨hText, hSpan, hSpelling⟩ := Scan.spelling_of_lexeme? hCut.piece hLexeme
  have hBreak := kind_eq_lineBreak_iff_piece hText hSpelling
  unfold endSpan endOf
  dsimp only
  rw [hSpan, Source.Place.pass_append]
  -- Passing a line feed moves to the next line, passing any other piece along its own.
  by_cases hKind : lexeme.kind = .lineBreak
  · rw [if_pos hKind, hBreak.1 hKind]
    rfl
  · have hLine := hCut.piece.feed_notMem (mt hBreak.2 hKind)
    rw [if_neg hKind, Source.Place.line_pass, Source.Place.column_pass_of_notMem _ hLine,
      List.count_eq_zero.2 hLine]
    rfl

/-- **The end of the lexemes** falls on a line of the source. -/
theorem fitsOn_endSpan (hLex : lex source = .ok lexemes) :
    ∃ line, (endSpan lexemes.getLast?).FitsOn source.toList line := by
  cases hLast : lexemes.getLast? with
  | none => exact ⟨_, fitsOn_place [] source.toList⟩
  | some lexeme =>
      obtain ⟨cut, after, hCut, hLexeme⟩ :=
        Scan.isCut_of_mem_lex hLex (List.mem_of_getLast? hLast)
      have hFits := fitsOn_place (cut.before ++ cut.piece) after
      rw [List.append_assoc, ← hCut.parts] at hFits
      rw [endSpan_of_isCut hCut hLexeme]
      exact ⟨_, hFits⟩

/-- A diagnostic that blames a lexeme marks it. -/
private theorem marks_of_blames {diagnostic : Diagnostic} {lexeme : Lexeme} {line : List Char}
    (hBlames : Parsing.Blames lexeme diagnostic.problem)
    (hMarks : diagnostic.span.MarksLexeme lexeme line) :
    diagnostic.stage = .syntactic ∧ diagnostic.Marks (some lexeme) line := by
  obtain ⟨problem, span⟩ := diagnostic
  cases problem with
  | unexpectedLexeme | unknownType => exact ⟨rfl, lexeme, rfl, hBlames, hMarks⟩
  | unsupportedSyntax => exact ⟨rfl, lexeme, rfl, hMarks⟩
  | unrecognisedToken | integerOverflow | unexpectedEnd | custom => exact hBlames.elim

/-- **A program that cannot be parsed** is marked where its queue of lexemes stands. -/
theorem fitsOn_of_parse {diagnostic : Diagnostic} (hLex : lex source = .ok lexemes)
    (hParse : parse lexemes = .error diagnostic) :
    diagnostic.stage = .syntactic ∧ ∃ line, diagnostic.span.FitsOn source.toList line ∧
      diagnostic.Marks ((Queue.ofList lexemes).program.offender? diagnostic.problem) line := by
  rcases Parsing.blames_of_parse hParse with
    ⟨expected, rfl⟩ | ⟨lexeme, hMem, hSpan, hBlames, hOffender⟩
  · obtain ⟨line, hFits⟩ := fitsOn_endSpan hLex
    have hSingle : (endSpan lexemes.getLast?).length = 1 := by
      unfold endSpan
      split
      · rfl
      · split <;> rfl
    exact ⟨rfl, line, hFits, hFits.column_le, hSingle⟩
  · obtain ⟨line, hFits, hMarks⟩ := fitsOn_of_mem_lex hLex hMem
    rw [← hSpan] at hFits hMarks
    obtain ⟨hStage, hShown⟩ := marks_of_blames hBlames hMarks
    rw [hOffender]
    exact ⟨hStage, line, hFits, hShown⟩

end Lexemes

/-! ## Both stages -/

/-- A diagnostic that fits is reported as the one thing wrong. -/
private theorem validate_of_error {limit : Nat} {source : String} {diagnostic : Diagnostic}
    {line : List Char} (hCounted : source.length ≤ int64Max)
    (hSource : Program.ofSource source = .error (.diagnostic diagnostic))
    (hFits : diagnostic.span.FitsOn source.toList line) :
    ∃ rendered, diagnostic.render limit source = .ok rendered ∧
      validate limit source = .ok ⟨false, [rendered], some diagnostic.stage,
        some (diagnostic.span.line + 1, diagnostic.span.column + 1)⟩ := by
  obtain ⟨rendered, hRender⟩ := Diagnostic.exists_render hFits hCounted
  refine ⟨rendered, hRender, ?_⟩
  unfold validate
  rw [hSource, Validation.ofOutcome, hRender]
  rfl

/-- A source is found valid, or it is reported with its one diagnostic, rendered, and
with the stage and the place of that diagnostic; the stage is the first exactly if the
source has no lexemes. -/
def IsReported (limit : Nat) (source : String) : Prop :=
  (validate limit source = .ok ⟨true, [], none, none⟩ ∧
    ∃ program, Program.ofSource source = .ok program) ∨
  ∃ diagnostic rendered, Program.ofSource source = .error (.diagnostic diagnostic) ∧
    diagnostic.render limit source = .ok rendered ∧
    validate limit source = .ok ⟨false, [rendered], some diagnostic.stage,
      some (diagnostic.span.line + 1, diagnostic.span.column + 1)⟩ ∧
    (diagnostic.stage = .lexical ↔ lex source = .error (.diagnostic diagnostic)) ∧
    (diagnostic.stage = .syntactic ↔ ∃ lexemes, lex source = .ok lexemes)

theorem isReported_of_lex {limit : Nat} {source : String} {diagnostic : Diagnostic}
    (hCounted : source.length ≤ int64Max)
    (hLex : lex source = .error (.diagnostic diagnostic)) : IsReported limit source := by
  obtain ⟨hStage, line, hFits, _⟩ := fitsOn_of_lex hLex
  have hSource := Program.ofSource_of_lex_error hLex
  obtain ⟨rendered, hRender, hValidate⟩ := validate_of_error hCounted hSource hFits
  refine Or.inr ⟨diagnostic, rendered, hSource, hRender, hValidate, ?_, ?_⟩
  · simp [hStage, hLex]
  · simp [hStage, hLex]

theorem isReported_of_lexemes {limit : Nat} {source : String} {lexemes : List Lexeme}
    (hCounted : source.length ≤ int64Max) (hLex : lex source = .ok lexemes) :
    IsReported limit source := by
  have hSource := Program.ofSource_of_lex_ok hLex
  cases hParse : parse lexemes with
  | ok program =>
      rw [hParse] at hSource
      have hValidate : validate limit source = .ok Validation.accepted := by
        unfold validate
        rw [hSource]
        rfl
      exact Or.inl ⟨hValidate, program, hSource⟩
  | error diagnostic =>
      rw [hParse] at hSource
      obtain ⟨hStage, line, hFits, _⟩ := fitsOn_of_parse hLex hParse
      obtain ⟨rendered, hRender, hValidate⟩ := validate_of_error hCounted hSource hFits
      refine Or.inr ⟨diagnostic, rendered, hSource, hRender, hValidate, ?_, ?_⟩
      · simp [hStage, hLex]
      · simp [hStage, hLex]

/-- **Diagnostics fit.**  Every diagnostic on a source, of either stage, fits that
source.  So a source without a numeral beyond the conversion limit is found valid or is
reported, on every machine, if its length can be counted at all, as that of every text
in memory can. -/
theorem diagnostics_fit (source : String) :
    (∀ diagnostic, lex source = .error (.diagnostic diagnostic) → diagnostic.Fits source none) ∧
    (∀ lexemes diagnostic, lex source = .ok lexemes → parse lexemes = .error diagnostic →
      diagnostic.Fits source ((Queue.ofList lexemes).program.offender? diagnostic.problem)) ∧
    (source.length ≤ int64Max → (∀ fault, lex source ≠ .error (.fault fault)) →
      ∀ limit, IsReported limit source) := by
  refine ⟨?_, ?_, ?_⟩
  · intro diagnostic hLex
    obtain ⟨_, line, hFits, hMarks⟩ := fitsOn_of_lex hLex
    exact hFits.fits (hMarks none)
  · intro lexemes diagnostic hLex hParse
    obtain ⟨_, line, hFits, hMarks⟩ := fitsOn_of_parse hLex hParse
    exact hFits.fits hMarks
  · intro hCounted hNoFault limit
    cases hLex : lex source with
    | ok lexemes => exact isReported_of_lexemes hCounted hLex
    | error failure =>
        cases failure with
        | diagnostic diagnostic => exact isReported_of_lex hCounted hLex
        | fault fault => exact absurd hLex (hNoFault fault)

/-- A source with a character that begins no lexeme. -/
def straySource : String := "return\n 1@"

def strayDiagnostic : Diagnostic := ⟨.unrecognisedToken "@", ⟨1, 2, 1⟩⟩

/-- A source whose first line ends too early. -/
def brokenSource : String := "fn\n\n x"

def brokenLexemes : List Lexeme :=
  [⟨.fn, "fn", ⟨0, 0, 2⟩, .absent⟩, ⟨.lineBreak, "\n", ⟨0, 2, 1⟩, .absent⟩,
    ⟨.identifier, "x", ⟨2, 1, 1⟩, .name "x"⟩]

def brokenDiagnostic : Diagnostic :=
  ⟨.unexpectedLexeme Expectation.returnType.text "NEWLINE", ⟨0, 2, 1⟩⟩

/-- The stray character is marked, and the line that ends too early is marked at its
end. -/
theorem strayDiagnostic_fits :
    (lex straySource = .error (.diagnostic strayDiagnostic) ∧
      strayDiagnostic.Fits straySource none) ∧
    (lex brokenSource = .ok brokenLexemes ∧ parse brokenLexemes = .error brokenDiagnostic ∧
      brokenDiagnostic.Fits brokenSource
        ((Queue.ofList brokenLexemes).program.offender? brokenDiagnostic.problem)) ∧
    brokenSource.length ≤ int64Max ∧ (∀ fault, lex brokenSource ≠ .error (.fault fault)) ∧
      IsReported 0 brokenSource :=
  ⟨⟨rfl, (diagnostics_fit straySource).1 _ rfl⟩,
    ⟨rfl, rfl, (diagnostics_fit brokenSource).2.1 _ _ rfl rfl⟩,
    by decide, nofun, (diagnostics_fit brokenSource).2.2 (by decide) nofun 0⟩

end Frontend
