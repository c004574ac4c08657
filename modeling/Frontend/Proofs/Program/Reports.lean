import Frontend.Proofs.Diagnostic.Legible
import Frontend.Proofs.Program.Descent
import Frontend.Proofs.Program.Sessions

/-!
# What parsing reports

Some of the checks that recursive descent makes are for callers that it does not have.
A procedure for a statement, a return, a function or an expression begins by asking for
one, but it is called only where one stands (`checkedBefore`).  A parameter is not asked
for at the end of the input, since the loop around it ends there too; and where an
expression or the end of a body may come, every other lexeme is refused as the beginning
of something else.  So nobody ever reads that `'fn'` was expected, or an expression.

The machine does not have these checks, and recursive descent comes to what the machine
comes to (`Descent.on_program`).  What is left is to look at the points of the grammar,
of which each has its own words for the end of the input and for a lexeme of a wrong
kind.  All words but those excluded do come up, each behind a short beginning of a
program (`unfinished`).

Parsing also keeps a log, of where it stopped and of what it found.  The outcome does
not depend on the log, and neither does the next request; but when the log is written
down, the place of a brace may turn out to be too far out for words
(`written_parseTraced_iff`).  Only a span that is made by hand is that far out
(`written_ofSourceTraced`).
-/

namespace Frontend.Parsing

/-! ## Words that come up -/

/-- What is asked for only where a caller has seen it. -/
def checkedBefore : List Expectation := [.statement, .fnKeyword, .retKeyword, .expression]

/-- Lexemes that end, or break off, where something is expected. -/
def unfinished : Expectation → List Lexeme
  | .returnType => danglingComma.take 1
  | .functionName => danglingComma.take 2
  | .openParen => danglingComma.take 3
  | .parameterName => danglingComma.take 5
  | .closeParen => danglingComma.take 6
  | .parameterType => danglingComma
  | .openBrace => danglingComma.take 4 ++ [sample .closeParen ")"]
  | .closeBrace => danglingComma.take 4 ++ [sample .closeParen ")", sample .openBrace "\x7b"]
  | .expressionOrEnd => [sample .ret "return"]
  | .endOfStatement => [sample .ret "return", sample .integer "7"]
  | .statement | .fnKeyword | .retKeyword | .expression => []

/-- **What is expected at the end of the input** is what is due at some point. -/
theorem reported_atEnd_iff {expected : Expectation} :
    (∃ lexemes span, parse lexemes = .error ⟨.unexpectedEnd expected.text, span⟩) ↔
      expected ∉ .parameterType :: checkedBefore := by
  constructor
  · rintro ⟨lexemes, span, hParse⟩
    generalize hFound : Diagnostic.mk (.unexpectedEnd expected.text) span = diagnostic at hParse
    cases fails_of_parse hParse with
    | @cutShort final due _ hDue =>
        have hText := Problem.unexpectedEnd.inj (Diagnostic.mk.inj hFound).1
        obtain rfl := Expectation.text_injective hText
        obtain ⟨_, rfl⟩ := due_eq_some_iff.1 hDue
        cases final.state.point <;> simp [Point.due, checkedBefore]
    | refused _ _ hRefuses =>
        have hNames := hRefuses.names.1
        rw [← (Diagnostic.mk.inj hFound).1] at hNames
        exact hNames.elim
  · intro hReported
    refine ⟨unfinished expected, ?_⟩
    cases expected with
    | statement | fnKeyword | retKeyword | expression | parameterType =>
        exact absurd (by decide) hReported
    | _ => exact ⟨_, rfl⟩

/-- **What is expected in the place of a lexeme** is what is wanted at some point, other
than between two statements and at the value of a return. -/
theorem reported_atLexeme_iff {expected : Expectation} :
    (∃ lexemes got span, parse lexemes = .error ⟨.unexpectedLexeme expected.text got, span⟩) ↔
      expected ∉ .closeBrace :: .expressionOrEnd :: checkedBefore := by
  constructor
  · rintro ⟨lexemes, got, span, hParse⟩
    generalize hFound : Diagnostic.mk (.unexpectedLexeme expected.text got) span = diagnostic
      at hParse
    cases fails_of_parse hParse with
    | cutShort => cases (Diagnostic.mk.inj hFound).1
    | @refused _ _ lexeme final refusal _ _ hRefuses =>
        have hProblem := (Diagnostic.mk.inj hFound).1
        generalize final.state.point = point at hRefuses
        cases hRefuses with
        | type => cases hProblem
        | kind =>
            cases point with
            | between | value => cases hProblem
            | _ =>
                -- Everywhere else the words are those of the point.
                obtain rfl := Expectation.text_injective (Problem.unexpectedLexeme.inj hProblem).1
                simp [Point.wants, Point.due, checkedBefore]
  · intro hReported
    refine ⟨unfinished expected ++ [sample .ret "return"], ?_⟩
    cases expected with
    | statement | fnKeyword | retKeyword | expression | closeBrace | expressionOrEnd =>
        exact absurd (by decide) hReported
    | _ => exact ⟨_, _, rfl⟩

/-- A diagnostic of the second stage says so. -/
theorem stage_of_parse {lexemes : List Lexeme} {diagnostic : Diagnostic}
    (hParse : parse lexemes = .error diagnostic) : diagnostic.stage = .syntactic := by
  cases fails_of_parse hParse with
  | cutShort => rfl
  | @refused _ _ lexeme _ refusal _ _ hRefuses =>
      have hRefusal := hRefuses.names.1.isRefusal
      show refusal.problem.stage = .syntactic
      cases hProblem : refusal.problem with
      | unexpectedLexeme | unsupportedSyntax | unknownType => rfl
      | unrecognisedToken | integerOverflow | unexpectedEnd | custom =>
          rw [hProblem] at hRefusal
          exact hRefusal.elim

/-! ## Parsing is safe -/

/-- **Parsing is safe.**  On all lexemes recursive descent ends and never takes a lexeme
from an empty queue: it comes to a program or to a syntactic diagnostic, the one that
the machine comes to.  What is asked for only where a caller has seen it is never
reported to be expected; nor is the type of a parameter at the end of the input, nor the
end of a body or the value of a return in the place of a lexeme. -/
theorem parse_safe (lexemes : List Lexeme) :
    (∀ bound, lexemes.length < bound →
      Procedure.on (Descent.program bound) (Queue.ofList lexemes) =
          some ((parse lexemes).mapError Failure.diagnostic, (Queue.ofList lexemes).program.queue) ∧
        ∀ left, Procedure.on (Descent.program bound) (Queue.ofList lexemes) ≠
          some (.error (.fault .queueExhausted), left)) ∧
    (∀ diagnostic, parse lexemes = .error diagnostic → diagnostic.stage = .syntactic ∧
      (∀ expected ∈ Expectation.parameterType :: checkedBefore,
        diagnostic.problem ≠ .unexpectedEnd expected.text) ∧
      ∀ expected ∈ Expectation.closeBrace :: .expressionOrEnd :: checkedBefore,
        ∀ got, diagnostic.problem ≠ .unexpectedLexeme expected.text got) := by
  constructor
  · intro bound hBound
    have hDescent : Procedure.on (Descent.program bound) (Queue.ofList lexemes) =
        some ((parse lexemes).mapError Failure.diagnostic, (Queue.ofList lexemes).program.queue) :=
      Descent.on_program hBound
    refine ⟨hDescent, fun left => ?_⟩
    rw [hDescent]
    cases parse lexemes <;> simp [Except.mapError]
  · rintro ⟨problem, span⟩ hParse
    refine ⟨stage_of_parse hParse, ?_, ?_⟩
    · rintro expected hExpected rfl
      exact reported_atEnd_iff.1 ⟨lexemes, span, hParse⟩ hExpected
    · rintro expected hExpected got rfl
      exact reported_atLexeme_iff.1 ⟨lexemes, got, span, hParse⟩ hExpected

/-- Recursive descent ends at a dangling comma, where it finds a syntactic mistake, but
no type of a parameter is said to be expected. -/
theorem danglingComma_safe :
    danglingComma.length < 8 ∧
    Procedure.on (Descent.program 8) (Queue.ofList danglingComma) =
      some ((parse danglingComma).mapError Failure.diagnostic,
        (Queue.ofList danglingComma).program.queue) ∧
    parse danglingComma =
      .error ⟨.unexpectedEnd Expectation.closeParen.text, endSpan danglingComma.getLast?⟩ ∧
    Expectation.closeParen.text ≠ Expectation.parameterType.text := by
  obtain ⟨hDescent, hReports⟩ := parse_safe danglingComma
  have hParse : parse danglingComma =
      .error ⟨.unexpectedEnd Expectation.closeParen.text, endSpan danglingComma.getLast?⟩ := rfl
  have hExcluded := (hReports _ hParse).2.1 .parameterType List.mem_cons_self
  exact ⟨by decide, (hDescent 8 (by decide)).1, hParse, fun hSame => hExcluded (congrArg _ hSame)⟩

/-! ## Reports that are written down -/

/-- A log is written down to its end exactly if all its events have a wording. -/
theorem writeDown_eq_none_iff {log : List Event} :
    (Event.writeDown log).2 = none ↔ ∀ event ∈ log, ∃ text, event.message = .ok text := by
  induction log with
  | nil => simp [Event.writeDown]
  | cons event events ih =>
      rw [Event.writeDown, List.forall_mem_cons]
      cases event.message with
      | error fault => simp
      | ok text => simpa using ih

/-- Only the place at which parsing stopped can be without a wording. -/
theorem exists_message_iff {event : Event} :
    (∃ text, event.message = .ok text) ↔
      ∀ span unconsumed, event = .stoppedAtBrace span unconsumed → span.Writable := by
  cases event with
  | lexed lexemes lines => exact ⟨fun _ => nofun, fun _ => ⟨_, rfl⟩⟩
  | parsed statements => exact ⟨fun _ => nofun, fun _ => ⟨_, rfl⟩⟩
  | stoppedAtBrace span unconsumed =>
      constructor
      · rintro ⟨text, hText⟩ _ _ ⟨⟩
        obtain ⟨label, hLabel, _⟩ := bind_eq_ok_iff.1 hText
        exact Span.exists_label_iff.1 ⟨label, hLabel⟩
      · intro hWritable
        obtain ⟨label, hLabel⟩ := Span.exists_label_iff.2 (hWritable span unconsumed rfl)
        exact ⟨_, bind_eq_ok_iff.2 ⟨label, hLabel, rfl⟩⟩

/-- **A stop is reported** exactly if there is a program and a brace behind it. -/
theorem stoppedAtBrace_mem_log_iff {lexemes : List Lexeme} {span : Span} {unconsumed : Nat} :
    .stoppedAtBrace span unconsumed ∈ (parseTraced lexemes).log ↔
      ∃ program brace rest, parse lexemes = .ok program ∧
        (Queue.ofList lexemes).program.queue.rest = brace :: rest ∧
        span = brace.span ∧ unconsumed = rest.length + 1 := by
  unfold parse parseTraced
  generalize (Queue.ofList lexemes).program = reply
  obtain ⟨outcome, last, left⟩ := reply
  cases outcome with
  | error diagnostic => simp [stopReport, parseReport]
  | ok program => cases left <;> simp [stopReport, parseReport]

/-- **The log of parsing** can be written down exactly if the place where parsing
stopped, if it did, can be.  To the outcome it makes no difference. -/
theorem written_parseTraced_iff {lexemes : List Lexeme} :
    (Event.writeDown (parseTraced lexemes).log).2 = none ↔
      ∀ program brace rest, parse lexemes = .ok program →
        (Queue.ofList lexemes).program.queue.rest = brace :: rest → brace.span.Writable := by
  rw [writeDown_eq_none_iff]
  constructor
  · intro hWordings program brace rest hParse hRest
    have hMem := stoppedAtBrace_mem_log_iff.2 ⟨program, brace, rest, hParse, hRest, rfl, rfl⟩
    exact exists_message_iff.1 (hWordings _ hMem) _ _ rfl
  · intro hWritable event hMem
    rw [exists_message_iff]
    rintro span unconsumed rfl
    obtain ⟨program, brace, rest, hParse, hRest, rfl, -⟩ := stoppedAtBrace_mem_log_iff.1 hMem
    exact hWritable program brace rest hParse hRest

/-- **The log of a source** whose length can be counted can be written down. -/
theorem written_ofSourceTraced {source : String} (hCounted : source.length ≤ int64Max) :
    (Event.writeDown (Program.ofSourceTraced source).log).2 = none := by
  have hLexed : ∀ event ∈ (scan source).traced.log, ∃ text, event.message = .ok text := by
    unfold Scan.Result.traced
    cases (scan source).failure <;> simp [Event.message]
  rw [writeDown_eq_none_iff]
  unfold Program.ofSourceTraced parseAfter
  cases hLex : (scan source).traced.result with
  | error failure => exact hLexed
  | ok lexemes =>
      refine List.forall_mem_append.2 ⟨hLexed, ?_⟩
      rw [← writeDown_eq_none_iff, written_parseTraced_iff]
      intro program brace rest hParse hRest
      -- The brace is a lexeme of the source, and those are at places that can be
      -- written.
      obtain ⟨consumed, hSplit⟩ := split_of_parse hParse
      have hParts : lexemes = consumed ++ brace :: rest := hRest ▸ hSplit.parts
      have hMem : brace ∈ lexemes := hParts ▸ List.mem_append_right _ List.mem_cons_self
      obtain ⟨line, hFits, _⟩ := fitsOn_of_mem_lex hLex hMem
      exact hFits.writable hCounted

end Frontend.Parsing
