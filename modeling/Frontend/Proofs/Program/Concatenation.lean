import Frontend.Proofs.Program.Acceptance

/-!
# Concatenation

What is read is read for good.  The machine never looks ahead, so what it makes of some
lexemes does not depend on those that come after them, and a lexeme that it refuses is
refused whatever follows (`program_of_refused`).

Where it has not halted, it goes on.  Between the statements of a program it goes on as
it would start: the statements that are complete are carried along unread
(`programFrom_done`), and of what was consumed only the last lexeme is remembered, for
which the next one stands in at once (`programFrom_last`).  So programs that are written
one after the other are parsed one after the other, with the mistakes of the second
where they are when it stands alone (`parse_append`).
-/

namespace Frontend.Parsing

open Config Grammar

/-! ## Reading on -/

/-- Complete statements are carried along. -/
theorem programFrom_done (earlier : List (Stmt Span)) (last : Option Lexeme)
    (done : List (Stmt Span)) (state : State Span) (lexemes : List Lexeme) :
    programFrom last (earlier ++ done) state lexemes =
      (programFrom last done state lexemes).map fun later => earlier ++ later := by
  induction lexemes generalizing last done state with
  | nil =>
      rw [programFrom, programFrom]
      cases state.due with
      | none => rfl
      | some expected => rfl
  | cons lexeme rest ih =>
      rw [programFrom, programFrom]
      cases state.step lexeme lexeme.span with
      | error refusal => rfl
      | ok move =>
          cases move with
          | shift next => exact ih (some lexeme) done next
          | complete statement =>
              show programFrom (some lexeme) (earlier ++ done ++ [statement]) .start rest = _
              rw [List.append_assoc]
              exact ih (some lexeme) (done ++ [statement]) .start
          | stop => rfl

/-- Between the statements of a program it does not matter what was consumed last. -/
theorem programFrom_last (last other : Option Lexeme) (done : List (Stmt Span))
    (lexemes : List Lexeme) :
    (programFrom last done .start lexemes).outcome =
        (programFrom other done .start lexemes).outcome ∧
      (programFrom last done .start lexemes).queue.rest =
        (programFrom other done .start lexemes).queue.rest := by
  cases lexemes with
  | nil => exact ⟨rfl, rfl⟩
  | cons lexeme rest =>
      rw [programFrom, programFrom]
      cases State.start.step lexeme lexeme.span with
      | error refusal =>
          obtain ⟨problem, consumed⟩ := refusal
          cases consumed <;> exact ⟨rfl, rfl⟩
      | ok move => cases move <;> exact ⟨rfl, rfl⟩

/-- **Reading on** between the statements of a program is parsing from the start, behind
the statements that are complete. -/
theorem parse_append_of_run {first : List Lexeme} {done : List (Stmt Span)}
    (hRun : start.run? first = some ⟨done, .start⟩) (second : List Lexeme) :
    parse (first ++ second) = (parse second).map (fun more => ⟨done ++ more.statements⟩) ∧
      (Queue.ofList (first ++ second)).program.queue.rest =
        (Queue.ofList second).program.queue.rest := by
  have hOn : programFrom none [] .start (first ++ second) =
      programFrom (lastOf none first) done .start second := programFrom_append hRun none second
  have hDone := programFrom_done done (lastOf none first) [] .start second
  rw [List.append_nil] at hDone
  obtain ⟨hOutcome, hRest⟩ := programFrom_last (lastOf none first) none [] second
  constructor
  · have hAll : (programFrom none [] .start (first ++ second)).outcome =
        (programFrom none [] .start second).outcome.map fun later => done ++ later := by
      rw [hOn, hDone, ← hOutcome]
      rfl
    show (programFrom none [] .start (first ++ second)).outcome.map Program.mk =
      ((programFrom none [] .start second).outcome.map Program.mk).map _
    rw [hAll]
    cases (programFrom none [] .start second).outcome <;> rfl
  · show (programFrom none [] .start (first ++ second)).queue.rest = _
    rw [hOn, hDone]
    exact hRest

/-- A program that takes up all of its lexemes is what the machine has made of them. -/
private theorem run?_of_parse {lexemes : List Lexeme} {program : Program Span}
    (hParse : parse lexemes = .ok program)
    (hRest : (Queue.ofList lexemes).program.queue.rest = []) :
    start.run? lexemes = some ⟨program.statements, .start⟩ := by
  obtain ⟨consumed, hSplit⟩ := split_of_parse hParse
  rw [hRest] at hSplit
  have hAll : lexemes = consumed := by rw [hSplit.parts, List.append_nil]
  rw [hAll]
  exact run?_of_statements hSplit.derives [] []

/-! ## Reading past a refusal -/

/-- A mistake is an early end, or the refusal of a lexeme. -/
theorem refused_of_parse {lexemes : List Lexeme} {diagnostic : Diagnostic}
    (hParse : parse lexemes = .error diagnostic) :
    (∃ expected, diagnostic.problem = .unexpectedEnd expected ∧
        ∃ final, start.run? lexemes = some final) ∨
      ∃ before lexeme rest final refusal, lexemes = before ++ lexeme :: rest ∧
        start.run? before = some final ∧ Refuses lexeme final.state.point refusal ∧
          diagnostic = ⟨refusal.problem, lexeme.span⟩ := by
  cases fails_of_parse hParse with
  | cutShort hRun => exact Or.inl ⟨_, rfl, _, hRun⟩
  | refused hSplit hRun hRefuses => exact Or.inr ⟨_, _, _, _, _, hSplit, hRun, hRefuses, rfl⟩

/-! ## Parsing two lists as one -/

/-- **Concatenation.**  A program that takes up all of its lexemes is followed by the
program of the lexemes after them, or by its mistake.  A program that stops before a
closing brace, and a mistake other than an early end, stay what they are whatever comes
after. -/
theorem parse_append (first second : List Lexeme) :
    (∀ program, parse first = .ok program → (Queue.ofList first).program.queue.rest = [] →
      (∀ more, parse second = .ok more →
        parse (first ++ second) = .ok ⟨program.statements ++ more.statements⟩ ∧
          (Queue.ofList (first ++ second)).program.queue.rest =
            (Queue.ofList second).program.queue.rest) ∧
      (∀ diagnostic, parse second = .error diagnostic →
        parse (first ++ second) = .error diagnostic)) ∧
    (∀ program brace rest, parse first = .ok program →
      (Queue.ofList first).program.queue.rest = brace :: rest →
        brace.kind = .closeBrace ∧ parse (first ++ second) = .ok program ∧
          (Queue.ofList (first ++ second)).program.queue.rest = brace :: (rest ++ second)) ∧
    (∀ diagnostic, parse first = .error diagnostic →
      (∀ expected, diagnostic.problem ≠ .unexpectedEnd expected) →
        parse (first ++ second) = .error diagnostic) := by
  refine ⟨?_, ?_, ?_⟩
  · intro program hParse hRest
    obtain ⟨hOutcome, hLeft⟩ := parse_append_of_run (run?_of_parse hParse hRest) second
    refine ⟨fun more hMore => ⟨?_, hLeft⟩, fun diagnostic hMistake => ?_⟩
    · rw [hOutcome, hMore]
      rfl
    · rw [hOutcome, hMistake]
      rfl
  · intro program brace rest hParse hRest
    obtain ⟨consumed, hSplit⟩ := split_of_parse hParse
    rw [hRest] at hSplit
    have hKind := hSplit.stop brace rfl
    have hLonger : Split (first ++ second) consumed (brace :: (rest ++ second)) program := by
      refine ⟨?_, ?_, hSplit.derives⟩
      · rw [hSplit.parts, List.append_assoc, List.cons_append]
      · rintro _ ⟨⟩
        exact hKind
    have hReply := program_of_split hLonger
    exact ⟨hKind, congrArg Reply.outcome hReply, congrArg (fun reply => reply.queue.rest) hReply⟩
  · intro diagnostic hParse hEnd
    rcases refused_of_parse hParse with
      ⟨expected, hProblem, _⟩ | ⟨before, lexeme, rest, final, refusal, hSplit, hRun, hRefuses, rfl⟩
    · exact absurd hProblem (hEnd expected)
    · have hReply := program_of_refused hRun hRefuses (rest ++ second)
      rw [← List.cons_append, ← List.append_assoc, ← hSplit] at hReply
      exact congrArg Reply.outcome hReply

/-- The lexemes of `return;`. -/
def bareReturn : List Lexeme :=
  [⟨.ret, "return", ⟨0, 0, 6⟩, .absent⟩, ⟨.semicolon, ";", ⟨0, 6, 1⟩, .absent⟩]

/-- The lexemes of `return 7` on a line of its own, before a closing brace that nothing
opens. -/
def stoppedReturn : List Lexeme :=
  [⟨.ret, "return", ⟨1, 0, 6⟩, .absent⟩, ⟨.integer, "7", ⟨1, 7, 1⟩, .integer 7⟩,
    ⟨.lineBreak, "\n", ⟨1, 8, 1⟩, .absent⟩, ⟨.closeBrace, "\x7d", ⟨2, 0, 1⟩, .absent⟩]

/-- The lexemes of `return` and no more. -/
def openReturn : List Lexeme := [⟨.ret, "return", ⟨1, 0, 6⟩, .absent⟩]

/-- A function whose result is of a type that is not built in. -/
def foreignResult : List Lexeme :=
  [⟨.fn, "fn", ⟨1, 0, 2⟩, .absent⟩, ⟨.identifier, "real", ⟨1, 3, 4⟩, .name "real"⟩]

def bareProgram : Program Span := ⟨[.ret none ⟨0, 0, 6⟩]⟩

def stoppedProgram : Program Span := ⟨[.ret (some ⟨.integer 7, ⟨1, 7, 1⟩⟩) ⟨1, 0, 6⟩]⟩

def openDiagnostic : Diagnostic :=
  ⟨.unexpectedEnd Expectation.expressionOrEnd.text, ⟨1, 6, 1⟩⟩

def foreignDiagnostic : Diagnostic := ⟨.unknownType "real", ⟨1, 3, 4⟩⟩

/-- A return is followed by another or by a mistake, and nothing can follow a stop or a
refusal. -/
theorem bareReturn_append :
    (parse bareReturn = .ok bareProgram ∧ (Queue.ofList bareReturn).program.queue.rest = [] ∧
      parse stoppedReturn = .ok stoppedProgram ∧
      parse (bareReturn ++ stoppedReturn) =
        .ok ⟨bareProgram.statements ++ stoppedProgram.statements⟩) ∧
    (parse openReturn = .error openDiagnostic ∧
      parse (bareReturn ++ openReturn) = .error openDiagnostic) ∧
    parse (stoppedReturn ++ bareReturn) = .ok stoppedProgram ∧
    (parse foreignResult = .error foreignDiagnostic ∧
      parse (foreignResult ++ bareReturn) = .error foreignDiagnostic) :=
  ⟨⟨rfl, rfl, rfl, (((parse_append bareReturn stoppedReturn).1 _ rfl rfl).1 _ rfl).1⟩,
    ⟨rfl, ((parse_append bareReturn openReturn).1 _ rfl rfl).2 _ rfl⟩,
    ((parse_append stoppedReturn bareReturn).2.1 _ _ _ rfl rfl).2.1,
    rfl, (parse_append foreignResult bareReturn).2.2 _ rfl nofun⟩

end Frontend.Parsing
