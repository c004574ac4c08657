import Frontend.Proofs.Program.Prefix

/-!
# Acceptance

Parsing accepts exactly what the grammar derives, and builds the tree of the derivation.

One half is `accounts_of_run`: what the machine has read is what the grammar says.  The
other half follows the derivation.  A derived statement, read between two statements, is
added to the innermost open body (`DerivesStatement.run?_eq`), and derived statements
are added in order (`DerivesStatements.run?_eq`); the two are proved together, as the
rules of the grammar refer to each other.  The main result, `parse_eq_ok_iff_split`,
puts the halves together.  Since parsing is a function, it also says that a list of
lexemes can be taken apart in one way only.
-/

namespace Frontend.Parsing

open Grammar Config

/-! ## Reading what the grammar derives -/

theorem run?_of_shift {state next : State Span} {lexeme : Lexeme}
    (hMove : Consumes lexeme lexeme.span state (.shift next)) (done : List (Stmt Span))
    (rest : List Lexeme) : run? ⟨done, state⟩ (lexeme :: rest) = run? ⟨done, next⟩ rest :=
  run?_cons_of_next (next?_of_shift hMove done) rest

theorem run?_of_place {state : State Span} {lexeme : Lexeme} {statement : Stmt Span}
    {frames : List (Frame Span)}
    (hMove : Consumes lexeme lexeme.span state (place statement frames))
    (done : List (Stmt Span)) (rest : List Lexeme) :
    run? ⟨done, state⟩ (lexeme :: rest) = (add done frames [statement]).run? rest :=
  run?_cons_of_next (next?_of_place hMove done) rest

/-- Parameters that each follow a comma are added in order. -/
private theorem run?_of_moreParams {more : List Lexeme} {params : List (Param Span)}
    (hMore : DerivesMoreParams more params) (done : List (Stmt Span))
    (frames : List (Frame Span)) (signature : Signature Span) :
    run? ⟨done, ⟨frames, .afterParam signature⟩⟩ more =
      some ⟨done, ⟨frames, .afterParam
        { signature with params := signature.params ++ params }⟩⟩ := by
  induction hMore generalizing signature with
  | nil => rw [run?_nil, List.append_nil]
  | cons hComma hParam _ ih =>
      obtain ⟨hType, hName⟩ := hParam
      rw [List.cons_append, List.cons_append, List.nil_append, run?_of_shift (.comma hComma),
        run?_of_shift (.nextType hType.kind hType.text), run?_of_shift (.paramName hName), ih]
      simp only [addParam, List.append_assoc, List.singleton_append]

/-- The parameters of a function, up to and with the closing parenthesis. -/
private theorem run?_of_params {between : List Lexeme} {params : List (Param Span)}
    {closeParen : Lexeme}
    (hParams : DerivesParams between params) (hClose : closeParen.kind = .closeParen)
    (done : List (Stmt Span)) (frames : List (Frame Span)) (result : PrimType) (name : String)
    (mark : Span) (rest : List Lexeme) :
    run? ⟨done, ⟨frames, .firstParam ⟨result, name, [], mark⟩⟩⟩ (between ++ closeParen :: rest) =
      run? ⟨done, ⟨frames, .openBrace ⟨result, name, params, mark⟩⟩⟩ rest := by
  cases hParams with
  | nil => exact run?_of_shift (.noParams hClose) done rest
  | cons hParam hMore =>
      obtain ⟨hType, hName⟩ := hParam
      simp only [List.cons_append, List.nil_append]
      rw [run?_of_shift (.firstType hType.kind hType.text), run?_of_shift (.paramName hName),
        run?_append, run?_of_moreParams hMore, Option.bind_some, run?_of_shift (.closeParen hClose)]
      rfl

mutual

/-- Derived statements are added where they stand, in order. -/
theorem run?_of_statements {lexemes : List Lexeme} {statements : List (Stmt Span)} :
    DerivesStatements lexemes statements → ∀ (done : List (Stmt Span))
      (frames : List (Frame Span)),
      run? ⟨done, ⟨frames, .between⟩⟩ lexemes = some (add done frames statements)
  | .nil, done, frames => by rw [run?_nil, add_nil]
  | .lineBreak hKind hRest, done, frames => by
      rw [run?_of_shift (.lineBreak hKind), run?_of_statements hRest]
  | @DerivesStatements.statement _ _ statement _ hFirst hRest, done, frames => by
      rw [run?_append, run?_of_statement hFirst, Option.bind_some]
      have hNext := run?_of_statements hRest (add done frames [statement]).done
        (add done frames [statement]).state.frames
      rw [← point_add done frames [statement], add_add] at hNext
      exact hNext

/-- A derived statement is added where it stands. -/
private theorem run?_of_statement {lexemes : List Lexeme} {statement : Stmt Span} :
    DerivesStatement lexemes statement → ∀ (done : List (Stmt Span))
      (frames : List (Frame Span)),
      run? ⟨done, ⟨frames, .between⟩⟩ lexemes = some (add done frames [statement])
  | .ret hKeyword hTerminator, done, frames => by
      rw [run?_of_shift (.ret hKeyword), run?_of_place (.bareEnd hTerminator), run?_nil]
  | .retValue hKeyword hValue hTerminator, done, frames => by
      rw [run?_of_shift (.ret hKeyword), run?_of_shift (.value hValue),
        run?_of_place (.valueEnd hTerminator), run?_nil]
  | .fn hKeyword hType hName hOpenParen hParams hCloseParen hOpenBrace hBody hCloseBrace,
      done, frames => by
      rw [run?_of_shift (.fn hKeyword), run?_of_shift (.result hType.kind hType.text),
        run?_of_shift (.name hName), run?_of_shift (.openParen hOpenParen),
        run?_of_params hParams hCloseParen, run?_of_shift (.openBrace hOpenBrace), run?_append,
        run?_of_statements hBody, Option.bind_some, add, List.nil_append,
        run?_of_place (.close hCloseBrace), run?_nil]

end

/-! ## The answer of parsing -/

/-- A program that stops where it may stop. -/
theorem programFrom_of_stop {last : Option Lexeme} {done : List (Stmt Span)} {rest : List Lexeme}
    (hStop : ∀ lexeme ∈ rest.head?, lexeme.kind = .closeBrace) :
    programFrom last done .start rest = ⟨.ok done, ⟨last, rest⟩⟩ := by
  cases rest with
  | nil => rfl
  | cons lexeme rest =>
      have hMove : Consumes lexeme lexeme.span State.start .stop := .stop (hStop lexeme rfl)
      rw [programFrom, hMove.step_eq]

end Frontend.Parsing

namespace Frontend.Grammar

/-- A list of lexemes taken apart into a program and what follows it, which is nothing
or begins with a closing brace. -/
structure Split (lexemes consumed rest : List Lexeme) (program : Program Span) : Prop where
  parts : lexemes = consumed ++ rest
  stop : ∀ lexeme ∈ rest.head?, lexeme.kind = .closeBrace
  derives : DerivesStatements consumed program.statements

end Frontend.Grammar

namespace Frontend.Parsing

open Grammar Config

/-- What is taken apart as the grammar allows is what the machine answers. -/
theorem program_of_split {lexemes consumed rest : List Lexeme} {program : Program Span}
    (hSplit : Split lexemes consumed rest program) :
    (Queue.ofList lexemes).program = ⟨.ok program, ⟨lastOf none consumed, rest⟩⟩ := by
  have hRun : start.run? consumed = some ⟨program.statements, .start⟩ :=
    run?_of_statements hSplit.derives [] []
  have hReply : programFrom none [] .start lexemes =
      ⟨.ok program.statements, ⟨lastOf none consumed, rest⟩⟩ := by
    rw [hSplit.parts]
    exact (programFrom_append hRun none rest).trans (programFrom_of_stop hSplit.stop)
  show (programFrom none [] .start lexemes).map Program.mk = _
  rw [hReply]
  rfl

/-- What the machine accepts is taken apart as the grammar allows. -/
private theorem split_of_ends {lexemes : List Lexeme} {reply : Reply (List (Stmt Span))}
    {statements : List (Stmt Span)} (hEnds : Ends none start lexemes reply)
    (hOutcome : reply.outcome = .ok statements) :
    ∃ consumed, Split lexemes consumed reply.queue.rest ⟨statements⟩ := by
  cases hEnds with
  | accepted hRun hFinal =>
      cases hOutcome
      have hDerives := (accounts_of_run hRun).derives hFinal
      exact ⟨lexemes, (List.append_nil lexemes).symm, nofun, hDerives⟩
  | stopped hSplit hRun hFinal hKind =>
      cases hOutcome
      have hDerives := (accounts_of_run hRun).derives hFinal
      refine ⟨_, hSplit, ?_, hDerives⟩
      rintro _ ⟨⟩
      exact hKind
  | cutShort => cases hOutcome
  | refused => cases hOutcome

/-- What parses is taken apart as the grammar allows. -/
theorem split_of_parse {lexemes : List Lexeme} {program : Program Span}
    (hParse : parse lexemes = .ok program) :
    ∃ consumed, Split lexemes consumed (Queue.ofList lexemes).program.queue.rest program := by
  have hEnds : Ends none start lexemes (Queue.ofList lexemes).statements :=
    programFrom_ends none start lexemes
  change (Queue.ofList lexemes).statements.outcome.map Program.mk = .ok program at hParse
  cases hOutcome : (Queue.ofList lexemes).statements.outcome with
  | error diagnostic =>
      rw [hOutcome] at hParse
      cases hParse
  | ok statements =>
      rw [hOutcome] at hParse
      cases hParse
      exact split_of_ends hEnds hOutcome

/-- **Acceptance.**  Parsing returns a program and leaves the rest of the lexemes
exactly when the grammar derives that program from the lexemes before the rest, and the
rest is nothing or begins with a closing brace.  No list of lexemes can be taken apart
so in two ways. -/
theorem parse_eq_ok_iff_split (lexemes : List Lexeme) :
    (∀ (program : Program Span) (rest : List Lexeme),
      (parse lexemes = .ok program ∧ (Queue.ofList lexemes).program.queue.rest = rest) ↔
        ∃ consumed, Split lexemes consumed rest program) ∧
    (∀ (consumed consumed' rest rest' : List Lexeme) (program program' : Program Span),
      Split lexemes consumed rest program → Split lexemes consumed' rest' program' →
        consumed = consumed' ∧ rest = rest' ∧ program = program') := by
  refine ⟨fun program rest => ⟨?_, ?_⟩, ?_⟩
  · rintro ⟨hParse, rfl⟩
    exact split_of_parse hParse
  · rintro ⟨consumed, hSplit⟩
    have hReply := program_of_split hSplit
    exact ⟨congrArg Reply.outcome hReply, congrArg (fun reply => reply.queue.rest) hReply⟩
  · intro consumed consumed' rest rest' program program' hSplit hSplit'
    have hReply := (program_of_split hSplit).symm.trans (program_of_split hSplit')
    have hProgram : program = program' := by
      have hOutcome := congrArg Reply.outcome hReply
      exact Except.ok.inj hOutcome
    have hRest : rest = rest' := congrArg (fun reply => reply.queue.rest) hReply
    subst hRest
    -- What is consumed is what comes before the rest.
    have hParts := hSplit.parts.symm.trans hSplit'.parts
    exact ⟨List.append_cancel_right hParts, rfl, hProgram⟩

/-- The lexemes of `fn int f(void a) { return 7; }`, each on a line of its own. -/
def functionLexemes : List Lexeme :=
  [⟨.fn, "fn", ⟨0, 0, 2⟩, .absent⟩, ⟨.identifier, "int", ⟨1, 0, 3⟩, .absent⟩,
    ⟨.identifier, "f", ⟨2, 0, 1⟩, .absent⟩, ⟨.openParen, "(", ⟨3, 0, 1⟩, .absent⟩,
    ⟨.identifier, "void", ⟨4, 0, 4⟩, .absent⟩, ⟨.identifier, "a", ⟨5, 0, 1⟩, .absent⟩,
    ⟨.closeParen, ")", ⟨6, 0, 1⟩, .absent⟩, ⟨.openBrace, "\x7b", ⟨7, 0, 1⟩, .absent⟩,
    ⟨.ret, "return", ⟨8, 0, 6⟩, .absent⟩, ⟨.integer, "7", ⟨9, 0, 1⟩, .integer 7⟩,
    ⟨.semicolon, ";", ⟨10, 0, 1⟩, .absent⟩, ⟨.closeBrace, "\x7d", ⟨11, 0, 1⟩, .absent⟩]

def functionProgram : Program Span :=
  ⟨[.fn ⟨.int, "f", [⟨.void, "a", ⟨4, 0, 4⟩⟩], ⟨0, 0, 2⟩⟩ ⟨7, 0, 1⟩
    [.ret (some ⟨.integer 7, ⟨9, 0, 1⟩⟩) ⟨8, 0, 6⟩]]⟩

/-- A closing brace that nothing opens. -/
def strayBrace : Lexeme := ⟨.closeBrace, "\x7d", ⟨12, 0, 1⟩, .absent⟩

/-- The grammar takes a function and a stray brace apart in one way, and parsing finds
it. -/
theorem functionLexemes_split_once :
    Split (functionLexemes ++ [strayBrace]) functionLexemes [strayBrace] functionProgram ∧
      parse (functionLexemes ++ [strayBrace]) = .ok functionProgram ∧
      ∃ consumed, Split (functionLexemes ++ [strayBrace]) consumed [strayBrace] functionProgram ∧
        functionLexemes = consumed := by
  have hReturn : DerivesStatements (functionLexemes.drop 8 |>.take 3)
      [.ret (some ⟨.integer 7, ⟨9, 0, 1⟩⟩) ⟨8, 0, 6⟩] :=
    (DerivesStatement.retValue rfl rfl (Or.inr rfl)).single
  have hParams : DerivesParams (functionLexemes.drop 4 |>.take 2) [⟨.void, "a", ⟨4, 0, 4⟩⟩] :=
    .single (.param ⟨rfl, rfl⟩ rfl)
  have hFunction : DerivesStatements functionLexemes functionProgram.statements :=
    (DerivesStatement.fn rfl ⟨rfl, rfl⟩ rfl rfl hParams rfl rfl hReturn rfl).single
  have hSplit : Split (functionLexemes ++ [strayBrace]) functionLexemes [strayBrace]
      functionProgram := ⟨rfl, by rintro _ ⟨⟩; rfl, hFunction⟩
  have hExact := parse_eq_ok_iff_split (functionLexemes ++ [strayBrace])
  have hParse := (hExact.1 functionProgram [strayBrace]).2 ⟨_, hSplit⟩
  obtain ⟨consumed, hFound⟩ := (hExact.1 functionProgram [strayBrace]).1 hParse
  have hSame := hExact.2 _ _ _ _ _ _ hSplit hFound
  exact ⟨hSplit, hParse.1, consumed, hFound, hSame.1⟩

end Frontend.Parsing
