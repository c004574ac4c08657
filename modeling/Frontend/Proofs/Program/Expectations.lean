import Frontend.Proofs.Program.Viability

/-!
# What an expectation promises

A diagnostic that names an expectation says that a lexeme of some sort is missing.  It
keeps its word if any lexeme of that sort, in the place of what was found, lets parsing
go on: the lexeme is consumed, and if there is still a mistake, then only that the input
ends.

What can come next depends on the point of the grammar, and the words depend on it too,
so most of this is one fact about each point (`exists_move_of_wants`).  The words that
are used at the end of the input differ from the others at two points.  After the
parenthesis that opens the parameters they name the closing one, which may follow.
After a comma between parameters they name it as well, and there it may not
(`refuses_of_due`).  So an expectation keeps its word everywhere but at the end of an
input that breaks off behind such a comma (`goesOnWith_iff_of_wants`).
-/

namespace Frontend

/-! ## What expectations name -/

namespace Expectation

/-- The kinds of lexemes that an expectation names. -/
def kinds : Expectation → List Kind
  | .statement => [.fn, .ret]
  | .fnKeyword => [.fn]
  | .retKeyword => [.ret]
  | .returnType | .functionName | .parameterType | .parameterName => [.identifier]
  | .openParen => [.openParen]
  | .closeParen => [.closeParen]
  | .openBrace => [.openBrace]
  | .closeBrace => [.closeBrace]
  | .expressionOrEnd => [.integer, .lineBreak, .semicolon]
  | .endOfStatement => [.lineBreak, .semicolon]
  | .expression => [.integer]

/-- A lexeme of the sort that an expectation names.  Where it names a type, that is a
type's spelling. -/
structure Admits (expected : Expectation) (lexeme : Lexeme) : Prop where
  kind : lexeme.kind ∈ expected.kinds
  spells : expected = .returnType ∨ expected = .parameterType →
    ∃ type : PrimType, lexeme.text = type.spelling

end Expectation

namespace Parsing

open Config

/-! ## What a point wants -/

section Point

variable {α : Type} {state : State α} {lexeme : Lexeme} {mark : α} {expected : Expectation}

private theorem mem_terminators {kind : Kind} (hKind : kind ∈ Expectation.endOfStatement.kinds) :
    kind = .lineBreak ∨ kind = .semicolon := by
  simpa [Expectation.kinds] using hKind

/-- **What a point wants** is consumed there. -/
theorem exists_move_of_wants (hAdmits : state.point.wants.Admits lexeme) :
    ∃ move, Consumes lexeme mark state move := by
  obtain ⟨frames, point⟩ := state
  obtain ⟨hKind, hSpells⟩ := hAdmits
  cases point with
  | between =>
      cases frames with
      | nil => exact ⟨_, .stop (List.mem_singleton.1 hKind)⟩
      | cons frame frames => exact ⟨_, .close (List.mem_singleton.1 hKind)⟩
  | value ret =>
      rcases List.mem_cons.1 hKind with hKind | hKind
      · exact ⟨_, .value hKind⟩
      · exact ⟨_, .bareEnd (mem_terminators hKind)⟩
  | terminator ret value => exact ⟨_, .valueEnd (mem_terminators hKind)⟩
  | result fn =>
      obtain ⟨type, hText⟩ := hSpells (Or.inl rfl)
      exact ⟨_, .result (List.mem_singleton.1 hKind) hText⟩
  | firstParam signature =>
      obtain ⟨type, hText⟩ := hSpells (Or.inr rfl)
      exact ⟨_, .firstType (List.mem_singleton.1 hKind) hText⟩
  | nextParam signature =>
      obtain ⟨type, hText⟩ := hSpells (Or.inr rfl)
      exact ⟨_, .nextType (List.mem_singleton.1 hKind) hText⟩
  | name fn type => exact ⟨_, .name (List.mem_singleton.1 hKind)⟩
  | openParen signature => exact ⟨_, .openParen (List.mem_singleton.1 hKind)⟩
  | paramName signature type param => exact ⟨_, .paramName (List.mem_singleton.1 hKind)⟩
  | afterParam signature => exact ⟨_, .closeParen (List.mem_singleton.1 hKind)⟩
  | openBrace signature => exact ⟨_, .openBrace (List.mem_singleton.1 hKind)⟩

/-- What is due at a point is consumed there as well, except after a comma between
parameters. -/
private theorem exists_move_of_due (hParam : ∀ signature, state.point ≠ .nextParam signature)
    (hAdmits : state.point.due.Admits lexeme) : ∃ move, Consumes lexeme mark state move := by
  obtain ⟨frames, point⟩ := state
  cases point with
  | firstParam signature => exact ⟨_, .noParams (List.mem_singleton.1 hAdmits.kind)⟩
  | nextParam signature => exact absurd rfl (hParam signature)
  | _ => exact exists_move_of_wants hAdmits

/-- After a comma between parameters, what is due is refused. -/
private theorem refuses_of_due {point : Point α} {signature : Signature α}
    (hPoint : point = .nextParam signature) (hAdmits : point.due.Admits lexeme) :
    Refuses lexeme point
      ⟨.unexpectedLexeme Expectation.parameterType.text lexeme.describe, false⟩ := by
  subst hPoint
  have hKind : lexeme.kind = .closeParen := List.mem_singleton.1 hAdmits.kind
  refine .kind ?_
  rw [hKind]
  exact nofun

/-- What a lexeme is refused for not being is what the point wants. -/
private theorem wants_of_problem {point : Point α} {got : String}
    (hProblem : point.problem lexeme = .unexpectedLexeme expected.text got) :
    point.wants = expected ∧ point ≠ .between := by
  cases point with
  | between | value => cases hProblem
  | _ => exact ⟨Expectation.text_injective (Problem.unexpectedLexeme.inj hProblem).1, nofun⟩

end Point

/-! ## Runs -/

/-- A list of lexemes that ends with a comma. -/
def EndsWithComma (lexemes : List Lexeme) : Prop :=
  ∃ last ∈ lexemes.getLast?, last.kind = .comma

/-- Some lexemes are all consumed, and the last of them is a comma. -/
def BreaksOffAtComma (lexemes consumed : List Lexeme) : Prop :=
  lexemes = consumed ∧ EndsWithComma consumed

/-- A lexeme goes on from some others: all of them are consumed, and if there is a
mistake, then only that the input ends. -/
structure GoesOnWith (consumed : List Lexeme) (lexeme : Lexeme) : Prop where
  rest : (Queue.ofList (consumed ++ [lexeme])).program.queue.rest = []
  outcome : (∃ program, parse (consumed ++ [lexeme]) = .ok program) ∨
    ∃ expected span, parse (consumed ++ [lexeme]) = .error ⟨.unexpectedEnd expected, span⟩

section Run

variable {config next final : Config} {lexemes consumed : List Lexeme} {lexeme : Lexeme}
  {expected : Expectation}

/-- What is consumed leads on, unless the machine is where a program may end. -/
private theorem exists_next_of_move {move : Move Span}
    (hMove : Consumes lexeme lexeme.span config.state move) (hState : config.state ≠ .start) :
    ∃ next, config.next? lexeme = some next := by
  rw [next?_of_consumes hMove]
  cases move with
  | shift state => exact ⟨_, rfl⟩
  | complete statement => exact ⟨_, rfl⟩
  | stop => exact absurd (consumes_stop_iff.1 hMove).1 hState

/-- A comma leads to where a parameter is due, and no other lexeme does. -/
private theorem nextParam_iff_of_next (hNext : config.next? lexeme = some next) :
    (∃ signature, next.state.point = .nextParam signature) ↔ lexeme.kind = .comma := by
  obtain ⟨move, hMove, hAfter⟩ := consumes_of_next? hNext
  obtain ⟨done, frames, point⟩ := config
  constructor
  · rintro ⟨signature, hPoint⟩
    cases hMove with
    | comma hKind => exact hKind
    | close | bareEnd | valueEnd =>
        rw [after?_place] at hAfter
        cases hAfter
        rw [point_add] at hPoint
        cases hPoint
    | stop => cases hAfter
    | _ => cases hAfter; cases hPoint
  · intro hComma
    have hAccepts := hMove.kind_mem
    rw [hComma] at hAccepts
    cases point with
    | afterParam signature =>
        cases hMove with
        | comma => cases hAfter; exact ⟨signature, rfl⟩
        | closeParen hKind => cases hComma.symm.trans hKind
    | _ => simp [Point.accepts] at hAccepts

/-- After a run a parameter is due exactly if the last lexeme was a comma. -/
private theorem nextParam_iff_of_run (hRun : start.run? lexemes = some final) :
    (∃ signature, final.state.point = .nextParam signature) ↔ EndsWithComma lexemes := by
  rcases List.eq_nil_or_concat lexemes with rfl | ⟨before, last, rfl⟩
  · cases hRun
    exact ⟨nofun, nofun⟩
  · rw [List.concat_eq_append, run?_append] at hRun
    obtain ⟨config, _, hLast⟩ := Option.bind_eq_some_iff.1 hRun
    rw [run?_cons, Option.bind_eq_some_iff] at hLast
    obtain ⟨next, hNext, hFinal⟩ := hLast
    cases hFinal
    rw [nextParam_iff_of_next hNext, EndsWithComma, List.concat_eq_append, List.getLast?_concat]
    simp

/-- Where something is due, the end of the input is reported. -/
private theorem program_of_due (hRun : start.run? lexemes = some final)
    (hDue : final.state.due = some expected) :
    (Queue.ofList lexemes).program =
      Queue.failAtEnd ⟨lastOf none lexemes, []⟩ expected.text := by
  have hReply := programFrom_append hRun none []
  rw [List.append_nil, programFrom, hDue] at hReply
  show (programFrom none start.done start.state lexemes).map Program.mk = _
  rw [hReply]
  rfl

/-- A lexeme that leads on from a run goes on from its lexemes. -/
private theorem goesOnWith_of_next (hRun : start.run? consumed = some final)
    (hNext : final.next? lexeme = some next) : GoesOnWith consumed lexeme := by
  have hLonger : start.run? (consumed ++ [lexeme]) = some next := by
    rw [run?_append, hRun, Option.bind_some, run?_cons_of_next hNext, run?_nil]
  cases hDue : next.state.due with
  | some expected =>
      have hProgram := program_of_due hLonger hDue
      refine ⟨congrArg (fun reply => reply.queue.rest) hProgram, Or.inr ⟨expected.text, ?_⟩⟩
      exact ⟨_, congrArg Reply.outcome hProgram⟩
  | none =>
      obtain ⟨done, state⟩ := next
      obtain rfl := due_eq_none_iff.1 hDue
      obtain ⟨hParse, hRest⟩ := parse_append_of_run hLonger []
      rw [List.append_nil] at hParse hRest
      exact ⟨hRest, Or.inl ⟨_, hParse⟩⟩

end Run

/-! ## What a diagnostic wants -/

/-- Problems that name an expectation. -/
inductive NamesExpectation (text : String) : Problem → Prop where
  | atEnd : NamesExpectation text (.unexpectedEnd text)
  | atLexeme (got : String) : NamesExpectation text (.unexpectedLexeme text got)

theorem NamesExpectation.unique {problem : Problem} {text other : String}
    (hNames : NamesExpectation text problem) (hOther : NamesExpectation other problem) :
    text = other := by
  cases hNames <;> cases hOther <;> rfl

/-- Parsing some lexemes consumes the first of them and then fails for want of what an
expectation names. -/
structure Wants (lexemes consumed : List Lexeme) (expected : Expectation) : Prop where
  parts : lexemes = consumed ++ (Queue.ofList lexemes).program.queue.rest
  reported : ∃ diagnostic, parse lexemes = .error diagnostic ∧
    NamesExpectation expected.text diagnostic.problem

/-- How the run over what is consumed ends then: with the lexemes, or before one that is
refused. -/
inductive Lacks (lexemes consumed : List Lexeme) (expected : Expectation) (final : Config) :
    Prop where
  | atEnd (hAll : lexemes = consumed) (hDue : final.state.due = some expected)
  | atLexeme {lexeme : Lexeme} {rest : List Lexeme} (hSplit : lexemes = consumed ++ lexeme :: rest)
      (hKind : lexeme.kind ∉ final.state.point.accepts)
      (hProblem : final.state.point.problem lexeme =
        .unexpectedLexeme expected.text lexeme.describe)

section Wants

variable {lexemes consumed : List Lexeme} {expected : Expectation} {final : Config}

/-- A failure for want of something comes from a run over what is consumed. -/
private theorem exists_lacks {diagnostic : Diagnostic} {text : String}
    (hParse : parse lexemes = .error diagnostic)
    (hNames : NamesExpectation text diagnostic.problem) :
    ∃ consumed expected final, start.run? consumed = some final ∧
      Lacks lexemes consumed expected final := by
  cases fails_of_parse hParse with
  | @cutShort final expected hRun hDue => exact ⟨lexemes, expected, final, hRun, .atEnd rfl hDue⟩
  | @refused before rest lexeme final refusal hSplit hRun hRefuses =>
      cases hRefuses with
      | type => cases hNames
      | kind hKind =>
          refine ⟨before, final.state.point.wants, final, hRun, .atLexeme hSplit hKind ?_⟩
          cases hPoint : final.state.point with
          | between | value =>
              rw [hPoint] at hNames
              cases hNames
          | _ => rfl

/-- Conversely, a run that ends so makes parsing fail so. -/
theorem Lacks.wants (hLacks : Lacks lexemes consumed expected final)
    (hRun : start.run? consumed = some final) : Wants lexemes consumed expected := by
  cases hLacks with
  | atEnd hAll hDue =>
      subst hAll
      have hProgram := program_of_due hRun hDue
      refine ⟨?_, _, congrArg Reply.outcome hProgram, .atEnd⟩
      rw [hProgram]
      exact (List.append_nil _).symm
  | @atLexeme lexeme rest hSplit hKind hProblem =>
      subst hSplit
      have hProgram := program_of_refused hRun (.kind hKind) rest
      refine ⟨?_, _, congrArg Reply.outcome hProgram, ?_⟩
      · rw [hProgram]
        rfl
      · rw [hProblem]
        exact .atLexeme lexeme.describe

/-- What is consumed, and what is wanted, is told by the lexemes. -/
theorem Wants.unique {other : List Lexeme} {wanted : Expectation}
    (hWants : Wants lexemes consumed expected) (hOther : Wants lexemes other wanted) :
    consumed = other ∧ expected = wanted := by
  refine ⟨List.append_cancel_right (hWants.parts.symm.trans hOther.parts), ?_⟩
  obtain ⟨diagnostic, hParse, hNames⟩ := hWants.reported
  obtain ⟨_, hSame, hNames'⟩ := hOther.reported
  cases hParse.symm.trans hSame
  exact Expectation.text_injective (hNames.unique hNames')

private theorem Wants.exists_lacks (hWants : Wants lexemes consumed expected) :
    ∃ final, start.run? consumed = some final ∧ Lacks lexemes consumed expected final := by
  obtain ⟨diagnostic, hParse, hNames⟩ := hWants.reported
  obtain ⟨other, wanted, final, hRun, hLacks⟩ := Parsing.exists_lacks hParse hNames
  obtain ⟨rfl, rfl⟩ := hWants.unique (hLacks.wants hRun)
  exact ⟨final, hRun, hLacks⟩

/-- **What is wanted** is taken, unless the input breaks off behind a comma. -/
theorem Lacks.goesOnWith {lexeme : Lexeme} (hLacks : Lacks lexemes consumed expected final)
    (hRun : start.run? consumed = some final) (hAdmits : expected.Admits lexeme)
    (hApart : ¬BreaksOffAtComma lexemes consumed) : GoesOnWith consumed lexeme := by
  cases hLacks with
  | atEnd hAll hDue =>
      obtain ⟨hState, rfl⟩ := due_eq_some_iff.1 hDue
      have hParam : ∀ signature, final.state.point ≠ .nextParam signature := fun signature hPoint =>
        hApart ⟨hAll, (nextParam_iff_of_run hRun).1 ⟨signature, hPoint⟩⟩
      obtain ⟨move, hMove⟩ := exists_move_of_due hParam hAdmits
      obtain ⟨next, hNext⟩ := exists_next_of_move hMove hState
      exact goesOnWith_of_next hRun hNext
  | atLexeme _ _ hProblem =>
      obtain ⟨rfl, hPoint⟩ := wants_of_problem hProblem
      have hState : final.state ≠ .start := fun hStart => hPoint (congrArg State.point hStart)
      obtain ⟨move, hMove⟩ := exists_move_of_wants hAdmits
      obtain ⟨next, hNext⟩ := exists_next_of_move hMove hState
      exact goesOnWith_of_next hRun hNext

/-- Behind such a comma, what is named is refused for not being a type. -/
theorem Lacks.refused {lexeme : Lexeme} (hLacks : Lacks lexemes consumed expected final)
    (hRun : start.run? consumed = some final) (hAdmits : expected.Admits lexeme)
    (hBreaks : BreaksOffAtComma lexemes consumed) :
    parse (consumed ++ [lexeme]) =
      .error ⟨.unexpectedLexeme Expectation.parameterType.text lexeme.describe, lexeme.span⟩ := by
  obtain ⟨rfl, hComma⟩ := hBreaks
  cases hLacks with
  | atEnd _ hDue =>
      obtain ⟨_, rfl⟩ := due_eq_some_iff.1 hDue
      obtain ⟨signature, hPoint⟩ := (nextParam_iff_of_run hRun).2 hComma
      exact congrArg Reply.outcome (program_of_refused hRun (refuses_of_due hPoint hAdmits) [])
  | atLexeme hSplit =>
      have hLength := congrArg List.length hSplit
      rw [List.length_append, List.length_cons] at hLength
      omega

end Wants

/-- **Expectations keep their word**, except behind a comma.  Parsing that fails for
want of something says so in the words of an expectation, and consumes the lexemes up to
there.  Any lexeme that the expectation names goes on from these exactly if the input
does not break off behind a comma; if it does, the lexeme is refused, and now a
parameter type is wanted. -/
theorem goesOnWith_iff_of_wants (lexemes : List Lexeme) :
    (∀ diagnostic text, parse lexemes = .error diagnostic →
      NamesExpectation text diagnostic.problem →
        ∃ consumed expected, Wants lexemes consumed expected ∧ expected.text = text) ∧
    ∀ consumed expected lexeme, Wants lexemes consumed expected → expected.Admits lexeme →
      (GoesOnWith consumed lexeme ↔ ¬BreaksOffAtComma lexemes consumed) ∧
      (BreaksOffAtComma lexemes consumed → parse (consumed ++ [lexeme]) = .error
        ⟨.unexpectedLexeme Expectation.parameterType.text lexeme.describe, lexeme.span⟩) := by
  constructor
  · intro diagnostic text hParse hNames
    obtain ⟨consumed, expected, final, hRun, hLacks⟩ := exists_lacks hParse hNames
    have hWants := hLacks.wants hRun
    obtain ⟨_, hSame, hOther⟩ := hWants.reported
    cases hParse.symm.trans hSame
    exact ⟨consumed, expected, hWants, hOther.unique hNames⟩
  · intro consumed expected lexeme hWants hAdmits
    obtain ⟨final, hRun, hLacks⟩ := hWants.exists_lacks
    refine ⟨⟨?_, hLacks.goesOnWith hRun hAdmits⟩, hLacks.refused hRun hAdmits⟩
    intro hGoesOn hBreaks
    have hRefused := hLacks.refused hRun hAdmits hBreaks
    rcases hGoesOn.outcome with ⟨program, hParse⟩ | ⟨text, span, hParse⟩
    · cases hRefused.symm.trans hParse
    · cases hRefused.symm.trans hParse

/-- A closing parenthesis right behind the comma of an unfinished header. -/
def lateParen : Lexeme := ⟨.closeParen, ")", ⟨0, 15, 1⟩, .absent⟩

/-- If the parenthesis is there, a parameter type is wanted in its place, and a type
goes on. -/
theorem lateParen_wants_type :
    (∃ consumed expected, Wants (danglingComma ++ [lateParen]) consumed expected ∧
      expected.text = "a parameter type") ∧
    Wants (danglingComma ++ [lateParen]) danglingComma .parameterType ∧
    Expectation.parameterType.Admits (sample .identifier "int") ∧
    GoesOnWith danglingComma (sample .identifier "int") := by
  obtain ⟨hWanted, hGoesOn⟩ := goesOnWith_iff_of_wants (danglingComma ++ [lateParen])
  have hWants : Wants (danglingComma ++ [lateParen]) danglingComma .parameterType :=
    ⟨rfl, _, rfl, .atLexeme _⟩
  have hAdmits : Expectation.parameterType.Admits (sample .identifier "int") :=
    ⟨List.mem_cons_self, fun _ => ⟨.int, rfl⟩⟩
  have hApart : ¬BreaksOffAtComma (danglingComma ++ [lateParen]) danglingComma := fun hBreaks =>
    absurd (congrArg List.length hBreaks.1) (by decide)
  exact ⟨hWanted _ _ rfl (.atLexeme _), hWants, hAdmits,
    (hGoesOn _ _ _ hWants hAdmits).1.2 hApart⟩

/-- If the input breaks off there, the parenthesis is what is wanted, and it does not go
on. -/
theorem lateParen_not_goesOnWith :
    parse danglingComma = .error ⟨.unexpectedEnd "')' after parameters", ⟨0, 15, 1⟩⟩ ∧
    Wants danglingComma danglingComma .closeParen ∧ Expectation.closeParen.Admits lateParen ∧
    parse (danglingComma ++ [lateParen]) =
      .error ⟨.unexpectedLexeme "a parameter type" lateParen.describe, ⟨0, 15, 1⟩⟩ ∧
    ¬GoesOnWith danglingComma lateParen := by
  refine ⟨rfl, ⟨rfl, _, rfl, .atEnd⟩, ⟨List.mem_cons_self, nofun⟩, rfl, ?_⟩
  rintro ⟨_, ⟨program, hParse⟩ | ⟨text, span, hParse⟩⟩
  · cases hParse
  · cases hParse

end Parsing

end Frontend
