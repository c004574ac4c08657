import Frontend.Proofs.Program.Concatenation

/-!
# Viability

A list of lexemes is viable when some program begins with it.  The machine notices at
once when a list is not: it refuses a lexeme exactly where the lexemes up to it begin no
program any more, and reports the end of the input exactly where something could still
follow (`parse_error_earliest`).

One half is that a refusal is final, so nothing that is refused is viable.  The other
half is that the machine is never stuck.  From every point of a header the next lexeme
can be named, from there the body can be opened, and between statements every open body
can be closed (`completable`); so what was read without a halt is always the beginning
of a program.
-/

namespace Frontend.Parsing

open Config Grammar

/-- Some lexemes, with others after them, parse. -/
def Viable (lexemes : List Lexeme) : Prop :=
  ∃ more program, parse (lexemes ++ more) = .ok program

/-! ## From everywhere to the end of a program -/

/-- There are lexemes that lead from a configuration to where a program may end. -/
def Config.Completable (config : Config) : Prop :=
  ∃ more done, config.run? more = some ⟨done, .start⟩

/-- A lexeme of a kind, with a text. -/
def sample (kind : Kind) (text : String) : Lexeme := ⟨kind, text, ⟨0, 0, text.length⟩, .absent⟩

section Completable

variable {done : List (Stmt Span)} {frames : List (Frame Span)} {state next : State Span}

private theorem Config.Completable.of_shift (lexeme : Lexeme)
    (hMove : Consumes lexeme lexeme.span state (.shift next))
    (hNext : Completable ⟨done, next⟩) : Completable ⟨done, state⟩ := by
  obtain ⟨more, final, hRun⟩ := hNext
  exact ⟨lexeme :: more, final, (run?_of_shift hMove done more).trans hRun⟩

private theorem Config.Completable.of_place (lexeme : Lexeme) {statement : Stmt Span}
    (hMove : Consumes lexeme lexeme.span state (place statement frames))
    (hNext : Completable (add done frames [statement])) : Completable ⟨done, state⟩ := by
  obtain ⟨more, final, hRun⟩ := hNext
  exact ⟨lexeme :: more, final, (run?_of_place hMove done more).trans hRun⟩

private theorem length_frames_add (done : List (Stmt Span)) (frames : List (Frame Span))
    (more : List (Stmt Span)) : (add done frames more).state.frames.length = frames.length := by
  cases frames <;> rfl

/-- Between statements every open body can be closed. -/
private theorem completable_between {depth : Nat} {config : Config}
    (hPoint : config.state.point = .between) (hDepth : config.state.frames.length = depth) :
    Completable config := by
  induction depth generalizing config with
  | zero =>
      obtain ⟨done, frames, point⟩ := config
      cases hPoint
      cases List.eq_nil_of_length_eq_zero hDepth
      exact ⟨[], done, rfl⟩
  | succ depth ih =>
      obtain ⟨done, frames, point⟩ := config
      cases hPoint
      cases frames with
      | nil => cases hDepth
      | cons frame frames =>
          refine .of_place (sample .closeBrace "\x7d") (.close rfl) (ih (point_add _ _ _) ?_)
          rw [length_frames_add]
          exact Nat.succ.inj hDepth

/-- A statement that is complete leads on. -/
private theorem completable_add (statement : Stmt Span) :
    Completable (add done frames [statement]) :=
  completable_between (point_add _ _ _) rfl

private theorem completable_openBrace (signature : Signature Span) :
    Completable ⟨done, ⟨frames, .openBrace signature⟩⟩ :=
  .of_shift (sample .openBrace "\x7b") (.openBrace rfl) (completable_between rfl rfl)

private theorem completable_firstParam (signature : Signature Span) :
    Completable ⟨done, ⟨frames, .firstParam signature⟩⟩ :=
  .of_shift (sample .closeParen ")") (.noParams rfl) (completable_openBrace signature)

private theorem completable_paramName (signature : Signature Span) (type : PrimType) (mark : Span) :
    Completable ⟨done, ⟨frames, .paramName signature type mark⟩⟩ :=
  .of_shift (sample .identifier "x") (.paramName rfl)
    (.of_shift (sample .closeParen ")") (.closeParen rfl) (completable_openBrace _))

private theorem completable_name (mark : Span) (result : PrimType) :
    Completable ⟨done, ⟨frames, .name mark result⟩⟩ :=
  .of_shift (sample .identifier "f") (.name rfl)
    (.of_shift (sample .openParen "(") (.openParen rfl) (completable_firstParam _))

end Completable

/-- **The machine is never stuck**: every configuration leads to where a program may
end. -/
theorem completable (config : Config) : Completable config := by
  obtain ⟨done, frames, point⟩ := config
  cases point with
  | between => exact completable_between rfl rfl
  | value mark =>
      exact .of_place (sample .semicolon ";") (.bareEnd (Or.inr rfl)) (completable_add _)
  | terminator mark value =>
      exact .of_place (sample .semicolon ";") (.valueEnd (Or.inr rfl)) (completable_add _)
  | result mark =>
      exact .of_shift (sample .identifier "int") (.result rfl rfl) (completable_name mark .int)
  | name mark result => exact completable_name mark result
  | openParen signature =>
      exact .of_shift (sample .openParen "(") (.openParen rfl) (completable_firstParam signature)
  | firstParam signature => exact completable_firstParam signature
  | paramName signature type mark => exact completable_paramName signature type mark
  | afterParam signature =>
      exact .of_shift (sample .closeParen ")") (.closeParen rfl) (completable_openBrace signature)
  | nextParam signature =>
      exact .of_shift (sample .identifier "int") (.nextType rfl rfl)
        (completable_paramName signature .int _)
  | openBrace signature => exact completable_openBrace signature

/-! ## What is viable -/

section Viable

variable {lexemes before rest : List Lexeme} {lexeme : Lexeme} {final : Config}

/-- What was read without a halt is viable. -/
private theorem viable_of_run (hRun : start.run? lexemes = some final) : Viable lexemes := by
  obtain ⟨more, done, hMore⟩ := completable final
  have hAll : start.run? (lexemes ++ more) = some ⟨done, .start⟩ := by
    rw [run?_append, hRun, Option.bind_some, hMore]
  have hParse := (parse_append_of_run hAll []).1
  rw [List.append_nil] at hParse
  exact ⟨more, _, hParse⟩

private theorem viable_of_parse {program : Program Span} (hParse : parse lexemes = .ok program) :
    Viable lexemes :=
  ⟨[], program, by rwa [List.append_nil]⟩

/-- What is refused is not viable, and neither is anything that begins with it. -/
private theorem not_viable_of_refused {refusal : Refusal} (hRun : start.run? before = some final)
    (hRefuses : Refuses lexeme final.state.point refusal) :
    ¬Viable (before ++ lexeme :: rest) := by
  rintro ⟨more, program, hParse⟩
  rw [List.append_assoc, List.cons_append, parse, program_of_refused hRun hRefuses] at hParse
  cases hParse

/-- The beginning of what is read without a halt is read without a halt. -/
private theorem viable_take (hRun : start.run? before = some final) (n : Nat) :
    Viable (before.take n) := by
  rw [← List.take_append_drop n before, run?_append] at hRun
  obtain ⟨middle, hMiddle, _⟩ := Option.bind_eq_some_iff.1 hRun
  exact viable_of_run hMiddle

end Viable

/-! ## Where a mistake is reported -/

/-- Problems with a lexeme, as opposed to the end of the input. -/
def IsRefusal : Problem → Prop
  | .unexpectedLexeme _ _ | .unsupportedSyntax _ | .unknownType _ => True
  | _ => False

/-- A problem with a lexeme names that lexeme. -/
def Names (lexeme : Lexeme) : Problem → Prop
  | .unexpectedLexeme _ got => got = lexeme.describe
  | .unsupportedSyntax description =>
      description = "a statement starting with " ++ lexeme.describe ∨
        description = "the non-literal expression " ++ lexeme.describe
  | .unknownType name => name = lexeme.text
  | _ => False

/-- How many lexemes a problem takes: a name that is no type is read before it is
refused. -/
def taken : Problem → Nat
  | .unknownType _ => 1
  | _ => 0

/-- The queue of some lexemes when `count` of them are consumed. -/
def Queue.after (lexemes : List Lexeme) (count : Nat) : Queue :=
  ⟨(lexemes.take count).getLast?, lexemes.drop count⟩

private theorem Queue.after_length (before rest : List Lexeme) :
    Queue.after (before ++ rest) before.length = ⟨before.getLast?, rest⟩ := by
  rw [Queue.after, List.take_left, List.drop_left]

/-- The first lexeme with which the lexemes up to it are not viable. -/
structure IsFirstMistake (lexemes : List Lexeme) (index : Nat) (lexeme : Lexeme) : Prop where
  found : lexemes[index]? = some lexeme
  spoils : ¬Viable (lexemes.take (index + 1))
  first : ∀ earlier < index, Viable (lexemes.take (earlier + 1))

section Refused

variable {before : List Lexeme} {lexeme : Lexeme} {final : Config} {refusal : Refusal}

theorem Refuses.names {point : Point Span} (hRefuses : Refuses lexeme point refusal) :
    Names lexeme refusal.problem ∧ taken refusal.problem = refusal.consumed.toNat := by
  cases hRefuses with
  | type => exact ⟨rfl, rfl⟩
  | kind =>
      cases point with
      | between => exact ⟨Or.inl rfl, rfl⟩
      | value => exact ⟨Or.inr rfl, rfl⟩
      | _ => exact ⟨rfl, rfl⟩

theorem Names.isRefusal {problem : Problem} (hNames : Names lexeme problem) :
    IsRefusal problem := by
  cases problem with
  | unexpectedLexeme | unsupportedSyntax | unknownType => trivial
  | unrecognisedToken | integerOverflow | unexpectedEnd | custom => exact hNames.elim

/-- What is refused is the first mistake. -/
private theorem isFirstMistake_of_refused (hRun : start.run? before = some final)
    (hRefuses : Refuses lexeme final.state.point refusal) (rest : List Lexeme) :
    IsFirstMistake (before ++ lexeme :: rest) before.length lexeme := by
  refine ⟨?_, ?_, ?_⟩
  · rw [List.getElem?_append_right (Nat.le_refl _), Nat.sub_self]
    rfl
  · rw [List.take_length_add_append, List.take_succ_cons, List.take_zero]
    exact not_viable_of_refused hRun hRefuses
  · intro earlier hEarlier
    rw [List.take_append_of_le_length (by omega)]
    exact viable_take hRun (earlier + 1)

/-- What comes before the lexeme that is refused is consumed, and that lexeme if it was
read. -/
private theorem queue_of_refused (hRun : start.run? before = some final)
    (hRefuses : Refuses lexeme final.state.point refusal) (rest : List Lexeme) :
    (Queue.ofList (before ++ lexeme :: rest)).program.queue =
      Queue.after (before ++ lexeme :: rest) (before.length + taken refusal.problem) := by
  rw [program_of_refused hRun hRefuses, hRefuses.names.2, Queue.failAt]
  have hLast : lastOf none before = before.getLast? := Option.or_none
  cases refusal.consumed with
  | false =>
      rw [hLast]
      exact (Queue.after_length before (lexeme :: rest)).symm
  | true =>
      have hAfter := Queue.after_length (before ++ [lexeme]) rest
      rw [List.append_assoc, List.singleton_append, List.getLast?_concat,
        List.length_append] at hAfter
      exact hAfter.symm

end Refused

/-- **Two sorts of mistakes**: the input ends too early, or it has gone wrong for
good. -/
theorem viable_or_refusal_of_parse {lexemes : List Lexeme} {diagnostic : Diagnostic}
    (hParse : parse lexemes = .error diagnostic) :
    (Viable lexemes ∧ ∃ expected, diagnostic.problem = .unexpectedEnd expected) ∨
      (¬Viable lexemes ∧ IsRefusal diagnostic.problem) := by
  rcases refused_of_parse hParse with
    ⟨expected, hProblem, final, hRun⟩ |
      ⟨before, lexeme, rest, final, refusal, rfl, hRun, hRefuses, rfl⟩
  · exact Or.inl ⟨viable_of_run hRun, expected, hProblem⟩
  · exact Or.inr ⟨not_viable_of_refused hRun hRefuses, hRefuses.names.1.isRefusal⟩

/-- **Mistakes are reported at once.**  Parsing finds that the input ends too early
exactly if the lexemes parse with others after them, but not without.  It refuses a
lexeme exactly if the lexemes do not parse with any after them, and then it is the first
lexeme with which that is so: the problem is reported where that lexeme is and names it,
and the lexemes before it are consumed. -/
theorem parse_error_earliest (lexemes : List Lexeme) :
    ((∃ expected span, parse lexemes = .error ⟨.unexpectedEnd expected, span⟩) ↔
      Viable lexemes ∧ ∀ program, parse lexemes ≠ .ok program) ∧
    ((∃ diagnostic, parse lexemes = .error diagnostic ∧ IsRefusal diagnostic.problem) ↔
      ¬Viable lexemes) ∧
    ∀ diagnostic, parse lexemes = .error diagnostic → IsRefusal diagnostic.problem →
      ∃ index lexeme, IsFirstMistake lexemes index lexeme ∧ diagnostic.span = lexeme.span ∧
        Names lexeme diagnostic.problem ∧
        (Queue.ofList lexemes).program.queue =
          Queue.after lexemes (index + taken diagnostic.problem) := by
  refine ⟨⟨?_, ?_⟩, ⟨?_, ?_⟩, ?_⟩
  · rintro ⟨expected, span, hParse⟩
    rcases viable_or_refusal_of_parse hParse with ⟨hViable, _⟩ | ⟨_, hRefusal⟩
    · exact ⟨hViable, fun program => by rw [hParse]; exact nofun⟩
    · exact hRefusal.elim
  · rintro ⟨hViable, hFails⟩
    cases hParse : parse lexemes with
    | ok program => exact absurd hParse (hFails program)
    | error diagnostic =>
        rcases viable_or_refusal_of_parse hParse with ⟨_, expected, hProblem⟩ | ⟨hSpoilt, _⟩
        · exact ⟨expected, diagnostic.span, by rw [← hProblem]⟩
        · exact absurd hViable hSpoilt
  · rintro ⟨diagnostic, hParse, hRefusal⟩
    rcases viable_or_refusal_of_parse hParse with ⟨_, expected, hProblem⟩ | ⟨hSpoilt, _⟩
    · rw [hProblem] at hRefusal
      exact hRefusal.elim
    · exact hSpoilt
  · intro hSpoilt
    cases hParse : parse lexemes with
    | ok program => exact absurd (viable_of_parse hParse) hSpoilt
    | error diagnostic =>
        rcases viable_or_refusal_of_parse hParse with ⟨hViable, _⟩ | ⟨_, hRefusal⟩
        · exact absurd hViable hSpoilt
        · exact ⟨diagnostic, rfl, hRefusal⟩
  · intro diagnostic hParse hRefusal
    rcases refused_of_parse hParse with ⟨expected, hProblem, _⟩ |
      ⟨before, lexeme, rest, final, refusal, rfl, hRun, hRefuses, rfl⟩
    · rw [hProblem] at hRefusal
      exact hRefusal.elim
    · exact ⟨before.length, lexeme, isFirstMistake_of_refused hRun hRefuses rest, rfl,
        hRefuses.names.1, queue_of_refused hRun hRefuses rest⟩

/-- The header of a function whose second parameter is missing. -/
def danglingComma : List Lexeme :=
  [⟨.fn, "fn", ⟨0, 0, 2⟩, .absent⟩, ⟨.identifier, "int", ⟨0, 3, 3⟩, .name "int"⟩,
    ⟨.identifier, "f", ⟨0, 7, 1⟩, .name "f"⟩, ⟨.openParen, "(", ⟨0, 8, 1⟩, .absent⟩,
    ⟨.identifier, "int", ⟨0, 9, 3⟩, .name "int"⟩, ⟨.identifier, "a", ⟨0, 13, 1⟩, .name "a"⟩,
    ⟨.comma, ",", ⟨0, 14, 1⟩, .absent⟩]

/-- A parameter of a type that is not built in, and more. -/
def foreignParam : List Lexeme :=
  [⟨.identifier, "real", ⟨0, 16, 4⟩, .name "real"⟩, ⟨.identifier, "b", ⟨0, 21, 1⟩, .name "b"⟩]

/-- After the comma a parameter could follow, but not one of a foreign type. -/
theorem foreignParam_earliest :
    ((∃ expected span, parse danglingComma = .error ⟨.unexpectedEnd expected, span⟩) ∧
      Viable danglingComma ∧ ∀ program, parse danglingComma ≠ .ok program) ∧
    parse (danglingComma ++ foreignParam) = .error ⟨.unknownType "real", ⟨0, 16, 4⟩⟩ ∧
    ¬Viable (danglingComma ++ foreignParam) ∧
    ∃ index lexeme, IsFirstMistake (danglingComma ++ foreignParam) index lexeme ∧
      (⟨0, 16, 4⟩ : Span) = lexeme.span ∧ Names lexeme (.unknownType "real") ∧
      (Queue.ofList (danglingComma ++ foreignParam)).program.queue =
        Queue.after (danglingComma ++ foreignParam) (index + taken (.unknownType "real")) := by
  have hDangling : ∃ expected span,
      parse danglingComma = .error ⟨.unexpectedEnd expected, span⟩ := ⟨_, _, rfl⟩
  have hForeign : parse (danglingComma ++ foreignParam) =
      .error ⟨.unknownType "real", ⟨0, 16, 4⟩⟩ := rfl
  obtain ⟨_, hSpoilt, hFirst⟩ := parse_error_earliest (danglingComma ++ foreignParam)
  exact ⟨⟨hDangling, (parse_error_earliest danglingComma).1.1 hDangling⟩, hForeign,
    hSpoilt.1 ⟨_, hForeign, trivial⟩, hFirst _ hForeign trivial⟩

end Frontend.Parsing
