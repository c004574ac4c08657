import Frontend.Proofs.Program.Marks

/-!
# Readings that agree

The parser looks at the kinds of lexemes, at the names of identifiers and at the values
of integers.  Two lists that agree on these are read to the same end, whatever else
their lexemes say and wherever they stand (`parse_agrees`).  If there is a program, it
is one program for both lists: its marks are the indices of lexemes, and each list
supplies its spans for them.  If there is none, both lists break off after equally many
lexemes, for want of the same thing.

It is one instance of following two readings side by side, with indices for the common
marks.
-/

namespace Frontend

/-- Problems of one class that name the same expectation or the same type; what they
tell of a lexeme besides may differ. -/
inductive Problem.Agree : Problem → Problem → Prop where
  | unexpectedEnd (expected : String) : Agree (.unexpectedEnd expected) (.unexpectedEnd expected)
  | unexpectedLexeme (expected got got' : String) :
      Agree (.unexpectedLexeme expected got) (.unexpectedLexeme expected got')
  | unknownType (name : String) : Agree (.unknownType name) (.unknownType name)
  | unsupportedSyntax (description description' : String) :
      Agree (.unsupportedSyntax description) (.unsupportedSyntax description')

/-- The span of the lexeme at an index. -/
def spanOf (lexemes : List Lexeme) (i : Fin lexemes.length) : Span := (lexemes.get i).span

namespace Parsing

variable {α : Type}

private theorem SameReason.agree {a b : Lexeme} {point : Point α} {refusal refusal' : Refusal}
    (hReason : SameReason a b point refusal refusal') :
    refusal.problem.Agree refusal'.problem ∧ refusal.consumed = refusal'.consumed := by
  cases hReason with
  | kind => exact ⟨by cases point <;> constructor, rfl⟩
  | type hText =>
      rw [hText]
      exact ⟨.unknownType b.text, rfl⟩

/-- A refusal leaves equally much if it consumes as much. -/
private theorem length_rest_failAt {β : Type} {last last' : Option Lexeme} {a b : Lexeme}
    {rest rest' : List Lexeme} {refusal refusal' : Refusal}
    (hConsumed : refusal.consumed = refusal'.consumed) (hLeft : rest.length = rest'.length) :
    (@Queue.failAt β last a rest refusal).queue.rest.length =
      (@Queue.failAt β last' b rest' refusal').queue.rest.length := by
  unfold Queue.failAt
  rw [hConsumed]
  cases refusal'.consumed with
  | true => exact hLeft
  | false => exact congrArg Nat.succ hLeft

/-- Lexemes at the same index are twins: the index stands for the spans of both. -/
private theorem twins_of_alike {lexemes lexemes' : List Lexeme}
    (hAlike : List.Forall₂ Lexeme.Alike lexemes lexemes') :
    List.Forall₂ (Twin Lexeme.Alike (spanOf lexemes)
      fun i => spanOf lexemes' (i.cast hAlike.length_eq)) lexemes lexemes' := by
  have hPairs := (List.forall₂_iff_get.1 hAlike).2
  refine List.forall₂_iff_get.2 ⟨hAlike.length_eq, fun i hIndex hIndex' => ?_⟩
  exact ⟨hPairs i hIndex hIndex', ⟨i, hIndex⟩, rfl, rfl⟩

end Parsing

open Parsing

/-- **Agreement.**  Lists of lexemes that the parser does not tell apart leave equally
many of them.  They have the same program up to spans, which come from lexemes at the
same indices, or they fail for the same reason. -/
theorem parse_agrees {lexemes lexemes' : List Lexeme}
    (hAlike : List.Forall₂ Lexeme.Alike lexemes lexemes') :
    (Queue.ofList lexemes).program.queue.rest.length =
        (Queue.ofList lexemes').program.queue.rest.length ∧
      ((∃ program : Program (Fin lexemes.length),
          parse lexemes = .ok (program.map (spanOf lexemes)) ∧
          parse lexemes' = .ok (program.map fun i => spanOf lexemes' (i.cast hAlike.length_eq))) ∨
        ∃ diagnostic diagnostic', parse lexemes = .error diagnostic ∧
          parse lexemes' = .error diagnostic' ∧ diagnostic.problem.Agree diagnostic'.problem) := by
  have hEnd : SameEnd _ _ _ (programFrom none [] .start lexemes)
      (programFrom none [] .start lexemes') :=
    programFrom_twins (fun _ _ hPair => hPair) (twins_of_alike hAlike) none none [] .start
  unfold parse
  have hReply (lexemes : List Lexeme) : (Queue.ofList lexemes).program =
      (programFrom none [] .start lexemes).map Program.mk := rfl
  rw [hReply, hReply]
  generalize programFrom none [] .start lexemes = reply,
    programFrom none [] .start lexemes' = reply' at hEnd
  cases hEnd with
  | found done hLeft => exact ⟨hLeft, Or.inl ⟨⟨done⟩, rfl, rfl⟩⟩
  | cutShort _ _ expected => exact ⟨rfl, Or.inr ⟨_, _, rfl, rfl, .unexpectedEnd expected.text⟩⟩
  | refused _ _ hPair point hRefuses hRefuses' hLeft =>
      obtain ⟨hAgree, hConsumed⟩ := (hRefuses.alike hPair hRefuses').agree
      exact ⟨length_rest_failAt hConsumed hLeft, Or.inr ⟨_, _, rfl, rfl, hAgree⟩⟩

/-- A return of a number, with a brace behind it that nothing opens, as it is lexed. -/
def plainReturn : List Lexeme :=
  [⟨.ret, "return", ⟨0, 0, 6⟩, .absent⟩, ⟨.integer, "7", ⟨0, 7, 1⟩, .integer 7⟩,
    ⟨.semicolon, ";", ⟨0, 8, 1⟩, .absent⟩, ⟨.closeBrace, "\x7d", ⟨0, 9, 1⟩, .absent⟩]

/-- The same put together by hand, with other texts and values, and all in one place. -/
def disguisedReturn : List Lexeme :=
  [⟨.ret, "fn", ⟨5, 5, 5⟩, .integer 8⟩, ⟨.integer, "return", ⟨5, 5, 5⟩, .integer 7⟩,
    ⟨.semicolon, "", ⟨5, 5, 5⟩, .name "x"⟩, ⟨.closeBrace, "\n", ⟨5, 5, 5⟩, .absent⟩]

/-- The program of both, each part marked by the index of its lexeme. -/
def sharedReturn : Program (Fin 4) := ⟨[.ret (some ⟨.integer 7, 1⟩) 0]⟩

/-- The two returns are the same program with the spans of either list, and the brace is
left of both. -/
theorem disguisedReturn_agrees : List.Forall₂ Lexeme.Alike plainReturn disguisedReturn ∧
    (Queue.ofList plainReturn).program.queue.rest.length = 1 ∧
    (Queue.ofList disguisedReturn).program.queue.rest.length = 1 ∧
    parse plainReturn = .ok (sharedReturn.map (spanOf plainReturn)) ∧
    parse disguisedReturn = .ok (sharedReturn.map (spanOf disguisedReturn)) := by
  have hAlike : List.Forall₂ Lexeme.Alike plainReturn disguisedReturn :=
    .cons ⟨rfl, nofun, nofun⟩ (.cons ⟨rfl, nofun, fun _ => rfl⟩ (.cons ⟨rfl, nofun, nofun⟩
      (.cons ⟨rfl, nofun, nofun⟩ .nil)))
  have hLeft := (parse_agrees hAlike).1
  exact ⟨hAlike, rfl, hLeft.symm, rfl, rfl⟩

end Frontend
