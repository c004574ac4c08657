import Frontend.Proofs.Program.Runs
import Mathlib.Data.List.Forall2

/-!
# Marks

The machine stores the marks of lexemes and never looks at them.  So a change of all
marks goes through a step: it makes no difference whether the marks are changed before
the lexeme is read or after (`step_map`).  Of the lexeme itself the machine looks only
at what `Lexeme.Alike` names, and the rest shows at most in the wording of a refusal.

Two readings can therefore be followed side by side.  If two lists of lexemes are alike
and their spans come from the same marks by two functions, then at every point one
state, whose marks are those common ones, stands for the states of both readings; and
they end in the same way (`programFrom_twins`).
-/

namespace Frontend

/-- Two lexemes that the machine does not tell apart, unless it refuses them. -/
structure Lexeme.Alike (a b : Lexeme) : Prop where
  kind : a.kind = b.kind
  text : a.kind = .identifier → a.text = b.text
  value : a.kind = .integer → a.value = b.value

theorem Lexeme.Alike.symm {a b : Lexeme} (hAlike : a.Alike b) : b.Alike a :=
  ⟨hAlike.kind.symm, fun hKind => (hAlike.text (hAlike.kind.trans hKind)).symm,
    fun hKind => (hAlike.value (hAlike.kind.trans hKind)).symm⟩

namespace Parsing

variable {α β : Type}

/-! ## Changing the marks of the machine -/

def Frame.map (f : α → β) (frame : Frame α) : Frame β :=
  ⟨frame.signature.map f, f frame.brace, frame.body.map (Stmt.map f)⟩

def Point.map (f : α → β) : Point α → Point β
  | .between => .between
  | .value mark => .value (f mark)
  | .terminator mark literal => .terminator (f mark) (literal.map f)
  | .result mark => .result (f mark)
  | .name mark type => .name (f mark) type
  | .openParen signature => .openParen (signature.map f)
  | .firstParam signature => .firstParam (signature.map f)
  | .paramName signature type mark => .paramName (signature.map f) type (f mark)
  | .afterParam signature => .afterParam (signature.map f)
  | .nextParam signature => .nextParam (signature.map f)
  | .openBrace signature => .openBrace (signature.map f)

def State.map (f : α → β) (state : State α) : State β :=
  ⟨state.frames.map (Frame.map f), state.point.map f⟩

def Move.map (f : α → β) : Move α → Move β
  | .shift state => .shift (state.map f)
  | .complete statement => .complete (statement.map f)
  | .stop => .stop

theorem place_map (f : α → β) (statement : Stmt α) (frames : List (Frame α)) :
    (place statement frames).map f = place (statement.map f) (frames.map (Frame.map f)) := by
  cases frames with
  | nil => rfl
  | cons frame frames => simp [place, Move.map, State.map, Frame.map, Point.map]

theorem addParam_map (f : α → β) (signature : Signature α) (param : Param α) :
    (addParam signature param).map f = addParam (signature.map f) (param.map f) := by
  simp [addParam, Signature.map]

/-- A move stays a move when the marks are changed. -/
theorem Consumes.map (f : α → β) {state : State α} {lexeme : Lexeme} {mark : α} {move : Move α}
    (hMove : Consumes lexeme mark state move) :
    Consumes lexeme (f mark) (state.map f) (move.map f) := by
  cases hMove with
  | lineBreak hKind => exact .lineBreak hKind
  | fn hKind => exact .fn hKind
  | ret hKind => exact .ret hKind
  | stop hKind => exact .stop hKind
  | close hKind =>
      rw [place_map, Stmt.map, Stmt.mapAll_eq_map]
      exact .close hKind
  | bareEnd hKind =>
      rw [place_map]
      exact .bareEnd hKind
  | value hKind => exact .value hKind
  | valueEnd hKind =>
      rw [place_map]
      exact .valueEnd hKind
  | result hKind hText => exact .result hKind hText
  | name hKind => exact .name hKind
  | openParen hKind => exact .openParen hKind
  | noParams hKind => exact .noParams hKind
  | firstType hKind hText => exact .firstType hKind hText
  | nextType hKind hText => exact .nextType hKind hText
  | paramName hKind =>
      show Consumes _ _ _ (.shift ⟨_, .afterParam ((addParam _ _).map f)⟩)
      rw [addParam_map]
      exact .paramName hKind
  | comma hKind => exact .comma hKind
  | closeParen hKind => exact .closeParen hKind
  | openBrace hKind => exact .openBrace hKind

/-- A refusal does not depend on marks. -/
theorem Refuses.map (f : α → β) {point : Point α} {lexeme : Lexeme} {refusal : Refusal}
    (hRefuses : Refuses lexeme point refusal) : Refuses lexeme (point.map f) refusal := by
  cases hRefuses with
  | type hReads hKind hText =>
      refine .type ?_ hKind hText
      cases point <;> exact hReads
  | kind hKind =>
      have hProblem : point.problem lexeme = (point.map f).problem lexeme := by cases point <;> rfl
      rw [hProblem]
      refine .kind ?_
      cases point <;> exact hKind

/-- **A step with other marks** is the same step, with the other marks. -/
theorem step_map (f : α → β) (state : State α) (lexeme : Lexeme) (mark : α) :
    (state.map f).step lexeme (f mark) = (state.step lexeme mark).map (Move.map f) := by
  cases hStep : state.step lexeme mark with
  | ok move => exact ((consumes_of_step hStep).map f).step_eq
  | error refusal => exact step_eq_error_iff.2 ((refuses_of_step hStep).map f)

theorem due_map (f : α → β) (state : State α) : (state.map f).due = state.due := by
  obtain ⟨frames, point⟩ := state
  cases frames <;> cases point <;> rfl

/-! ## Reading a lexeme that is alike -/

/-- Lexemes that are alike are consumed by the same moves. -/
theorem Consumes.alike {a b : Lexeme} (hAlike : a.Alike b) {state : State α} {mark : α}
    {move : Move α} (hMove : Consumes a mark state move) : Consumes b mark state move := by
  have hKinds := hAlike.kind
  cases hMove with
  | lineBreak hKind => exact .lineBreak (hKinds ▸ hKind)
  | fn hKind => exact .fn (hKinds ▸ hKind)
  | ret hKind => exact .ret (hKinds ▸ hKind)
  | stop hKind => exact .stop (hKinds ▸ hKind)
  | close hKind => exact .close (hKinds ▸ hKind)
  | bareEnd hKind => exact .bareEnd (hKinds ▸ hKind)
  | value hKind =>
      rw [hAlike.value hKind]
      exact .value (hKinds ▸ hKind)
  | valueEnd hKind => exact .valueEnd (hKinds ▸ hKind)
  | result hKind hText => exact .result (hKinds ▸ hKind) (hAlike.text hKind ▸ hText)
  | name hKind =>
      rw [hAlike.text hKind]
      exact .name (hKinds ▸ hKind)
  | openParen hKind => exact .openParen (hKinds ▸ hKind)
  | noParams hKind => exact .noParams (hKinds ▸ hKind)
  | firstType hKind hText => exact .firstType (hKinds ▸ hKind) (hAlike.text hKind ▸ hText)
  | nextType hKind hText => exact .nextType (hKinds ▸ hKind) (hAlike.text hKind ▸ hText)
  | paramName hKind =>
      rw [hAlike.text hKind]
      exact .paramName (hKinds ▸ hKind)
  | comma hKind => exact .comma (hKinds ▸ hKind)
  | closeParen hKind => exact .closeParen (hKinds ▸ hKind)
  | openBrace hKind => exact .openBrace (hKinds ▸ hKind)

/-- How two lexemes are refused at the same point for the same reason: neither is of a
kind that may come there, or both are the same name of no type. -/
inductive SameReason (a b : Lexeme) (point : Point α) : Refusal → Refusal → Prop where
  | kind : SameReason a b point ⟨point.problem a, false⟩ ⟨point.problem b, false⟩
  | type (hText : a.text = b.text) :
      SameReason a b point ⟨.unknownType a.text, true⟩ ⟨.unknownType b.text, true⟩

/-- Lexemes that are alike are refused for the same reason. -/
theorem Refuses.alike {a b : Lexeme} (hAlike : a.Alike b) {point : Point α}
    {refusal refusal' : Refusal} (hRefuses : Refuses a point refusal)
    (hRefuses' : Refuses b point refusal') : SameReason a b point refusal refusal' := by
  cases hRefuses with
  | kind hKind =>
      cases hRefuses' with
      | kind => exact .kind
      | type hReads hName =>
          rw [hAlike.kind, hName] at hKind
          exact absurd (Point.identifier_mem_accepts hReads) hKind
  | type hReads hName =>
      cases hRefuses' with
      | kind hKind =>
          rw [← hAlike.kind, hName] at hKind
          exact absurd (Point.identifier_mem_accepts hReads) hKind
      | type => exact .type (hAlike.text hName)

/-! ## Two readings side by side -/

/-- Lexemes in the same place of two readings: they are related, and one mark stands for
the spans of both. -/
def Twin (related : Lexeme → Lexeme → Prop) (f g : α → Span) (a b : Lexeme) : Prop :=
  related a b ∧ ∃ mark, f mark = a.span ∧ g mark = b.span

/-- Two readings of a program that end in the same way. -/
inductive SameEnd (related : Lexeme → Lexeme → Prop) (f g : α → Span) :
    Reply (List (Stmt Span)) → Reply (List (Stmt Span)) → Prop where
  /-- The same statements are found, and equally much is left. -/
  | found (done : List (Stmt α)) {queue queue' : Queue}
      (hLeft : queue.rest.length = queue'.rest.length) :
      SameEnd related f g ⟨.ok (done.map (Stmt.map f)), queue⟩
        ⟨.ok (done.map (Stmt.map g)), queue'⟩
  /-- The input ends where the same thing is required. -/
  | cutShort (last last' : Option Lexeme) (expected : Expectation) :
      SameEnd related f g (Queue.failAtEnd ⟨last, []⟩ expected.text)
        (Queue.failAtEnd ⟨last', []⟩ expected.text)
  /-- Lexemes in the same place are refused at the same point. -/
  | refused (last last' : Option Lexeme) {a b : Lexeme} {rest rest' : List Lexeme}
      {refusal refusal' : Refusal} (hRelated : related a b) (point : Point α)
      (hRefuses : Refuses a point refusal) (hRefuses' : Refuses b point refusal')
      (hLeft : rest.length = rest'.length) :
      SameEnd related f g (Queue.failAt last a rest refusal) (Queue.failAt last' b rest' refusal')

/-- **Two readings.**  Lists of lexemes that are alike, and whose spans come from common
marks, are read in the same way. -/
theorem programFrom_twins {related : Lexeme → Lexeme → Prop} {f g : α → Span}
    (hRelated : ∀ a b, related a b → a.Alike b) {lexemes lexemes' : List Lexeme}
    (hTwins : List.Forall₂ (Twin related f g) lexemes lexemes') (last last' : Option Lexeme)
    (done : List (Stmt α)) (state : State α) :
    SameEnd related f g (programFrom last (done.map (Stmt.map f)) (state.map f) lexemes)
      (programFrom last' (done.map (Stmt.map g)) (state.map g) lexemes') := by
  induction hTwins generalizing last last' done state with
  | nil =>
      rw [programFrom, programFrom, due_map, due_map]
      cases state.due with
      | none => exact .found done rfl
      | some expected => exact .cutShort last last' expected
  | @cons a b rest rest' hTwin hRest ih =>
      obtain ⟨hPair, mark, hMark, hMark'⟩ := hTwin
      have hAlike := hRelated a b hPair
      rw [programFrom, programFrom, ← hMark, ← hMark', step_map, step_map]
      cases hStep : state.step a mark with
      | ok move =>
          rw [((consumes_of_step hStep).alike hAlike).step_eq]
          cases move with
          | shift next => exact ih (some a) (some b) done next
          | complete statement =>
              have hNext := ih (some a) (some b) (done ++ [statement]) .start
              rw [List.map_append, List.map_append] at hNext
              exact hNext
          | stop => exact .found done (congrArg Nat.succ hRest.length_eq)
      | error refusal =>
          cases hStep' : state.step b mark with
          | ok move =>
              -- What one of them is consumed by, the other is too.
              have hOk := ((consumes_of_step hStep').alike hAlike.symm).step_eq
              rw [hStep] at hOk
              cases hOk
          | error refusal' =>
              exact .refused last last' hPair state.point (refuses_of_step hStep)
                (refuses_of_step hStep') hRest.length_eq

end Parsing

end Frontend
