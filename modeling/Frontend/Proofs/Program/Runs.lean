import Frontend.Program.Parse
import Frontend.Proofs.Program.Moves

/-!
# Runs of the parsing machine

A configuration is what the machine has made of the lexemes so far: the complete
statements outside all functions, and its state.  `Config.run?`  reads a list of lexemes
to its end, provided that nothing in it is refused and that the machine does not stop
before a closing brace.

`programFrom_ends` says how reading a program can end, whatever the lexemes are.  Either
all of them are read, and the input ends where it may or where it may not, or there is a
first lexeme that is not consumed, before which the machine stops or which it refuses.
In each case the answer is written out, with the queue that is left.  `fails_of_parse`
keeps of this what a failure comes from.
-/

namespace Frontend.Parsing

/-- The complete statements outside all functions, and the state of the machine. -/
structure Config where
  done : List (Stmt Span)
  state : State Span

namespace Config

def start : Config := ⟨[], .start⟩

/-- The configuration after a move, if the move consumes its lexeme. -/
def after? (done : List (Stmt Span)) : Move Span → Option Config
  | .shift state => some ⟨done, state⟩
  | .complete statement => some ⟨done ++ [statement], .start⟩
  | .stop => none

/-- The configuration after one more lexeme, if that is consumed. -/
def next? (config : Config) (lexeme : Lexeme) : Option Config :=
  match config.state.step lexeme lexeme.span with
  | .ok move => after? config.done move
  | .error _ => none

/-- The configuration after several more lexemes, if all of them are consumed. -/
def run? (config : Config) : List Lexeme → Option Config
  | [] => some config
  | lexeme :: rest => (config.next? lexeme).bind fun next => next.run? rest

@[simp]
theorem run?_nil (config : Config) : config.run? [] = some config := rfl

theorem run?_cons (config : Config) (lexeme : Lexeme) (rest : List Lexeme) :
    config.run? (lexeme :: rest) = (config.next? lexeme).bind fun next => next.run? rest := rfl

theorem run?_append (config : Config) (before after : List Lexeme) :
    config.run? (before ++ after) = (config.run? before).bind fun next => next.run? after := by
  induction before generalizing config with
  | nil => rfl
  | cons lexeme before ih =>
      rw [List.cons_append, run?_cons, run?_cons]
      cases config.next? lexeme with
      | none => rfl
      | some next => exact ih next

theorem run?_cons_of_next {config next : Config} {lexeme : Lexeme}
    (hNext : config.next? lexeme = some next) (rest : List Lexeme) :
    config.run? (lexeme :: rest) = next.run? rest := by
  rw [run?_cons, hNext, Option.bind_some]

/-- A lexeme leads where the move that consumes it does. -/
theorem next?_of_consumes {config : Config} {lexeme : Lexeme} {move : Move Span}
    (hMove : Consumes lexeme lexeme.span config.state move) :
    config.next? lexeme = after? config.done move := by
  rw [next?, hMove.step_eq]

/-- A lexeme that leads on is consumed by a move. -/
theorem consumes_of_next? {config next : Config} {lexeme : Lexeme}
    (hNext : config.next? lexeme = some next) :
    ∃ move, Consumes lexeme lexeme.span config.state move ∧
      after? config.done move = some next := by
  rw [next?] at hNext
  split at hNext
  case h_1 move hStep => exact ⟨move, consumes_of_step hStep, hNext⟩
  case h_2 => cases hNext

/-! ### Complete statements -/

/-- Between statements, with more of them in the innermost open body, or in the
program. -/
def add (done : List (Stmt Span)) (frames : List (Frame Span)) (more : List (Stmt Span)) : Config :=
  match frames with
  | [] => ⟨done ++ more, .start⟩
  | frame :: frames => ⟨done, ⟨{ frame with body := frame.body ++ more } :: frames, .between⟩⟩

theorem add_nil (done : List (Stmt Span)) (frames : List (Frame Span)) :
    add done frames [] = ⟨done, ⟨frames, .between⟩⟩ := by
  cases frames with
  | nil =>
      rw [add, List.append_nil]
      rfl
  | cons frame frames => rw [add, List.append_nil]

theorem point_add (done : List (Stmt Span)) (frames : List (Frame Span))
    (more : List (Stmt Span)) : (add done frames more).state.point = .between := by
  cases frames <;> rfl

theorem add_add (done : List (Stmt Span)) (frames : List (Frame Span))
    (first second : List (Stmt Span)) :
    add (add done frames first).done (add done frames first).state.frames second =
      add done frames (first ++ second) := by
  cases frames with
  | nil =>
      show (⟨done ++ first ++ second, _⟩ : Config) = ⟨done ++ (first ++ second), _⟩
      rw [List.append_assoc]
  | cons frame frames =>
      show (⟨done, ⟨{ frame with body := frame.body ++ first ++ second } :: _, _⟩⟩ : Config) = _
      rw [List.append_assoc]
      rfl

/-- A complete statement is added where it belongs. -/
theorem after?_place (done : List (Stmt Span)) (statement : Stmt Span)
    (frames : List (Frame Span)) :
    after? done (place statement frames) = some (add done frames [statement]) := by
  cases frames <;> rfl

/-- A lexeme that is shifted leads to the next state. -/
theorem next?_of_shift {state next : State Span} {lexeme : Lexeme}
    (hMove : Consumes lexeme lexeme.span state (.shift next)) (done : List (Stmt Span)) :
    next? ⟨done, state⟩ lexeme = some ⟨done, next⟩ := by
  rw [next?_of_consumes hMove, after?]

/-- A lexeme that completes a statement leads to where that is added. -/
theorem next?_of_place {state : State Span} {lexeme : Lexeme} {statement : Stmt Span}
    {frames : List (Frame Span)}
    (hMove : Consumes lexeme lexeme.span state (place statement frames))
    (done : List (Stmt Span)) :
    next? ⟨done, state⟩ lexeme = some (add done frames [statement]) := by
  rw [next?_of_consumes hMove, after?_place]

end Config

/-! ## The ends of a run -/

/-- The last lexeme that was consumed, when `last` came before the given ones. -/
def lastOf (last : Option Lexeme) (lexemes : List Lexeme) : Option Lexeme :=
  lexemes.getLast?.or last

@[simp]
theorem lastOf_nil (last : Option Lexeme) : lastOf last [] = last := rfl

theorem lastOf_cons (last : Option Lexeme) (lexeme : Lexeme) (lexemes : List Lexeme) :
    lastOf last (lexeme :: lexemes) = lastOf (some lexeme) lexemes := by
  unfold lastOf
  rw [List.getLast?_cons]
  cases lexemes.getLast? <;> rfl

/-- Only between the statements of a program may the input end. -/
theorem due_eq_none_iff {state : State Span} : state.due = none ↔ state = .start := by
  obtain ⟨frames, point⟩ := state
  constructor
  · intro hDue
    cases frames with
    | nil => cases point <;> first | rfl | cases hDue
    | cons frame frames => cases hDue
  · intro hStart
    rw [hStart]
    rfl

/-- Everywhere else the end of the input is reported in the words of the point. -/
theorem due_eq_some_iff {α : Type} {state : State α} {expected : Expectation} :
    state.due = some expected ↔ state ≠ .start ∧ state.point.due = expected := by
  obtain ⟨frames, point⟩ := state
  cases frames with
  | nil => cases point <;> simp [State.due, State.start]
  | cons frame frames => simp [State.due, State.start]

private theorem place_ne_stop (statement : Stmt Span) (frames : List (Frame Span)) :
    place statement frames ≠ .stop := by
  cases frames <;> exact nofun

/-- The machine stops between the statements of a program, at a closing brace. -/
theorem consumes_stop_iff {state : State Span} {lexeme : Lexeme} {mark : Span} :
    Consumes lexeme mark state .stop ↔ state = .start ∧ lexeme.kind = .closeBrace := by
  constructor
  · intro hMove
    generalize hStop : Move.stop = move at hMove
    cases hMove with
    | stop hKind => exact ⟨rfl, hKind⟩
    | close | bareEnd | valueEnd => exact absurd hStop.symm (place_ne_stop _ _)
    | _ => cases hStop
  · rintro ⟨rfl, hKind⟩
    exact .stop hKind

/-- How reading a program from a configuration can end, with the answer in each case. -/
inductive Ends (last : Option Lexeme) (config : Config) (lexemes : List Lexeme) :
    Reply (List (Stmt Span)) → Prop where
  /-- The input ends between the statements of the program. -/
  | accepted {final : Config} (hRun : config.run? lexemes = some final)
      (hFinal : final.state = .start) :
      Ends last config lexemes ⟨.ok final.done, ⟨lastOf last lexemes, []⟩⟩
  /-- The input ends where something is still required. -/
  | cutShort {final : Config} {expected : Expectation} (hRun : config.run? lexemes = some final)
      (hDue : final.state.due = some expected) :
      Ends last config lexemes (Queue.failAtEnd ⟨lastOf last lexemes, []⟩ expected.text)
  /-- There is a closing brace that nothing opens. -/
  | stopped {before rest : List Lexeme} {lexeme : Lexeme} {final : Config}
      (hSplit : lexemes = before ++ lexeme :: rest) (hRun : config.run? before = some final)
      (hFinal : final.state = .start) (hKind : lexeme.kind = .closeBrace) :
      Ends last config lexemes ⟨.ok final.done, ⟨lastOf last before, lexeme :: rest⟩⟩
  /-- A lexeme is refused. -/
  | refused {before rest : List Lexeme} {lexeme : Lexeme} {final : Config} {refusal : Refusal}
      (hSplit : lexemes = before ++ lexeme :: rest) (hRun : config.run? before = some final)
      (hRefuses : Refuses lexeme final.state.point refusal) :
      Ends last config lexemes (Queue.failAt (lastOf last before) lexeme rest refusal)

/-- A run that goes on after a first lexeme ends as the rest of it does. -/
theorem Ends.cons {last : Option Lexeme} {config next : Config} {lexeme : Lexeme}
    {rest : List Lexeme} {reply : Reply (List (Stmt Span))}
    (hNext : config.next? lexeme = some next) (hEnds : Ends (some lexeme) next rest reply) :
    Ends last config (lexeme :: rest) reply := by
  have hRun := Config.run?_cons_of_next hNext
  cases hEnds with
  | accepted hRest hFinal =>
      rw [← lastOf_cons last]
      exact .accepted ((hRun rest).trans hRest) hFinal
  | cutShort hRest hDue =>
      rw [← lastOf_cons last]
      exact .cutShort ((hRun rest).trans hRest) hDue
  | stopped hSplit hBefore hFinal hKind =>
      rw [← lastOf_cons last]
      exact .stopped (by rw [hSplit, List.cons_append]) ((hRun _).trans hBefore) hFinal hKind
  | refused hSplit hBefore hRefuses =>
      rw [← lastOf_cons last]
      exact .refused (by rw [hSplit, List.cons_append]) ((hRun _).trans hBefore) hRefuses

/-- **Ends of a run.**  Reading a program from any configuration ends in one of the
listed ways. -/
theorem programFrom_ends (last : Option Lexeme) (config : Config) (lexemes : List Lexeme) :
    Ends last config lexemes (programFrom last config.done config.state lexemes) := by
  induction lexemes generalizing last config with
  | nil =>
      rw [programFrom]
      cases hDue : config.state.due with
      | none => exact .accepted rfl (due_eq_none_iff.1 hDue)
      | some expected => exact .cutShort rfl hDue
  | cons lexeme rest ih =>
      have hHere : lexeme :: rest = [] ++ lexeme :: rest := rfl
      rw [programFrom]
      cases hStep : config.state.step lexeme lexeme.span with
      | error refusal => exact .refused hHere rfl (refuses_of_step hStep)
      | ok move =>
          have hMove := consumes_of_step hStep
          have hNext := Config.next?_of_consumes hMove
          cases move with
          | shift state => exact Ends.cons hNext (ih (some lexeme) ⟨config.done, state⟩)
          | complete statement =>
              exact Ends.cons hNext (ih (some lexeme) ⟨config.done ++ [statement], .start⟩)
          | stop =>
              obtain ⟨hStart, hKind⟩ := consumes_stop_iff.1 hMove
              exact .stopped hHere rfl hStart hKind

/-- After what is read without a halt, reading goes on from the configuration
reached. -/
theorem programFrom_append {config final : Config} {before : List Lexeme}
    (hRun : config.run? before = some final) (last : Option Lexeme) (after : List Lexeme) :
    programFrom last config.done config.state (before ++ after) =
      programFrom (lastOf last before) final.done final.state after := by
  induction before generalizing last config with
  | nil =>
      cases hRun
      rfl
  | cons lexeme before ih =>
      obtain ⟨next, hNext, hRest⟩ := Option.bind_eq_some_iff.1 hRun
      obtain ⟨move, hMove, hAfter⟩ := Config.consumes_of_next? hNext
      rw [List.cons_append, lastOf_cons, programFrom, hMove.step_eq]
      cases move with
      | shift state =>
          cases hAfter
          exact ih hRest (some lexeme)
      | complete statement =>
          cases hAfter
          exact ih hRest (some lexeme)
      | stop => cases hAfter

/-! ## Failures -/

/-- **A refusal** is final: whatever follows the lexeme that is refused is left. -/
theorem program_of_refused {before : List Lexeme} {lexeme : Lexeme} {final : Config}
    {refusal : Refusal} (hRun : Config.start.run? before = some final)
    (hRefuses : Refuses lexeme final.state.point refusal) (rest : List Lexeme) :
    (Queue.ofList (before ++ lexeme :: rest)).program =
      Queue.failAt (lastOf none before) lexeme rest refusal := by
  have hStep : final.state.step lexeme lexeme.span = .error refusal := step_eq_error_iff.2 hRefuses
  have hReply : programFrom none [] .start (before ++ lexeme :: rest) =
      Queue.failAt (lastOf none before) lexeme rest refusal := by
    refine (programFrom_append hRun none (lexeme :: rest)).trans ?_
    rw [programFrom, hStep]
  show (programFrom none [] .start (before ++ lexeme :: rest)).map Program.mk = _
  rw [hReply]
  rfl

/-- How parsing fails: the input ends where something is still required, or a lexeme is
refused. -/
inductive Fails (lexemes : List Lexeme) : Diagnostic → Prop where
  | cutShort {final : Config} {expected : Expectation}
      (hRun : Config.start.run? lexemes = some final) (hDue : final.state.due = some expected) :
      Fails lexemes ⟨.unexpectedEnd expected.text, endSpan (lastOf none lexemes)⟩
  | refused {before rest : List Lexeme} {lexeme : Lexeme} {final : Config} {refusal : Refusal}
      (hSplit : lexemes = before ++ lexeme :: rest) (hRun : Config.start.run? before = some final)
      (hRefuses : Refuses lexeme final.state.point refusal) :
      Fails lexemes ⟨refusal.problem, lexeme.span⟩

/-- **Failures of parsing** are those listed. -/
theorem fails_of_parse {lexemes : List Lexeme} {diagnostic : Diagnostic}
    (hParse : parse lexemes = .error diagnostic) : Fails lexemes diagnostic := by
  have hEnds := programFrom_ends none Config.start lexemes
  change (programFrom none Config.start.done Config.start.state lexemes).outcome.map Program.mk = _
    at hParse
  generalize programFrom none Config.start.done Config.start.state lexemes = reply at hEnds hParse
  cases hEnds with
  | accepted | stopped => cases hParse
  | cutShort hRun hDue =>
      cases hParse
      exact .cutShort hRun hDue
  | refused hSplit hRun hRefuses =>
      cases hParse
      exact .refused hSplit hRun hRefuses

end Frontend.Parsing
