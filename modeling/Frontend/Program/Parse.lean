import Frontend.Event
import Frontend.Lexeme.Scan
import Frontend.Program.Machine
import Frontend.Program.Queue

/-!
# Parsing

The machine is run over a queue of lexemes.  `programFrom` runs it until the input ends
between two statements or a closing brace comes that nothing opens; `statementFrom` runs
it until one statement is complete.  Both recurse on the list of lexemes, and both mark
every part with the span of the lexeme that introduces it.

Everything else is built from these two: a block is a program between braces, and a
return or a function is a statement whose first lexeme is checked beforehand.
-/

namespace Frontend

namespace Parsing

/-- Reads statements from a state on; `done` holds those that are complete. -/
def programFrom (last : Option Lexeme) (done : List (Stmt Span)) (state : State Span) :
    List Lexeme → Reply (List (Stmt Span))
  | [] =>
    match state.due with
    | none => ⟨.ok done, ⟨last, []⟩⟩
    | some expected => Queue.failAtEnd ⟨last, []⟩ expected.text
  | lexeme :: rest =>
    match state.step lexeme lexeme.span with
    | .ok (.shift state) => programFrom (some lexeme) done state rest
    | .ok (.complete statement) => programFrom (some lexeme) (done ++ [statement]) .start rest
    | .ok .stop => ⟨.ok done, ⟨last, lexeme :: rest⟩⟩
    | .error refusal => Queue.failAt last lexeme rest refusal

/-- Reads one statement from a state on. -/
def statementFrom (last : Option Lexeme) (state : State Span) : List Lexeme → Reply (Stmt Span)
  | [] => Queue.failAtEnd ⟨last, []⟩ (state.due.getD .statement).text
  | lexeme :: rest =>
    match state.step lexeme lexeme.span with
    | .ok (.shift state) => statementFrom (some lexeme) state rest
    | .ok (.complete statement) => ⟨.ok statement, ⟨some lexeme, rest⟩⟩
    | .ok .stop => Queue.failAt last lexeme rest lexeme.refuseStatement
    | .error refusal => Queue.failAt last lexeme rest refusal

namespace Queue

/-- Takes statements up to the end or to a closing brace that nothing opens. -/
def statements (queue : Queue) : Reply (List (Stmt Span)) :=
  programFrom queue.last [] .start queue.rest

/-- Takes one statement if a check accepts its first lexeme. -/
def statementIf (queue : Queue) (expected : Expectation) (check : Lexeme → Except Refusal Unit) :
    Reply (Stmt Span) :=
  match queue.rest with
  | [] => queue.failAtEnd expected.text
  | lexeme :: rest =>
    match check lexeme with
    | .ok () => statementFrom queue.last .start (lexeme :: rest)
    | .error refusal => failAt queue.last lexeme rest refusal

/-- Takes one statement. -/
def statement (queue : Queue) : Reply (Stmt Span) :=
  queue.statementIf .statement fun lexeme =>
    if lexeme.kind = .fn ∨ lexeme.kind = .ret then .ok () else .error lexeme.refuseStatement

/-- Takes one return. -/
def returnStatement (queue : Queue) : Reply (Stmt Span) :=
  queue.statementIf .retKeyword (Lexeme.expect Expectation.retKeyword.text [.ret])

/-- Takes one function. -/
def function (queue : Queue) : Reply (Stmt Span) :=
  queue.statementIf .fnKeyword (Lexeme.expect Expectation.fnKeyword.text [.fn])

/-- Takes statements between braces. -/
def block (queue : Queue) : Reply (Block Span) :=
  (queue.expect [.openBrace] Expectation.openBrace.text).andThen fun brace queue =>
    queue.statements.andThen fun statements queue =>
      (queue.expect [.closeBrace] Expectation.closeBrace.text).map fun _ =>
        ⟨statements, brace.span⟩

/-- Takes a program. -/
def program (queue : Queue) : Reply (Program Span) :=
  queue.statements.map Program.mk

end Queue

/-- The report of a program that stopped before the end of its queue, at a brace. -/
def stopReport (reply : Reply (Program Span)) : List Event :=
  match reply.outcome, reply.queue.rest with
  | .ok _, lexeme :: rest => [.stoppedAtBrace lexeme.span (rest.length + 1)]
  | _, _ => []

/-- The report of a program that was parsed. -/
def parseReport (reply : Reply (Program Span)) : List Event :=
  match reply.outcome with
  | .ok program => [.parsed program.statements.length]
  | .error _ => []

end Parsing

open Parsing

/-- The program that a list of lexemes begins with, up to its end or to a closing brace
that nothing opens. -/
def parse (lexemes : List Lexeme) : Except Diagnostic (Program Span) :=
  (Queue.ofList lexemes).program.outcome

/-- Parses with a report of where parsing stopped and of what was parsed. -/
def parseTraced (lexemes : List Lexeme) : Traced (Except Failure (Program Span)) :=
  let reply := (Queue.ofList lexemes).program
  ⟨reply.outcome.mapError Failure.diagnostic, stopReport reply ++ parseReport reply⟩

/-- The program of a source. -/
def Program.ofSource (source : String) : Except Failure (Program Span) := do
  let lexemes ← lex source
  (parse lexemes).mapError Failure.diagnostic

/-- A source that has no lexemes has no program, for the same reason. -/
theorem Program.ofSource_of_lex_error {source : String} {failure : Failure}
    (hLex : lex source = .error failure) : ofSource source = .error failure := by
  unfold ofSource
  rw [hLex]
  rfl

/-- The program of a source that has lexemes is that of the lexemes. -/
theorem Program.ofSource_of_lex_ok {source : String} {lexemes : List Lexeme}
    (hLex : lex source = .ok lexemes) :
    ofSource source = (parse lexemes).mapError Failure.diagnostic := by
  unfold ofSource
  rw [hLex]
  rfl

/-- Goes on to parse after a first stage, whose reports come first. -/
def parseAfter (lexed : Traced (Except Failure (List Lexeme))) :
    Traced (Except Failure (Program Span)) :=
  match lexed.result with
  | .error failure => ⟨.error failure, lexed.log⟩
  | .ok lexemes =>
    let parsed := parseTraced lexemes
    ⟨parsed.result, lexed.log ++ parsed.log⟩

/-- The program of a source, with the reports of both stages. -/
def Program.ofSourceTraced (source : String) : Traced (Except Failure (Program Span)) :=
  parseAfter (scan source).traced

/-- Reports do not change the outcome of parsing. -/
theorem result_parseTraced (lexemes : List Lexeme) :
    (parseTraced lexemes).result = (parse lexemes).mapError Failure.diagnostic :=
  rfl

end Frontend
