import Frontend.Program.Parse

/-!
# Parsing sessions

A queue can be worked on step by step.  Every request is answered from the queue as the
requests before it left it, failures included.
-/

namespace Frontend.Parsing

/-- A request to a queue. -/
inductive Request where
  | program
  | statement
  | returnStatement
  | function
  | parameter
  | block
  | expression
  | type (expected : String)
  | expect (kinds : List Kind) (expected : String)
  | first (expected : String)
  | peek
  | startsWith (kind : Kind)
  | advance
  | skipLineBreaks
  | endSpan
  deriving DecidableEq, Repr

/-- The answer to a request. -/
inductive Answer where
  | program (program : Program Span)
  | statement (statement : Stmt Span)
  | parameter (param : Param Span)
  | block (block : Block Span)
  | expression (literal : IntLit Span)
  | type (type : PrimType)
  | lexeme (lexeme : Lexeme)
  | nothing
  | holds (holds : Bool)
  | span (span : Span)
  | failed (failure : Failure)

/-- A reply as an answer, with the queue it leaves. -/
def Reply.answer {α : Type} (reply : Reply α) (found : α → Answer) : Traced Answer × Queue :=
  match reply.outcome with
  | .ok value => (⟨found value, []⟩, reply.queue)
  | .error diagnostic => (⟨.failed (.diagnostic diagnostic), []⟩, reply.queue)

namespace Queue

/-- Serves one request. -/
def serve (queue : Queue) : Request → Traced Answer × Queue
  | .program =>
    let reply := queue.program
    (⟨(reply.answer .program).1.result, stopReport reply⟩, reply.queue)
  | .statement => queue.statement.answer .statement
  | .returnStatement => queue.returnStatement.answer .statement
  | .function => queue.function.answer .statement
  | .parameter => queue.parameter.answer .parameter
  | .block => queue.block.answer .block
  | .expression => queue.expression.answer .expression
  | .type expected => (queue.type expected).answer .type
  | .expect kinds expected => (queue.expect kinds expected).answer .lexeme
  | .first expected => (queue.first expected).answer .lexeme
  | .peek => (⟨(queue.peek?.map Answer.lexeme).getD .nothing, []⟩, queue)
  | .startsWith kind => (⟨.holds (queue.startsWith kind), []⟩, queue)
  | .advance =>
    match queue.advance with
    | .ok (lexeme, left) => (⟨.lexeme lexeme, []⟩, left)
    | .error fault => (⟨.failed (.fault fault), []⟩, queue)
  | .skipLineBreaks => (⟨.nothing, []⟩, queue.skipLineBreaks)
  | .endSpan => (⟨.span queue.endSpan, []⟩, queue)

/-- Serves requests in turn; each entry has the answer and the queue after it. -/
def transcript (queue : Queue) : List Request → List (Traced Answer × Queue)
  | [] => []
  | request :: requests =>
    let entry := queue.serve request
    entry :: entry.2.transcript requests

end Queue

end Frontend.Parsing
