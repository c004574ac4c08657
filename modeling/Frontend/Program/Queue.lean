import Frontend.Program.Expectation

/-!
# Lexeme queues

A queue is what is left of a list of lexemes and the last lexeme taken from it, which is
needed to say where an input ends.  Work on a queue always leaves a queue behind, also
when it fails: what was consumed before the failure stays consumed.
-/

namespace Frontend.Parsing

/-- What is left of a list of lexemes, and the lexeme before it. -/
structure Queue where
  last : Option Lexeme
  rest : List Lexeme
  deriving DecidableEq, Repr

/-- The outcome of work on a queue, and the queue afterwards. -/
structure Reply (α : Type) where
  outcome : Except Diagnostic α
  queue : Queue

namespace Reply

variable {α β : Type}

/-- Goes on with what was found, from where the queue is. -/
def andThen (reply : Reply α) (next : α → Queue → Reply β) : Reply β :=
  match reply.outcome with
  | .ok found => next found reply.queue
  | .error diagnostic => ⟨.error diagnostic, reply.queue⟩

/-- Changes what was found. -/
def map (f : α → β) (reply : Reply α) : Reply β :=
  ⟨reply.outcome.map f, reply.queue⟩

end Reply

/-- The span just past a lexeme: on the next line after a line break, behind any other
lexeme, and at the start of the source if there is none. -/
def endSpan : Option Lexeme → Span
  | none => ⟨0, 0, 1⟩
  | some last =>
    if last.kind = .lineBreak then ⟨last.span.line + 1, 0, 1⟩
    else ⟨last.span.line, last.span.column + last.span.length, 1⟩

namespace Queue

/-- The queue of all the given lexemes. -/
def ofList (lexemes : List Lexeme) : Queue := ⟨none, lexemes⟩

/-- The span just past what was consumed. -/
def endSpan (queue : Queue) : Span := Parsing.endSpan queue.last

/-- The first lexeme, if there is one. -/
def peek? (queue : Queue) : Option Lexeme := queue.rest.head?

/-- Whether the first lexeme is of a kind. -/
def startsWith (queue : Queue) (kind : Kind) : Bool :=
  match queue.rest with
  | [] => false
  | lexeme :: _ => lexeme.kind = kind

/-- Takes the first lexeme. -/
def advance (queue : Queue) : Except Fault (Lexeme × Queue) :=
  match queue.rest with
  | [] => .error .queueExhausted
  | lexeme :: rest => .ok (lexeme, ⟨some lexeme, rest⟩)

/-- Fails because the input ends. -/
def failAtEnd {α : Type} (queue : Queue) (expected : String) : Reply α :=
  ⟨.error ⟨.unexpectedEnd expected, queue.endSpan⟩, queue⟩

/-- Fails at the first lexeme, which the refusal may consume. -/
def failAt {α : Type} (last : Option Lexeme) (lexeme : Lexeme) (rest : List Lexeme)
    (refusal : Refusal) : Reply α :=
  ⟨.error ⟨refusal.problem, lexeme.span⟩,
    if refusal.consumed then ⟨some lexeme, rest⟩ else ⟨last, lexeme :: rest⟩⟩

/-- The first lexeme, which is required. -/
def first (queue : Queue) (expected : String) : Reply Lexeme :=
  match queue.rest with
  | [] => queue.failAtEnd expected
  | lexeme :: _ => ⟨.ok lexeme, queue⟩

/-- Takes the first lexeme if a check accepts it. -/
def take {α : Type} (queue : Queue) (expected : String) (read : Lexeme → Except Refusal α) :
    Reply α :=
  match queue.rest with
  | [] => queue.failAtEnd expected
  | lexeme :: rest =>
    match read lexeme with
    | .ok found => ⟨.ok found, ⟨some lexeme, rest⟩⟩
    | .error refusal => failAt queue.last lexeme rest refusal

/-- Takes a lexeme of one of the given kinds. -/
def expect (queue : Queue) (kinds : List Kind) (expected : String) : Reply Lexeme :=
  queue.take expected fun lexeme => (lexeme.expect expected kinds).map fun _ => lexeme

/-- Takes a built-in type. -/
def type (queue : Queue) (expected : String) : Reply PrimType :=
  queue.take expected (Lexeme.readType expected)

/-- Takes an expression. -/
def expression (queue : Queue) : Reply (IntLit Span) :=
  queue.take Expectation.expression.text fun lexeme =>
    lexeme.readInteger.map fun value => ⟨value, lexeme.span⟩

/-- Takes the type and the name of a parameter. -/
def parameter (queue : Queue) : Reply (Param Span) :=
  let readTyped lexeme :=
    (Lexeme.readType Expectation.parameterType.text lexeme).map fun type => (type, lexeme.span)
  (queue.take Expectation.parameterType.text readTyped).andThen fun typed queue =>
    (queue.take Expectation.parameterName.text
      (Lexeme.readName Expectation.parameterName.text)).map fun name =>
        ⟨typed.1, name, typed.2⟩

/-- Skips the line breaks from a list of lexemes on. -/
def skipFrom (last : Option Lexeme) : List Lexeme → Queue
  | [] => ⟨last, []⟩
  | lexeme :: rest =>
    if lexeme.kind = .lineBreak then skipFrom (some lexeme) rest else ⟨last, lexeme :: rest⟩

/-- Skips the line breaks at the front. -/
def skipLineBreaks (queue : Queue) : Queue := skipFrom queue.last queue.rest

end Queue

end Frontend.Parsing
