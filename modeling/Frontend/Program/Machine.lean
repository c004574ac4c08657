import Frontend.Program.Expectation

/-!
# The parsing machine

Programs are read by a machine that looks at one lexeme at a time and keeps a stack of
the functions whose bodies are open.  Its state is that stack and a point of the
grammar; the point carries what has been read of the statement at hand, so nothing is
looked up twice.

`State.step` is one move.  It either refuses the lexeme or consumes it; a consumed
lexeme leads to another state or completes a statement outside all functions.  Only a
closing brace that nothing opens is neither: there the machine stops and leaves it.
`State.due` is what is still required when the input ends.

The machine treats marks as tokens: it stores the mark of a lexeme and never looks at
it.
-/

namespace Frontend.Parsing

variable {α β : Type}

/-- A function whose body is open: what it declares, the mark of its brace, and the
statements of its body so far. -/
structure Frame (α : Type) where
  signature : Signature α
  brace : α
  body : List (Stmt α)
  deriving DecidableEq, Repr

/-- A point of the grammar, with what has been read of the statement at hand. -/
inductive Point (α : Type) where
  /-- Between statements. -/
  | between
  /-- After `return`. -/
  | value (mark : α)
  /-- After the value of a return. -/
  | terminator (mark : α) (value : IntLit α)
  /-- After `fn`. -/
  | result (mark : α)
  /-- After the result type of a function. -/
  | name (mark : α) (result : PrimType)
  /-- After the name of a function. -/
  | openParen (signature : Signature α)
  /-- After the parenthesis that opens the parameters. -/
  | firstParam (signature : Signature α)
  /-- After the type of a parameter, whose mark is `mark`. -/
  | paramName (signature : Signature α) (type : PrimType) (mark : α)
  /-- After a parameter. -/
  | afterParam (signature : Signature α)
  /-- After the comma between parameters. -/
  | nextParam (signature : Signature α)
  /-- After the parenthesis that closes the parameters. -/
  | openBrace (signature : Signature α)
  deriving DecidableEq, Repr

/-- The open functions, innermost first, and the point reached. -/
structure State (α : Type) where
  frames : List (Frame α)
  point : Point α
  deriving DecidableEq, Repr

/-- The result of reading one lexeme. -/
inductive Move (α : Type) where
  /-- The lexeme is consumed and the machine goes on. -/
  | shift (state : State α)
  /-- The lexeme is consumed and a statement outside all functions is complete. -/
  | complete (statement : Stmt α)
  /-- The lexeme is a closing brace that nothing opens; it is left. -/
  | stop
  deriving DecidableEq

/-- The signature with one more parameter. -/
def addParam (signature : Signature α) (param : Param α) : Signature α :=
  { signature with params := signature.params ++ [param] }

/-- Puts a complete statement where it belongs: into the innermost open body, or
outside. -/
def place (statement : Stmt α) : List (Frame α) → Move α
  | [] => .complete statement
  | frame :: frames => .shift ⟨{ frame with body := frame.body ++ [statement] } :: frames, .between⟩

/-- The start of a program, or of any statement. -/
def State.start : State α := ⟨[], .between⟩

/-- Reads the type of a parameter. -/
def readParamType (frames : List (Frame α)) (signature : Signature α) (lexeme : Lexeme) (mark : α) :
    Except Refusal (Move α) := do
  let type ← lexeme.readType Expectation.parameterType.text
  return .shift ⟨frames, .paramName signature type mark⟩

/-- Reads a lexeme between statements. -/
def readBetween (frames : List (Frame α)) (lexeme : Lexeme) (mark : α) :
    Except Refusal (Move α) :=
  match lexeme.kind with
  | .lineBreak => .ok (.shift ⟨frames, .between⟩)
  | .fn => .ok (.shift ⟨frames, .result mark⟩)
  | .ret => .ok (.shift ⟨frames, .value mark⟩)
  | .closeBrace =>
    match frames with
    | [] => .ok .stop
    | frame :: frames => .ok (place (.fn frame.signature frame.brace frame.body) frames)
  | _ => .error lexeme.refuseStatement

/-- Reads one lexeme, whose mark is `mark`. -/
def State.step (state : State α) (lexeme : Lexeme) (mark : α) : Except Refusal (Move α) :=
  let frames := state.frames
  match state.point with
  | .between => readBetween frames lexeme mark
  | .value ret =>
    if lexeme.isTerminator then .ok (place (.ret none ret) frames)
    else do
      let value ← lexeme.readInteger
      return .shift ⟨frames, .terminator ret ⟨value, mark⟩⟩
  | .terminator ret value => do
    lexeme.expect Expectation.endOfStatement.text [.lineBreak, .semicolon]
    return place (.ret (some value) ret) frames
  | .result fn => do
    let result ← lexeme.readType Expectation.returnType.text
    return .shift ⟨frames, .name fn result⟩
  | .name fn result => do
    let name ← lexeme.readName Expectation.functionName.text
    return .shift ⟨frames, .openParen ⟨result, name, [], fn⟩⟩
  | .openParen signature => do
    lexeme.expect Expectation.openParen.text [.openParen]
    return .shift ⟨frames, .firstParam signature⟩
  | .firstParam signature =>
    if lexeme.kind = .closeParen then .ok (.shift ⟨frames, .openBrace signature⟩)
    else readParamType frames signature lexeme mark
  | .paramName signature type paramMark => do
    let name ← lexeme.readName Expectation.parameterName.text
    return .shift ⟨frames, .afterParam (addParam signature ⟨type, name, paramMark⟩)⟩
  | .afterParam signature =>
    if lexeme.kind = .comma then .ok (.shift ⟨frames, .nextParam signature⟩)
    else do
      lexeme.expect Expectation.closeParen.text [.closeParen]
      return .shift ⟨frames, .openBrace signature⟩
  | .nextParam signature => readParamType frames signature lexeme mark
  | .openBrace signature => do
    lexeme.expect Expectation.openBrace.text [.openBrace]
    return .shift ⟨⟨signature, mark, []⟩ :: frames, .between⟩

/-- What is required at a point, where the input may not end. -/
def Point.due : Point α → Expectation
  | .between => .closeBrace
  | .value _ => .expressionOrEnd
  | .terminator _ _ => .endOfStatement
  | .result _ => .returnType
  | .name _ _ => .functionName
  | .openParen _ => .openParen
  | .firstParam _ | .afterParam _ | .nextParam _ => .closeParen
  | .paramName _ _ _ => .parameterName
  | .openBrace _ => .openBrace

/-- What is still required when the input ends; between the statements of a program,
nothing. -/
def State.due (state : State α) : Option Expectation :=
  match state.frames, state.point with
  | [], .between => none
  | _, point => some point.due

end Frontend.Parsing
