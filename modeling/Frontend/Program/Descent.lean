import Frontend.Procedure
import Frontend.Program.Parse

/-!
# Recursive descent

A program can also be parsed by recursive descent: one procedure for each rule of the
grammar, which calls the procedures of the rules in it.  All of them work on one queue,
whose lexemes they take off the front, and the open functions are the calls that have
not come back.

Written so, parsing may go wrong in ways in which the machine cannot.  A lexeme is taken
whether there is one or not (`advance`), each procedure checks for itself what its
callers may have checked before, and that the loops and the recursion end is not seen
from their form.  Here nothing is assumed about this.
-/

namespace Frontend.Parsing

open Procedure (unended)

/-- Work on a queue of lexemes. -/
abbrev Descent := Procedure Queue

namespace Descent

variable {α : Type}

/-! ## Lexemes -/

/-- Fails because of a mistake. -/
def mistake (problem : Problem) (span : Span) : Descent α :=
  throw (.diagnostic ⟨problem, span⟩)

/-- Whether the first lexeme is of a kind. -/
def check (kind : Kind) : Descent Bool := do
  return (← get).startsWith kind

/-- Takes the first lexeme, which has to be there. -/
def advance : Descent Lexeme := do
  match (← get).advance with
  | .ok (lexeme, left) =>
    set left
    return lexeme
  | .error fault => throw (.fault fault)

/-- The first lexeme, which is required. -/
def front (expected : Expectation) : Descent Lexeme := do
  let queue ← get
  match queue.peek? with
  | some lexeme => return lexeme
  | none => mistake (.unexpectedEnd expected.text) queue.endSpan

/-- Takes a lexeme of one of the given kinds. -/
def expect (kinds : List Kind) (expected : Expectation) : Descent Lexeme := do
  let lexeme ← front expected
  if lexeme.kind ∈ kinds then
    advance
  else
    mistake (.unexpectedLexeme expected.text lexeme.describe) lexeme.span

/-- Skips the line breaks at the front. -/
def skipLineBreaks : Nat → Descent Unit
  | 0 => unended
  | bound + 1 => do
    if ← check .lineBreak then
      let _ ← advance
      skipLineBreaks bound

/-! ## Types, expressions and returns -/

/-- Takes a built-in type. -/
def type (expected : Expectation) : Descent PrimType := do
  let lexeme ← expect [.identifier] expected
  match PrimType.ofSpelling? lexeme.text with
  | some type => return type
  | none => mistake (.unknownType lexeme.text) lexeme.span

/-- Takes an expression. -/
def expression : Descent (IntLit Span) := do
  let lexeme ← front .expression
  if lexeme.kind = .integer then
    let _ ← advance
    return ⟨lexeme.value, lexeme.span⟩
  else
    mistake (.unsupportedSyntax ("the non-literal expression " ++ lexeme.describe)) lexeme.span

/-- Takes the value of a return, if there is one before its end. -/
def returnValue : Descent (Option (IntLit Span)) := do
  let lexeme ← front .expressionOrEnd
  if lexeme.isTerminator then
    return none
  else
    return some (← expression)

/-- Takes one return. -/
def returnStatement : Descent (Stmt Span) := do
  let keyword ← expect [.ret] .retKeyword
  let value ← returnValue
  let _ ← expect [.lineBreak, .semicolon] .endOfStatement
  return .ret value keyword.span

/-! ## Functions -/

/-- Takes the type and the name of a parameter. -/
def parameter : Descent (Param Span) := do
  let first ← front .parameterType
  let type ← type .parameterType
  let name ← expect [.identifier] .parameterName
  return ⟨type, name.text, first.span⟩

/-- Takes parameters, as long as there is anything left, and more of them after every
comma. -/
def moreParameters : Nat → List (Param Span) → Descent (List (Param Span))
  | 0, _ => unended
  | bound + 1, params => do
    if (← get).rest.isEmpty then
      return params
    else
      let param ← parameter
      if ← check .comma then
        let _ ← advance
        moreParameters bound (params ++ [param])
      else
        return params ++ [param]

/-- Takes the parameters up to the parenthesis that closes them. -/
def parameters (bound : Nat) : Descent (List (Param Span)) := do
  if ← check .closeParen then
    return []
  else
    moreParameters bound []

/-- Takes statements up to the end or to a closing brace, each by a procedure for
one. -/
def moreStatements (nested : Descent (Stmt Span)) :
    Nat → List (Stmt Span) → Descent (List (Stmt Span))
  | 0, _ => unended
  | bound + 1, statements => do
    skipLineBreaks (bound + 1)
    if (← get).rest.isEmpty || (← check .closeBrace) then
      return statements
    else
      let next ← nested
      moreStatements nested bound (statements ++ [next])

/-- Takes statements between braces. -/
def block (nested : Descent (Stmt Span)) (bound : Nat) : Descent (Block Span) := do
  let brace ← expect [.openBrace] .openBrace
  let statements ← moreStatements nested bound []
  let _ ← expect [.closeBrace] .closeBrace
  return ⟨statements, brace.span⟩

/-- Takes one function, with the statements in its body by a procedure for one. -/
def function (nested : Descent (Stmt Span)) (bound : Nat) : Descent (Stmt Span) := do
  let keyword ← expect [.fn] .fnKeyword
  let result ← type .returnType
  let name ← expect [.identifier] .functionName
  let _ ← expect [.openParen] .openParen
  let params ← parameters bound
  let _ ← expect [.closeParen] .closeParen
  let body ← block nested bound
  return .fn ⟨result, name.text, params, keyword.span⟩ body.mark body.statements

/-- Takes one statement; those in the body of a function are one level deeper. -/
def statement : Nat → Descent (Stmt Span)
  | 0 => unended
  | bound + 1 => do
    let first ← front .statement
    if first.kind = .fn then
      function (statement bound) bound
    else if first.kind = .ret then
      returnStatement
    else
      mistake (.unsupportedSyntax ("a statement starting with " ++ first.describe)) first.span

/-- Takes a program. -/
def program (bound : Nat) : Descent (Program Span) := do
  return ⟨← moreStatements (statement bound) bound []⟩

end Descent

end Frontend.Parsing
