import Frontend.Diagnostic
import Frontend.Lexeme
import Frontend.Program

/-!
# Expectations

At every point of the grammar only some lexemes can come next.  An expectation names
what is required there, in the words of the diagnostics.  The checks of this module look
at one lexeme and either read what it denotes or refuse it.  A refused lexeme stays
where it is, except for an identifier in the place of a type that is no type's spelling:
that one has been read as a name before it is refused, so it is consumed.
-/

namespace Frontend

/-- What the grammar requires at a point. -/
inductive Expectation where
  | statement
  | fnKeyword
  | retKeyword
  | returnType
  | functionName
  | openParen
  | parameterType
  | parameterName
  | closeParen
  | openBrace
  | closeBrace
  | expressionOrEnd
  | endOfStatement
  | expression
  deriving DecidableEq, Repr

/-- The wording of an expectation. -/
def Expectation.text : Expectation → String
  | .statement => "a statement"
  | .fnKeyword => "'fn'"
  | .retKeyword => "'return'"
  | .returnType => "a return type"
  | .functionName => "a function name"
  | .openParen => "'(' after function name"
  | .parameterType => "a parameter type"
  | .parameterName => "a parameter name"
  | .closeParen => "')' after parameters"
  | .openBrace => "'\x7b'"
  | .closeBrace => "'\x7d'"
  | .expressionOrEnd => "an expression or end of statement"
  | .endOfStatement => "end of statement"
  | .expression => "an expression"

/-- Different expectations are worded differently. -/
theorem Expectation.text_injective {a b : Expectation} (hText : a.text = b.text) : a = b := by
  revert hText
  cases a <;> cases b <;> decide

/-- Why a lexeme is refused, and whether it is consumed all the same. -/
structure Refusal where
  problem : Problem
  consumed : Bool
  deriving DecidableEq, Repr

namespace Lexeme

/-- Accepts a lexeme of one of the given kinds. -/
def expect (expected : String) (kinds : List Kind) (lexeme : Lexeme) : Except Refusal Unit :=
  if lexeme.kind ∈ kinds then .ok ()
  else .error ⟨.unexpectedLexeme expected lexeme.describe, false⟩

/-- Exactly the lexemes of the given kinds are accepted. -/
theorem expect_eq_ok_iff {expected : String} {kinds : List Kind} {lexeme : Lexeme} :
    lexeme.expect expected kinds = .ok () ↔ lexeme.kind ∈ kinds := by
  unfold expect
  split <;> simp_all

/-- Reads an identifier as a name. -/
def readName (expected : String) (lexeme : Lexeme) : Except Refusal String := do
  lexeme.expect expected [.identifier]
  return lexeme.text

/-- Exactly identifiers are read as names, and the name is their text. -/
theorem readName_eq_ok_iff {expected name : String} {lexeme : Lexeme} :
    lexeme.readName expected = .ok name ↔ lexeme.kind = .identifier ∧ lexeme.text = name := by
  unfold readName expect
  split <;> simp_all [bind, Except.bind, pure, Except.pure]

/-- Reads an identifier as a built-in type. -/
def readType (expected : String) (lexeme : Lexeme) : Except Refusal PrimType := do
  let name ← lexeme.readName expected
  match PrimType.ofSpelling? name with
  | some type => .ok type
  | none => .error ⟨.unknownType name, true⟩

/-- Exactly identifiers spelled like a type are read as that type. -/
theorem readType_eq_ok_iff {expected : String} {type : PrimType} {lexeme : Lexeme} :
    lexeme.readType expected = .ok type ↔
      lexeme.kind = .identifier ∧ lexeme.text = type.spelling := by
  rw [← PrimType.ofSpelling?_eq_some_iff]
  unfold readType readName expect
  by_cases hKind : lexeme.kind = .identifier
  · cases hType : PrimType.ofSpelling? lexeme.text <;>
      simp [hKind, hType, bind, Except.bind, pure, Except.pure]
  · simp [hKind, bind, Except.bind]

/-- Reads an integer, whatever its value is. -/
def readInteger (lexeme : Lexeme) : Except Refusal Value :=
  if lexeme.kind = .integer then .ok lexeme.value
  else .error ⟨.unsupportedSyntax ("the non-literal expression " ++ lexeme.describe), false⟩

/-- Exactly integers are read, and they denote the value they carry. -/
theorem readInteger_eq_ok_iff {value : Value} {lexeme : Lexeme} :
    lexeme.readInteger = .ok value ↔ lexeme.kind = .integer ∧ lexeme.value = value := by
  unfold readInteger
  split <;> simp_all

/-- The refusal of a lexeme that begins no statement. -/
def refuseStatement (lexeme : Lexeme) : Refusal :=
  ⟨.unsupportedSyntax ("a statement starting with " ++ lexeme.describe), false⟩

/-- Whether the lexeme ends a return. -/
def isTerminator (lexeme : Lexeme) : Bool :=
  lexeme.kind = .lineBreak || lexeme.kind = .semicolon

end Lexeme

end Frontend
