import Frontend.Lexeme.Piece
import Frontend.Program

/-!
# Printed programs

A program is printed in a canonical form: one space inside a function's header, a
semicolon after every return, and a gap wherever a statement or a brace meets the next
one.  A gap is a space or a line break.  Which one is the only freedom of the form, so a
layout is a program whose marks are gaps: the mark of a statement is the gap between it
and what follows, the mark of a brace the gap after that.  After the last statement of a
program nothing follows, and there is no gap.

Not every program has a text.  `WellFormed` says which do: names must be identifiers,
and values must be numbers that are written without a sign and fit in 64 bits.
-/

namespace Frontend

variable {α : Type}

/-- What separates statements and braces. -/
inductive Gap where
  | space
  | line
  deriving DecidableEq, Repr

/-- A gap as text. -/
def Gap.text : Gap → String
  | .space => " "
  | .line => "\n"

/-- A text that is read as an identifier. -/
def IsName (text : String) : Prop :=
  text ≠ "" ∧ (∀ c ∈ text.toList, c.isAlpha = true) ∧ Kind.keywords.lookup text = none

/-- A value that is read as an integer. -/
def IsValue (value : Value) : Prop :=
  ∃ number : Int, value = .integer number ∧ 0 ≤ number ∧ number ≤ int64Max

/-- A parameter's type and name. -/
def Param.print (param : Param α) : String :=
  param.type.spelling ++ " " ++ param.name

/-- A function's header, up to and with the closing parenthesis. -/
def Signature.print (signature : Signature α) : String :=
  "fn " ++ signature.result.spelling ++ " " ++ signature.name ++ "("
    ++ ", ".intercalate (signature.params.map Param.print) ++ ")"

/-- Whether a header has a text: all its names are identifiers. -/
def Signature.WellFormed (signature : Signature α) : Prop :=
  IsName signature.name ∧ ∀ param ∈ signature.params, IsName param.name

namespace Stmt

/-- The gap between a statement and what follows it. -/
def gap : Stmt Gap → Gap
  | .ret _ gap => gap
  | .fn signature _ _ => signature.mark

mutual

/-- A statement. -/
def print : Stmt Gap → String
  | .ret none _ => "return;"
  | .ret (some literal) _ => "return " ++ literal.value.dump ++ ";"
  | .fn signature brace body => signature.print ++ " \x7b" ++ brace.text ++ printBody body ++ "\x7d"

/-- The statements of a body, each separated from what follows it. -/
def printBody : List (Stmt Gap) → String
  | [] => ""
  | statement :: statements => print statement ++ statement.gap.text ++ printBody statements

end

/-- Statements, each separated from the next. -/
def printAll : List (Stmt Gap) → String
  | [] => ""
  | [statement] => print statement
  | statement :: next :: statements =>
    print statement ++ statement.gap.text ++ printAll (next :: statements)

mutual

/-- Whether a statement has a text. -/
def WellFormed : Stmt α → Prop
  | .ret value _ => ∀ literal ∈ value, IsValue literal.value
  | .fn signature _ body => signature.WellFormed ∧ AllWellFormed body

/-- Whether several statements have texts. -/
def AllWellFormed : List (Stmt α) → Prop
  | [] => True
  | statement :: statements => WellFormed statement ∧ AllWellFormed statements

end

end Stmt

namespace Program

/-- The text of a program in a layout. -/
def print (program : Program Gap) : String := Stmt.printAll program.statements

/-- Whether a program has a text. -/
def WellFormed (program : Program α) : Prop := Stmt.AllWellFormed program.statements

end Program

end Frontend
