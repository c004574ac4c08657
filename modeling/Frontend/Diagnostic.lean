import Frontend.Source.Span
import Frontend.Text.Quoted

/-!
# Diagnostics

A diagnostic is one problem at one span.  A problem is a cause: which rule of the
language the source breaks and the text that breaks it.  Its stage and its wording are
functions of the cause, so they are stated once, and two problems are equal exactly when
their causes are.

Text that comes from the source enters a message only through `Text.quote`, apart from
the digits of an integer that is too large.
-/

namespace Frontend

/-- The stage of compilation that finds a problem. -/
inductive Stage where
  | lexical
  | syntactic
  | semantic
  deriving DecidableEq, Repr

namespace Stage

/-- All stages, in the order in which they run. -/
def all : List Stage := [.lexical, .syntactic, .semantic]

/-- The name of a stage. -/
def name : Stage → String
  | .lexical => "LEXICAL"
  | .syntactic => "SYNTACTIC"
  | .semantic => "SEMANTIC"

/-- The one-letter tag of a stage. -/
def tag : Stage → String
  | .lexical => "L"
  | .syntactic => "P"
  | .semantic => "S"

/-- The stage of a given name. -/
def ofName? (name : String) : Option Stage :=
  all.find? fun stage => stage.name = name

end Stage

/-- What is wrong with the source. -/
inductive Problem where
  /-- A character that begins no lexeme. -/
  | unrecognisedToken (raw : String)
  /-- A digit run whose value does not fit in 64 bits with a sign. -/
  | integerOverflow (raw : String)
  /-- The input ends where something is still required. -/
  | unexpectedEnd (expected : String)
  /-- A lexeme stands where another is required. -/
  | unexpectedLexeme (expected got : String)
  /-- A type name that is not built in. -/
  | unknownType (name : String)
  /-- A form that the grammar does not have. -/
  | unsupportedSyntax (description : String)
  /-- A problem of a later stage, in its own words. -/
  | custom (stage : Stage) (text : String)
  deriving DecidableEq, Repr

namespace Problem

/-- The stage that finds a problem. -/
def stage : Problem → Stage
  | .unrecognisedToken _ | .integerOverflow _ => .lexical
  | .unexpectedEnd _ | .unexpectedLexeme _ _ | .unknownType _ | .unsupportedSyntax _ => .syntactic
  | .custom stage _ => stage

/-- The wording of a problem. -/
def message : Problem → String
  | .unrecognisedToken raw => "an unrecognised token was encountered: " ++ Text.quote raw
  | .integerOverflow raw => "integer literal " ++ raw ++ " does not fit in a signed 64-bit integer"
  | .unexpectedEnd expected => "unexpected end of input, expected " ++ expected
  | .unexpectedLexeme expected got => "expected " ++ expected ++ ", got " ++ got
  | .unknownType name =>
    "custom types are not implemented yet (given " ++ Text.quote name ++ ")"
  | .unsupportedSyntax description => description ++ " is not supported yet"
  | .custom _ text => text

/-- The name of the kind of problem. -/
def label : Problem → String
  | .unrecognisedToken _ => "UnrecognisedToken"
  | .integerOverflow _ => "IntegerOverflow"
  | .unexpectedEnd _ => "UnexpectedEof"
  | .unexpectedLexeme _ _ => "UnexpectedLexeme"
  | .unknownType _ => "UnknownType"
  | .unsupportedSyntax _ => "UnsupportedSyntax"
  | .custom _ _ => "Custom"

/-- The texts that a problem carries, with their names. -/
def fields : Problem → List (String × String)
  | .unrecognisedToken raw => [("raw", raw)]
  | .integerOverflow raw => [("raw", raw)]
  | .unexpectedEnd expected => [("expected", expected)]
  | .unexpectedLexeme expected got => [("expected", expected), ("got", got)]
  | .unknownType name => [("name", name)]
  | .unsupportedSyntax description => [("description", description)]
  | .custom _ text => [("text", text)]

/-- The problem with its fields named and quoted. -/
def dump (problem : Problem) : String :=
  Text.record problem.label (problem.fields.map fun field => (field.1, Text.quote field.2))

end Problem

/-- One problem at one span. -/
structure Diagnostic where
  problem : Problem
  span : Span
  deriving DecidableEq, Repr

namespace Diagnostic

/-- The stage that found the problem. -/
def stage (diagnostic : Diagnostic) : Stage := diagnostic.problem.stage

/-- The wording of the problem. -/
def message (diagnostic : Diagnostic) : String := diagnostic.problem.message

/-- The diagnostic with its parts named. -/
def dump (diagnostic : Diagnostic) : String :=
  "ShadowError(" ++ diagnostic.problem.dump ++ ", " ++ diagnostic.span.dump ++ ")"

end Diagnostic

/-- Why a piece of work has no result: the source is wrong, or the request cannot be
honoured. -/
inductive Failure where
  | diagnostic (diagnostic : Diagnostic)
  | fault (fault : Fault)
  deriving DecidableEq, Repr

end Frontend
