import Frontend.Lexeme.Kind
import Frontend.Source.Span
import Frontend.Value

/-!
# Lexemes

A lexeme is a classified stretch of source text with the value it carries.  Lexemes made
from a source are consistent: identifiers carry their text, integers their number, and
nothing else carries a value.  A lexeme can also be put together by hand, and then its
parts need not agree; names and types are taken from the text, literals from the value.
-/

namespace Frontend

/-- A classified stretch of source text. -/
structure Lexeme where
  kind : Kind
  text : String
  span : Span
  value : Value
  deriving DecidableEq, Repr

namespace Lexeme

/-- The lexeme as messages name it: a line break by its kind alone, any other with its
text. -/
def describe (lexeme : Lexeme) : String :=
  if lexeme.kind = .lineBreak then lexeme.kind.name
  else lexeme.kind.name ++ " " ++ Text.quote lexeme.text

/-- The lexeme with its parts named. -/
def dump (lexeme : Lexeme) : String :=
  Text.record "Lexeme"
    [("kind", Text.member "LexemeKind" lexeme.kind.name lexeme.kind.number.repr),
      ("lexeme", Text.quote lexeme.text), ("pos", lexeme.span.dump), ("value", lexeme.value.dump)]

end Lexeme

end Frontend
