import Frontend.Lexeme
import Frontend.Program

/-!
# The grammar

The grammar of programs, as relations between lists of lexemes and what they denote.
They say nothing about how a list is read: a list may be taken apart in any way that the
rules allow.

```
statements := (statement | line-break)*
statement  := function | return integer? (line-break | semicolon)
function   := fn type identifier ( (param (, param)*)? ) block
param      := type identifier
block      := open-brace statements close-brace
```

Names are the texts of identifiers, values those that integers carry, and every part is
marked with the span of its first lexeme.
-/

namespace Frontend.Grammar

/-- An identifier that is spelled like a built-in type. -/
structure IsType (lexeme : Lexeme) (type : PrimType) : Prop where
  kind : lexeme.kind = .identifier
  text : lexeme.text = type.spelling

/-- A lexeme that ends a return. -/
def IsTerminator (lexeme : Lexeme) : Prop :=
  lexeme.kind = .lineBreak ∨ lexeme.kind = .semicolon

/-- The type and the name of a parameter. -/
inductive DerivesParam : List Lexeme → Param Span → Prop where
  | param {typeName name : Lexeme} {type : PrimType}
      (hType : IsType typeName type) (hName : name.kind = .identifier) :
      DerivesParam [typeName, name] ⟨type, name.text, typeName.span⟩

/-- Parameters that each follow a comma. -/
inductive DerivesMoreParams : List Lexeme → List (Param Span) → Prop where
  | nil : DerivesMoreParams [] []
  | cons {comma : Lexeme} {first more : List Lexeme} {param : Param Span}
      {params : List (Param Span)} (hComma : comma.kind = .comma)
      (hParam : DerivesParam first param) (hMore : DerivesMoreParams more params) :
      DerivesMoreParams (comma :: (first ++ more)) (param :: params)

/-- The parameters of a function, with commas between them. -/
inductive DerivesParams : List Lexeme → List (Param Span) → Prop where
  | nil : DerivesParams [] []
  | cons {first more : List Lexeme} {param : Param Span} {params : List (Param Span)}
      (hParam : DerivesParam first param) (hMore : DerivesMoreParams more params) :
      DerivesParams (first ++ more) (param :: params)

mutual

/-- Statements in order, with line breaks anywhere between them. -/
inductive DerivesStatements : List Lexeme → List (Stmt Span) → Prop where
  | nil : DerivesStatements [] []
  | lineBreak {lexeme : Lexeme} {rest : List Lexeme} {statements : List (Stmt Span)}
      (hKind : lexeme.kind = .lineBreak) (hRest : DerivesStatements rest statements) :
      DerivesStatements (lexeme :: rest) statements
  | statement {first rest : List Lexeme} {statement : Stmt Span} {statements : List (Stmt Span)}
      (hFirst : DerivesStatement first statement) (hRest : DerivesStatements rest statements) :
      DerivesStatements (first ++ rest) (statement :: statements)

/-- One statement. -/
inductive DerivesStatement : List Lexeme → Stmt Span → Prop where
  | ret {keyword terminator : Lexeme}
      (hKeyword : keyword.kind = .ret) (hTerminator : IsTerminator terminator) :
      DerivesStatement [keyword, terminator] (.ret none keyword.span)
  | retValue {keyword value terminator : Lexeme}
      (hKeyword : keyword.kind = .ret) (hValue : value.kind = .integer)
      (hTerminator : IsTerminator terminator) :
      DerivesStatement [keyword, value, terminator]
        (.ret (some ⟨value.value, value.span⟩) keyword.span)
  | fn {keyword typeName name openParen closeParen openBrace closeBrace : Lexeme}
      {between inside : List Lexeme} {result : PrimType} {params : List (Param Span)}
      {body : List (Stmt Span)}
      (hKeyword : keyword.kind = .fn) (hType : IsType typeName result)
      (hName : name.kind = .identifier) (hOpenParen : openParen.kind = .openParen)
      (hParams : DerivesParams between params) (hCloseParen : closeParen.kind = .closeParen)
      (hOpenBrace : openBrace.kind = .openBrace) (hBody : DerivesStatements inside body)
      (hCloseBrace : closeBrace.kind = .closeBrace) :
      DerivesStatement
        (keyword :: typeName :: name :: openParen ::
          (between ++ closeParen :: openBrace :: (inside ++ [closeBrace])))
        (.fn ⟨result, name.text, params, keyword.span⟩ openBrace.span body)

end

end Frontend.Grammar
