/-!
# Kinds of lexemes

The language has eleven kinds of lexemes: two keywords, integers, identifiers, six
punctuation marks and the line break.  The spelling tables are listed in the order of
their texts, and the kinds in the order of their numbers.
-/

namespace Frontend

/-- The class of a lexeme. -/
inductive Kind where
  | fn
  | ret
  | integer
  | identifier
  | openParen
  | closeParen
  | openBrace
  | closeBrace
  | semicolon
  | comma
  | lineBreak
  deriving DecidableEq, Repr

namespace Kind

/-- All kinds, in the order of their numbers. -/
def all : List Kind :=
  [.fn, .ret, .integer, .identifier, .openParen, .closeParen, .openBrace, .closeBrace, .semicolon,
    .comma, .lineBreak]

/-- The name of a kind in messages. -/
def name : Kind → String
  | .fn => "FN"
  | .ret => "RETURN"
  | .integer => "INT_LIT"
  | .identifier => "IDENT"
  | .openParen => "LPAREN"
  | .closeParen => "RPAREN"
  | .openBrace => "LBRACE"
  | .closeBrace => "RBRACE"
  | .semicolon => "SEMICOLON"
  | .comma => "COMMA"
  | .lineBreak => "NEWLINE"

/-- The number of a kind, from one. -/
def number (kind : Kind) : Nat := all.idxOf kind + 1

/-- The kind of a given name. -/
def ofName? (name : String) : Option Kind :=
  all.find? fun kind => kind.name = name

/-- The words that are not identifiers, by their spelling. -/
def keywords : List (String × Kind) := [("fn", .fn), ("return", .ret)]

/-- The marks that are lexemes by themselves, by their spelling. -/
def punctuation : List (Char × Kind) :=
  [('(', .openParen), (')', .closeParen), (',', .comma), (';', .semicolon), ('\x7b', .openBrace),
    ('\x7d', .closeBrace)]

/-- The characters that separate lexemes; of these only the line feed may become a
lexeme. -/
def blanks : List Char := ['\t', '\n', '\x0c', '\r', ' ']

/-- Whether lexemes of this kind are keywords. -/
def isKeyword (kind : Kind) : Bool := keywords.any fun keyword => keyword.2 = kind

/-- Every kind is listed. -/
theorem mem_all (kind : Kind) : kind ∈ all := by cases kind <;> decide

/-- A kind is found by its name. -/
theorem ofName?_name (kind : Kind) : ofName? kind.name = some kind := by cases kind <;> decide

end Kind

end Frontend
