import Frontend.Diagnostic
import Frontend.Lexeme

/-!
# Pieces of source text

Source text falls into pieces: every maximal run of ASCII letters is one piece, every
maximal run of ASCII digits is one, and any other character is a piece by itself.  So
the pieces of a text, put together again, are the text, and neighbouring pieces never
join.

What a piece means depends on its characters alone, not on where it stands.
`Reading.of` says what that is; the place enters only when a lexeme or a diagnostic is
made from the reading.
-/

namespace Frontend

/-- Whether two neighbouring characters belong to one piece. -/
def joins (a b : Char) : Bool :=
  (a.isAlpha && b.isAlpha) || (a.isDigit && b.isDigit)

/-- The pieces of a text, in order. -/
def pieces (text : List Char) : List (List Char) :=
  text.splitBy joins

/-- What a piece of text means, wherever it stands. -/
inductive Reading where
  /-- A lexeme of this kind with this value. -/
  | lexeme (kind : Kind) (value : Value)
  /-- A line feed, which is a lexeme unless it repeats one. -/
  | lineBreak
  /-- Nothing. -/
  | space
  /-- A mistake in the source. -/
  | problem (problem : Problem)
  /-- A numeral beyond the conversion limit. -/
  | fault (fault : Fault)
  deriving DecidableEq, Repr

namespace Reading

/-- The reading of a letter run: a keyword if it is spelled like one, else an
identifier. -/
def ofWord (word : String) : Reading :=
  match Kind.keywords.lookup word with
  | some kind => .lexeme kind .absent
  | none => .lexeme .identifier (.name word)

/-- The reading of a digit run: its decimal value, if that is converted at all and
fits. -/
def ofDigits (digits : List Char) : Reading :=
  if digitLimit < digits.length then .fault (.numeralTooLong digits.length)
  else if int64Max < Nat.ofDigitChars 10 digits 0 then
    .problem (.integerOverflow (String.ofList digits))
  else .lexeme .integer (.integer (Nat.ofDigitChars 10 digits 0))

/-- The reading of a character that is neither a letter nor a digit. -/
def ofMark (c : Char) : Reading :=
  if c = '\n' then .lineBreak
  else if c ∈ Kind.blanks then .space
  else match Kind.punctuation.lookup c with
    | some kind => .lexeme kind .absent
    | none => .problem (.unrecognisedToken (String.ofList [c]))

/-- The reading of a piece, by its first character. -/
def of : List Char → Reading
  | [] => .space
  | c :: cs =>
    if c.isAlpha then ofWord (String.ofList (c :: cs))
    else if c.isDigit then ofDigits (c :: cs)
    else ofMark c

end Reading

end Frontend
