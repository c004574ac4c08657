import Frontend.Lexeme.Scan
import Frontend.Procedure

/-!
# Reading character by character

A text can also be divided into lexemes with no thought of pieces: the next character
decides what is read, and runs are read by taking one character after the other for as
long as they belong.  The procedures here do that.  They work on one cursor, from which
characters are taken whether there are any or not (`advance`); a lexeme gets its text by
cutting the source between two places of the cursor, and its span by subtracting columns
(`span`), so that both could be wrong; and the digits of a numeral are converted without
a check that there are any.

Nothing is assumed about the runs or about the number of lexemes.  Both are counted down
from a bound.
-/

namespace Frontend.Scan

open Procedure (unended)
open Source (Cursor)

/-- Work on the cursor of a text. -/
abbrev Reader := Procedure Cursor

namespace Reader

variable {α : Type}

/-- Makes a fault of what cannot be done. -/
def attempt : Except Fault α → Reader α
  | .ok value => return value
  | .error fault => throw (.fault fault)

/-! ## Characters -/

/-- The next character, if there is one. -/
def peek : Reader (Option Char) := do
  return (← get).peek?

/-- Takes the next character, which has to be there. -/
def advance : Reader Char := do
  let (c, left) ← attempt (← get).advance
  set left
  return c

/-- Takes characters for as long as they belong to a run. -/
def run (belongs : Char → Bool) : Nat → Reader Unit
  | 0 => unended
  | bound + 1 => do
    if (← peek).any belongs then
      let _ ← advance
      run belongs bound

/-! ## Lexemes -/

/-- The text between an earlier place of the cursor and the present one. -/
def text (start : Cursor) : Reader (List Char) := do
  return start.rest.take ((← get).place.offset - start.place.offset)

/-- The span from a line and a column to the cursor, as far as its column tells. -/
def span (line column : Nat) : Reader Span := do
  attempt (Span.ofFields line column ((← get).place.column - column))

/-- The number that digits are converted to. -/
def convert (digits : List Char) : Except Fault Nat :=
  if digits.isEmpty then .error .numeralMissing
  else if digitLimit < digits.length then .error (.numeralTooLong digits.length)
  else .ok (Nat.ofDigitChars 10 digits 0)

/-- A word as a lexeme: a keyword or an identifier. -/
def classify (text : String) (span : Span) : Lexeme :=
  match Kind.keywords.lookup text with
  | some kind => ⟨kind, text, span, .absent⟩
  | none => ⟨.identifier, text, span, .name text⟩

/-- Takes a run of letters, which is a word. -/
def word (line column bound : Nat) : Reader Lexeme := do
  let start ← get
  let _ ← advance
  run Char.isAlpha bound
  let letters ← text start
  return classify (String.ofList letters) (← span line column)

/-- Makes an integer of digits that were taken, if it fits. -/
def integer (line column : Nat) (digits : List Char) : Reader Lexeme := do
  let number ← attempt (convert digits)
  if int64Max < number then
    throw (.diagnostic ⟨.integerOverflow (String.ofList digits), ← span line column⟩)
  else
    return ⟨.integer, String.ofList digits, ← span line column, .integer number⟩

/-- Takes a run of digits, which is an integer. -/
def numeral (line column bound : Nat) : Reader Lexeme := do
  let start ← get
  run Char.isDigit bound
  integer line column (← text start)

/-- Takes a single character, which is a lexeme by itself or is not recognised. -/
def mark (line column : Nat) (first : Option Char) : Reader Lexeme := do
  let _ ← advance
  let text := String.ofList first.toList
  match first.bind fun c => Kind.punctuation.lookup c with
  | some kind => return ⟨kind, text, ← span line column, .absent⟩
  | none => throw (.diagnostic ⟨.unrecognisedToken text, ← span line column⟩)

/-- Reads up to the next lexeme, if there is one before the end. -/
def next (bound : Nat) : Nat → Bool → Reader (Option Lexeme)
  | 0, _ => unended
  | rounds + 1, idle => do
    let start ← get
    if start.atEnd then
      return none
    else
      let first ← peek
      if first.any Char.isAlpha then
        return some (← word start.place.line start.place.column bound)
      else if first.any Char.isDigit then
        return some (← numeral start.place.line start.place.column bound)
      else if first.any (· ∈ Kind.blanks) then
        let _ ← advance
        if first = some '\n' ∧ ¬idle then
          let span ← attempt (Span.ofFields start.place.line start.place.column 1)
          return some ⟨.lineBreak, "\n", span, .absent⟩
        else
          next bound rounds idle
      else
        return some (← mark start.place.line start.place.column first)

/-- Reads all lexemes up to the end. -/
def all (bound : Nat) : Nat → Bool → Reader (List Lexeme)
  | 0, _ => unended
  | rounds + 1, idle => do
    match ← next bound bound idle with
    | none => return []
    | some lexeme => return lexeme :: (← all bound rounds (lexeme.kind = .lineBreak))

end Reader

end Frontend.Scan
