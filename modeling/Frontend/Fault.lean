import Frontend.Limit

/-!
# Faults

A fault is a request that the front end cannot honour and that is not a mistake in the
program being compiled: a span with a negative field, a number or a text beyond the
limits, reading past the end of a text or of a lexeme queue, an excerpt of a line that a
text does not have.  Mistakes in the program itself are diagnostics.
-/

namespace Frontend

/-- What cannot be honoured. -/
inductive Fault where
  /-- A span was asked for with a negative field. -/
  | negativeSpan (line column length : Int)
  /-- A digit run to be read holds no digit. -/
  | numeralMissing
  /-- A digit run to be read is longer than `digitLimit`. -/
  | numeralTooLong (digits : Nat)
  /-- A number to be written has more than `digitLimit` digits. -/
  | numberTooLong
  /-- There is no room for a run of one character, though its length can be counted. -/
  | textTooLong
  /-- A run of one character is longer than `int64Max`. -/
  | lengthTooLarge
  /-- A character was taken at the end of the text. -/
  | textExhausted
  /-- A lexeme was taken from an empty queue. -/
  | queueExhausted
  /-- A line, counted from zero, was quoted from a text of only `available` lines. -/
  | lineMissing (line available : Nat)
  deriving DecidableEq, Repr

/-- The wording of a fault. -/
def Fault.message : Fault → String
  | .negativeSpan line column length =>
    "position fields must be non-negative, got line=" ++ line.repr ++ " column=" ++ column.repr
      ++ " length=" ++ length.repr
  | .numeralMissing => "invalid literal for int() with base 10: ''"
  | .numeralTooLong digits =>
    "Exceeds the limit (" ++ digitLimit.repr ++ " digits) for integer string conversion: value has "
      ++ digits.repr ++ " digits; use sys.set_int_max_str_digits() to increase the limit"
  | .numberTooLong =>
    "Exceeds the limit (" ++ digitLimit.repr ++ " digits) for integer string conversion; "
      ++ "use sys.set_int_max_str_digits() to increase the limit"
  | .textTooLong => ""
  | .lengthTooLarge => "cannot fit 'int' into an index-sized integer"
  | .textExhausted => "string index out of range"
  | .queueExhausted => "pop from an empty deque"
  | .lineMissing line available =>
    "an error was reported on line " ++ (line + 1).repr ++ ", but the source only has "
      ++ available.repr ++ " line(s)"

end Frontend
