import Frontend.Text.Quoted

/-!
# Values

What a lexeme carries besides its text: nothing, a number, or a text.  An integer
literal of a program keeps the value of its lexeme as it is, whatever that is.
-/

namespace Frontend

/-- What a lexeme carries besides its text. -/
inductive Value where
  | absent
  | integer (number : Int)
  | name (text : String)
  deriving DecidableEq, Repr

/-- The value on one line. -/
def Value.dump : Value → String
  | .absent => "None"
  | .integer number => number.repr
  | .name text => Text.quote text

end Frontend
