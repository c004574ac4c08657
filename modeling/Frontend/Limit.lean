/-!
# Limits

The front end bounds the numbers and the texts that it makes.  A decimal number is read
and written only up to `digitLimit` digits, which keeps the conversion cheap whatever
the input.  A length is counted at all only up to `int64Max`, which also bounds the
value of an integer literal.
-/

namespace Frontend

/-- The largest number of digits that is read or written, leading zeros included. -/
def digitLimit : Nat := 4300

/-- The largest integer of 64 bits with a sign. -/
def int64Max : Nat := 0x7fffffffffffffff

end Frontend
