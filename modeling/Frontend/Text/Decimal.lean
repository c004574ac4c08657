import Frontend.Fault

/-!
# Decimal numbers

Places in a source are written in decimal, counted from one.  A number with more than
`digitLimit` digits has no text: whatever needs one fails with `Fault.numberTooLong`.
-/

namespace Frontend.Text

/-- The decimal text of a number, which has at most `digitLimit` digits. -/
def decimal (n : Nat) : Except Fault String :=
  if n.repr.length ≤ digitLimit then .ok n.repr else .error .numberTooLong

/-- Exactly the numbers of at most `digitLimit` digits have a text, and it is their
digits. -/
theorem decimal_eq_ok_iff {n : Nat} {text : String} :
    decimal n = .ok text ↔ n.repr.length ≤ digitLimit ∧ n.repr = text := by
  unfold decimal
  by_cases hShort : n.repr.length ≤ digitLimit
  · simp [hShort]
  · simp [hShort]

/-- A number without a text is too long. -/
theorem decimal_eq_error_iff {n : Nat} {fault : Fault} :
    decimal n = .error fault ↔ digitLimit < n.repr.length ∧ fault = .numberTooLong := by
  unfold decimal
  by_cases hShort : n.repr.length ≤ digitLimit
  · simp [hShort, Nat.not_lt.2 hShort]
  · simp [hShort, Nat.lt_of_not_le hShort, eq_comm]

end Frontend.Text
