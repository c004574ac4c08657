import Frontend.Fault

/-!
# Runs of one character

The marker under a source line is made of spaces and carets, as many as the span says.
A span may come from outside with any numbers in it, so a run is refused where it would
not fit in memory.  How much fits is a question for whoever asks for the run.
-/

namespace Frontend.Text

/-- A character as many times as asked for, which is at most `room` times. -/
def fill (room : Nat) (c : Char) (count : Nat) : Except Fault (List Char) :=
  if count ≤ room then .ok (List.replicate count c)
  else if count ≤ int64Max then .error .textTooLong
  else .error .lengthTooLarge

/-- Exactly the runs for which there is room are made, and they hold only that
character. -/
theorem fill_eq_ok_iff {room : Nat} {c : Char} {count : Nat} {text : List Char} :
    fill room c count = .ok text ↔ count ≤ room ∧ List.replicate count c = text := by
  unfold fill
  by_cases hFits : count ≤ room
  · simp [hFits]
  · by_cases hCounted : count ≤ int64Max
    · simp [hFits, hCounted]
    · simp [hFits, hCounted]

end Frontend.Text
