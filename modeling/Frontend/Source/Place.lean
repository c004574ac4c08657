/-!
# Places in a text

A place is a point between two characters of a text, given three times over: by the
number of characters before it, by the number of line feeds before it, and by the number
of characters since the last of these.  `Place.pass` moves a place over characters one
at a time.
-/

namespace Frontend.Source

/-- A point between two characters of a text. -/
structure Place where
  offset : Nat
  line : Nat
  column : Nat
  deriving DecidableEq, Repr

namespace Place

/-- The point before the first character. -/
def start : Place := ⟨0, 0, 0⟩

/-- The point after one more character. -/
def next (place : Place) (c : Char) : Place :=
  if c = '\n' then ⟨place.offset + 1, place.line + 1, 0⟩
  else ⟨place.offset + 1, place.line, place.column + 1⟩

/-- The point after several more characters. -/
def pass (place : Place) (text : List Char) : Place :=
  text.foldl next place

@[simp]
theorem pass_nil (place : Place) : place.pass [] = place := rfl

@[simp]
theorem pass_cons (place : Place) (c : Char) (text : List Char) :
    place.pass (c :: text) = (place.next c).pass text := rfl

/-- Passing two texts in turn is passing them as one. -/
theorem pass_append (place : Place) (before after : List Char) :
    place.pass (before ++ after) = (place.pass before).pass after := by
  simp [pass, List.foldl_append]

/-- The offset counts characters. -/
theorem offset_pass (place : Place) (text : List Char) :
    (place.pass text).offset = place.offset + text.length := by
  induction text generalizing place with
  | nil => rfl
  | cons c text ih =>
    rw [pass_cons, ih, List.length_cons]
    by_cases hFeed : c = '\n' <;> simp [next, hFeed] <;> omega

/-- The line counts line feeds. -/
theorem line_pass (place : Place) (text : List Char) :
    (place.pass text).line = place.line + text.count '\n' := by
  induction text generalizing place with
  | nil => rfl
  | cons c text ih =>
    rw [pass_cons, ih]
    by_cases hFeed : c = '\n'
    · simp [next, hFeed]; omega
    · simp [next, hFeed]

/-- On one line the column counts characters. -/
theorem column_pass_of_notMem (place : Place) {text : List Char} (hLine : '\n' ∉ text) :
    (place.pass text).column = place.column + text.length := by
  induction text generalizing place with
  | nil => rfl
  | cons c text ih =>
    rw [List.mem_cons, not_or] at hLine
    have hHead : c ≠ '\n' := fun hEq => hLine.1 hEq.symm
    rw [pass_cons, ih _ hLine.2, List.length_cons]
    simp [next, hHead]
    omega

/-- After a line feed the column counts from it. -/
theorem column_pass_feed (place : Place) (before : List Char) {after : List Char}
    (hLine : '\n' ∉ after) : (place.pass (before ++ '\n' :: after)).column = after.length := by
  rw [pass_append, pass_cons, column_pass_of_notMem _ hLine]
  simp [next]

end Place

end Frontend.Source
