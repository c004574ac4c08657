/-!
# Lines of a text

A text is divided at its line feeds, and at nothing else: a carriage return or a form
feed belongs to the line it stands on.  A text with `n` line feeds has `n + 1` lines,
the last possibly empty.
-/

namespace Frontend.Source

/-- Puts a character in front of the first line. -/
def consLine (c : Char) : List (List Char) → List (List Char)
  | [] => [[c]]
  | line :: lines => (c :: line) :: lines

/-- The lines of a text, without their line feeds. -/
def lines : List Char → List (List Char)
  | [] => [[]]
  | c :: cs => if c = '\n' then [] :: lines cs else consLine c (lines cs)

/-- A text always has a first line. -/
theorem lines_ne_nil (text : List Char) : lines text ≠ [] := by
  cases text with
  | nil => simp [lines]
  | cons c cs =>
    by_cases hFeed : c = '\n'
    · simp [lines, hFeed]
    · cases hLines : lines cs <;> simp [lines, hFeed, hLines, consLine]

/-- There is one line more than there are line feeds. -/
theorem length_lines (text : List Char) : (lines text).length = text.count '\n' + 1 := by
  induction text with
  | nil => rfl
  | cons c cs ih =>
    by_cases hFeed : c = '\n'
    · simp [lines, hFeed, ih]
    · cases hLines : lines cs with
      | nil => exact absurd hLines (lines_ne_nil cs)
      | cons line rest =>
        rw [hLines] at ih
        simpa [lines, hFeed, hLines, consLine] using ih

end Frontend.Source
