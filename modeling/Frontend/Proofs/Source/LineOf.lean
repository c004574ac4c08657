import Frontend.Source.Lines
import Frontend.Source.Place
import Mathlib.Data.List.DropRight

/-!
# The line of a place

A place is moved on character by character, and a text is divided into lines as a whole.
The two agree: the line number of a place is the index of the line on which it falls,
and its column is how much of that line comes before it.

A text that is cut in two is cut on a line, which consists of the last line of the first
part and the first line of the second (`lines_getElem?_line`).  Everything that is said
about where a lexeme or a diagnostic stands on its line follows from this.

Nothing is lost in the division: the lines make up the text again, so a text is known by
them (`intercalate_lines`, `lines_injective`).
-/

namespace Frontend.Source

/-- Whether the line goes on after a character. -/
def staysOnLine (c : Char) : Bool := c ≠ '\n'

/-- The characters before the first line feed. -/
def firstLine (text : List Char) : List Char := text.takeWhile staysOnLine

/-- The characters after the last line feed. -/
def lastLine (text : List Char) : List Char := text.rtakeWhile staysOnLine

/-! ## Parts of lines -/

@[simp]
theorem firstLine_feed (text : List Char) : firstLine ('\n' :: text) = [] := rfl

/-- What holds no line feed is on the line before what follows it. -/
theorem firstLine_append {text : List Char} (hLine : '\n' ∉ text) (after : List Char) :
    firstLine (text ++ after) = text ++ firstLine after := by
  have hStays : ∀ c ∈ text, staysOnLine c = true := by
    intro c hMem
    rw [staysOnLine, decide_eq_true_eq]
    rintro rfl
    exact hLine hMem
  exact List.takeWhile_append_of_pos hStays

@[simp]
theorem lastLine_snoc_feed (text : List Char) : lastLine (text ++ ['\n']) = [] :=
  List.rtakeWhile_concat_neg _ _ _ (by decide)

private theorem lastLine_snoc {c : Char} (hStays : c ≠ '\n') (text : List Char) :
    lastLine (text ++ [c]) = lastLine text ++ [c] :=
  List.rtakeWhile_concat_pos _ _ _ (decide_eq_true hStays)

theorem feed_notMem_lastLine (text : List Char) : '\n' ∉ lastLine text := by
  intro hMem
  have hStays := List.mem_rtakeWhile_imp hMem
  exact absurd hStays (by decide)

/-- What comes before the last line is nothing or ends in a line feed. -/
theorem eq_append_lastLine (text : List Char) :
    ∃ earlier, text = earlier ++ lastLine text ∧
      (earlier = [] ∨ ∃ lines, earlier = lines ++ ['\n']) := by
  refine ⟨text.rdropWhile staysOnLine, List.rdropWhile_append_rtakeWhile.symm, ?_⟩
  rcases List.eq_nil_or_concat (text.rdropWhile staysOnLine) with hNil | ⟨lines, c, hSnoc⟩
  · exact Or.inl hNil
  · right
    have hLast := List.rdropWhile_last_not staysOnLine text (by rw [hSnoc]; simp)
    simp only [hSnoc, List.concat_eq_append, List.getLast_append_singleton, staysOnLine,
      decide_eq_true_eq, ne_eq, not_not] at hLast
    exact ⟨lines, by rw [hSnoc, hLast, List.concat_eq_append]⟩

/-! ## A text and its lines -/

/-- What holds no line feed is one line. -/
theorem lines_of_notMem {text : List Char} (hLine : '\n' ∉ text) : lines text = [text] := by
  induction text with
  | nil => rfl
  | cons c text ih =>
      rw [List.mem_cons, not_or] at hLine
      rw [lines, if_neg (Ne.symm hLine.1), ih hLine.2]
      rfl

/-- Lines hold no line feed. -/
theorem feed_notMem_of_mem_lines {text line : List Char} (hMem : line ∈ lines text) :
    '\n' ∉ line := by
  induction text generalizing line with
  | nil =>
      rw [List.mem_singleton.1 hMem]
      exact List.not_mem_nil
  | cons c text ih =>
      rw [lines] at hMem
      by_cases hFeed : c = '\n'
      · rw [if_pos hFeed] at hMem
        rcases List.mem_cons.1 hMem with rfl | hMem
        · exact List.not_mem_nil
        · exact ih hMem
      · rw [if_neg hFeed] at hMem
        cases hLines : lines text with
        | nil => exact absurd hLines (lines_ne_nil text)
        | cons first rest =>
            rw [hLines] at ih
            rw [hLines, consLine] at hMem
            rcases List.mem_cons.1 hMem with rfl | hMem
            · exact List.not_mem_cons_of_ne_of_not_mem (Ne.symm hFeed) (ih List.mem_cons_self)
            · exact ih (List.mem_cons_of_mem first hMem)

/-- **The lines of a text** make up the text again. -/
theorem intercalate_lines (text : List Char) : ['\n'].intercalate (lines text) = text := by
  induction text with
  | nil => rfl
  | cons c text ih =>
      cases hLines : lines text with
      | nil => exact absurd hLines (lines_ne_nil text)
      | cons line rest =>
          rw [hLines] at ih
          rw [lines, hLines]
          by_cases hFeed : c = '\n'
          · rw [if_pos hFeed, List.intercalate_cons_cons, ih, hFeed]
            rfl
          · rw [if_neg hFeed, consLine]
            cases rest with
            | nil =>
                rw [List.intercalate_singleton] at ih ⊢
                rw [ih]
            | cons next rest =>
                rw [List.intercalate_cons_cons] at ih ⊢
                rw [← ih]
                rfl

/-- Texts with the same lines are the same. -/
theorem lines_injective {text text' : List Char} (hLines : lines text = lines text') :
    text = text' := by
  rw [← intercalate_lines text, hLines, intercalate_lines]

/-! ## Lines of a text that is cut in two -/

/-- At a line feed the lines of the two parts stand side by side. -/
theorem lines_append_feed (before after : List Char) :
    lines (before ++ '\n' :: after) = lines before ++ lines after := by
  induction before with
  | nil => rfl
  | cons c before ih =>
      rw [List.cons_append, lines, lines, ih]
      by_cases hFeed : c = '\n'
      · simp only [hFeed, if_true, List.cons_append]
      · simp only [hFeed, if_false]
        cases hLines : lines before with
        | nil => exact absurd hLines (lines_ne_nil before)
        | cons line rest => rfl

private theorem lines_getElem?_zero (text : List Char) :
    (lines text)[0]? = some (firstLine text) := by
  induction text with
  | nil => rfl
  | cons c text ih =>
      by_cases hFeed : c = '\n'
      · rw [lines, if_pos hFeed, hFeed]
        rfl
      · rw [lines, if_neg hFeed]
        have hStays : staysOnLine c = true := decide_eq_true hFeed
        cases hLines : lines text with
        | nil => exact absurd hLines (lines_ne_nil text)
        | cons line rest =>
            rw [hLines] at ih
            have hLine : line = firstLine text := by simpa using ih
            simp [consLine, firstLine, hStays, hLine]

/-- The line on which a text is cut. -/
private theorem lines_getElem?_count (before after : List Char) :
    (lines (before ++ after))[before.count '\n']? = some (lastLine before ++ firstLine after) := by
  -- From the end of the first part: a line feed there changes its last line and no
  -- other.
  induction before using List.reverseRecOn generalizing after with
  | nil => exact lines_getElem?_zero after
  | append_singleton before c ih =>
      rw [List.append_assoc, List.singleton_append]
      by_cases hFeed : c = '\n'
      · subst hFeed
        have hCount : (before ++ ['\n']).count '\n' = (lines before).length := by
          rw [length_lines, List.count_append, List.count_singleton_self]
        rw [hCount, lines_append_feed, List.getElem?_append_right (Nat.le_refl _), Nat.sub_self,
          lines_getElem?_zero, lastLine_snoc_feed, List.nil_append]
      · have hCount : (before ++ [c]).count '\n' = before.count '\n' := by
          simp [List.count_append, hFeed]
        have hFirst : firstLine (c :: after) = c :: firstLine after := by
          simp [firstLine, staysOnLine, hFeed]
        rw [hCount, ih, hFirst, lastLine_snoc hFeed, List.append_assoc, List.singleton_append]

/-! ## Places -/

/-- The line number of a place counts the line feeds before it. -/
theorem line_start_pass (before : List Char) :
    (Place.start.pass before).line = before.count '\n' := by
  rw [Place.line_pass]
  exact Nat.zero_add _

/-- The column of a place counts the characters before it on its line. -/
theorem column_start_pass (before : List Char) :
    (Place.start.pass before).column = (lastLine before).length := by
  obtain ⟨earlier, hText, hEarlier⟩ := eq_append_lastLine before
  have hLine := feed_notMem_lastLine before
  generalize lastLine before = last at hText hLine ⊢
  subst hText
  rcases hEarlier with rfl | ⟨lines, rfl⟩
  · rw [List.nil_append, Place.column_pass_of_notMem _ hLine]
    exact Nat.zero_add _
  · rw [List.append_assoc, List.singleton_append, Place.column_pass_feed _ _ hLine]

/-- **The line of a place.**  The line number of a place is the index of the line on
which the text is cut there. -/
theorem lines_getElem?_line (before after : List Char) :
    (lines (before ++ after))[(Place.start.pass before).line]? =
      some (lastLine before ++ firstLine after) := by
  rw [line_start_pass, lines_getElem?_count]

end Frontend.Source
