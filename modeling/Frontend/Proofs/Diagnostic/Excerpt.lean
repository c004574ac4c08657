import Frontend.Diagnostic.Render
import Frontend.Proofs.Lexeme.Cuts
import Frontend.Proofs.Program.Moves

/-!
# Excerpts

A diagnostic quotes the line that its span names and marks the span below it.
`Span.FitsOn` says that this makes sense: the line exists, and the span lies within it
or marks one character that may be the one just past its end.

Spans fit where they come from.  The span of a piece fits on the line that the piece is
cut from and marks that piece, or the end of the line if the piece is the line feed
(`fitsOn_of_isCut`, `fitsOn_feed`); the end of any part of the text fits on the line on
which it falls (`fitsOn_place`).  And a diagnostic whose span fits is rendered
(`render_ne_lineMissing`, `exists_render`).
-/

namespace Frontend

open Source (Place lines lastLine firstLine)
open Scan (Cut IsCut spanAt)

/-- What a span marks on a line. -/
def Span.marked (span : Span) (line : List Char) : List Char :=
  (line.drop span.column).take span.length

/-- A span fits on a line of a text. -/
structure Span.FitsOn (span : Span) (text line : List Char) : Prop where
  found : (lines text)[span.line]? = some line
  column_le : span.column ≤ line.length
  length_le : span.length = 1 ∨ span.column + span.length ≤ line.length

/-! ## Spans of places and pieces -/

/-- The end of a part of a text, as a span of one character. -/
def endOf (before : List Char) : Span :=
  ⟨(Place.start.pass before).line, (Place.start.pass before).column, 1⟩

/-- **The end of a part of a text** fits on the line on which it falls. -/
theorem fitsOn_place (before after : List Char) :
    (endOf before).FitsOn (before ++ after) (lastLine before ++ firstLine after) := by
  refine ⟨Source.lines_getElem?_line before after, ?_, Or.inl rfl⟩
  show (Place.start.pass before).column ≤ (lastLine before ++ firstLine after).length
  rw [Source.column_start_pass, List.length_append]
  omega

section Pieces

variable {text after : List Char} {cut : Cut}

/-- **A piece** fits on the line it is cut from, and is what its span marks there. -/
theorem fitsOn_of_isCut (hCut : IsCut text cut after) (hFeed : cut.piece ≠ ['\n']) :
    ∃ line, (spanAt cut.place cut.piece).FitsOn text line ∧
      (spanAt cut.place cut.piece).marked line = cut.piece := by
  have hLine := Source.lines_getElem?_line cut.before (cut.piece ++ after)
  rw [← hCut.parts, Source.firstLine_append (hCut.piece.feed_notMem hFeed)] at hLine
  have hColumn : cut.place.column = (lastLine cut.before).length :=
    Source.column_start_pass cut.before
  refine ⟨_, ⟨hLine, ?_, Or.inr ?_⟩, ?_⟩
  · show cut.place.column ≤ _
    rw [hColumn, List.length_append]
    omega
  · show cut.place.column + cut.piece.length ≤ _
    rw [hColumn, List.length_append, List.length_append]
    omega
  · show (List.drop cut.place.column _).take cut.piece.length = cut.piece
    rw [hColumn, List.drop_left, List.take_left]

/-- **A line feed** is marked just past the end of its line. -/
theorem fitsOn_feed (hCut : IsCut text cut after) (hFeed : cut.piece = ['\n']) :
    ∃ line, (spanAt cut.place cut.piece).FitsOn text line ∧ cut.place.column = line.length := by
  have hFits := fitsOn_place cut.before ('\n' :: after)
  have hSpan : spanAt cut.place cut.piece = endOf cut.before := by
    rw [hFeed]
    rfl
  have hText : cut.before ++ '\n' :: after = text := by
    rw [hCut.parts, hFeed, List.singleton_append]
  rw [hText, Source.firstLine_feed, List.append_nil] at hFits
  rw [hSpan]
  exact ⟨_, hFits, Source.column_start_pass cut.before⟩

end Pieces

/-! ## Rendering -/

private theorem length_le_of_mem_lines {text line : List Char} (hMem : line ∈ lines text) :
    line.length ≤ text.length := by
  induction text generalizing line with
  | nil =>
      rw [lines, List.mem_singleton] at hMem
      rw [hMem]
  | cons c text ih =>
      rw [List.length_cons]
      rw [lines] at hMem
      by_cases hFeed : c = '\n'
      · rw [if_pos hFeed] at hMem
        rcases List.mem_cons.1 hMem with rfl | hMem
        · exact Nat.zero_le _
        · have hShorter := ih hMem
          omega
      · rw [if_neg hFeed] at hMem
        cases hLines : lines text with
        | nil => exact absurd hLines (Source.lines_ne_nil text)
        | cons first rest =>
            rw [hLines, Source.consLine] at hMem
            rcases List.mem_cons.1 hMem with rfl | hMem
            · have hShorter := ih (hLines ▸ List.mem_cons_self)
              rw [List.length_cons]
              omega
            · have hShorter := ih (hLines ▸ List.mem_cons_of_mem first hMem)
              omega

/-- A number that can be counted has a text. -/
theorem decimal_of_le {n : Nat} (hCounted : n ≤ int64Max + 1) : Text.decimal n = .ok n.repr := by
  rw [Text.decimal_eq_ok_iff]
  refine ⟨?_, rfl⟩
  have hShort : n.repr.length ≤ 20 := by
    rw [Nat.length_repr_le_iff (by omega)]
    exact Nat.lt_of_le_of_lt hCounted (by decide)
  exact Nat.le_trans hShort (by decide)

/-- The place of a span that fits on a source can be counted from one if the source can
be counted. -/
theorem Span.FitsOn.counted {span : Span} {source : String} {line : List Char}
    (hFits : span.FitsOn source.toList line) (hCounted : source.length ≤ int64Max) :
    span.line + 1 ≤ int64Max + 1 ∧ span.column + 1 ≤ int64Max + 1 := by
  constructor
  · obtain ⟨hIndex, _⟩ := List.getElem?_eq_some_iff.1 hFits.found
    have hFeeds : source.toList.count '\n' ≤ source.toList.length := List.count_le_length
    rw [Source.length_lines] at hIndex
    rw [String.length_toList] at hFeeds
    omega
  · have hOnLine := hFits.column_le
    have hShort := length_le_of_mem_lines (List.mem_of_getElem? hFits.found)
    rw [String.length_toList] at hShort
    omega

namespace Diagnostic

variable {limit : Nat} {diagnostic : Diagnostic} {source : String} {line : List Char}

private theorem header_eq_error {fault : Fault} (hHeader : diagnostic.header = .error fault) :
    fault = .numberTooLong := by
  rcases Parsing.bind_eq_error_iff.1 hHeader with hLine | ⟨_, _, hRest⟩
  · exact (Text.decimal_eq_error_iff.1 hLine).2
  rcases Parsing.bind_eq_error_iff.1 hRest with hColumn | ⟨_, _, hText⟩
  · exact (Text.decimal_eq_error_iff.1 hColumn).2
  · cases hText

theorem excerpt_eq (hFound : (lines source.toList)[diagnostic.span.line]? = some line) :
    diagnostic.excerpt limit source =
      (marker (room limit source) diagnostic.span).map (frame line) := by
  unfold excerpt
  simp only [hFound]

/-- What the marker under a line is made of. -/
def spanMarker (span : Span) : List Char :=
  List.replicate span.column ' ' ++ List.replicate span.length '^'

theorem marker_eq_ok_iff {space : Nat} {span : Span} {marked : List Char} :
    marker space span = .ok marked ↔
      (span.column ≤ space ∧ span.length ≤ space) ∧ spanMarker span = marked := by
  unfold marker
  rw [Parsing.bind_eq_ok_iff]
  constructor
  · rintro ⟨indent, hIndent, hRest⟩
    obtain ⟨carets, hCarets, hMarked⟩ := Parsing.bind_eq_ok_iff.1 hRest
    obtain ⟨hColumn, rfl⟩ := Text.fill_eq_ok_iff.1 hIndent
    obtain ⟨hLength, rfl⟩ := Text.fill_eq_ok_iff.1 hCarets
    exact ⟨⟨hColumn, hLength⟩, Except.ok.inj hMarked⟩
  · rintro ⟨⟨hColumn, hLength⟩, rfl⟩
    refine ⟨_, Text.fill_eq_ok_iff.2 ⟨hColumn, rfl⟩, ?_⟩
    exact Parsing.bind_eq_ok_iff.2 ⟨_, Text.fill_eq_ok_iff.2 ⟨hLength, rfl⟩, rfl⟩

/-- There is room for the marker of a span that fits. -/
theorem marker_eq (hFits : diagnostic.span.FitsOn source.toList line) :
    marker (room limit source) diagnostic.span = .ok (spanMarker diagnostic.span) := by
  have hShort := length_le_of_mem_lines (List.mem_of_getElem? hFits.found)
  rw [String.length_toList] at hShort
  have hRoom : source.length + 1 ≤ room limit source := Nat.le_max_right _ _
  refine marker_eq_ok_iff.2 ⟨⟨?_, ?_⟩, rfl⟩
  · have hOnLine := hFits.column_le
    omega
  · rcases hFits.length_le with hSingle | hWithin
    · omega
    · omega

/-- **A line is never missing** where the span fits. -/
theorem render_ne_lineMissing (hFits : diagnostic.span.FitsOn source.toList line)
    (missing available : Nat) :
    diagnostic.render limit source ≠ .error (.lineMissing missing available) := by
  intro hRender
  rcases Parsing.bind_eq_error_iff.1 hRender with hHeader | ⟨_, _, hRest⟩
  · cases header_eq_error hHeader
  · rw [excerpt_eq hFits.found, marker_eq hFits] at hRest
    cases hRest

/-- **A diagnostic is rendered** where the span fits and the source can be counted. -/
theorem exists_render (hFits : diagnostic.span.FitsOn source.toList line)
    (hCounted : source.length ≤ int64Max) :
    ∃ rendered, diagnostic.render limit source = .ok rendered := by
  obtain ⟨hLine, hColumn⟩ := hFits.counted hCounted
  unfold render header
  rw [decimal_of_le hLine, decimal_of_le hColumn, excerpt_eq hFits.found, marker_eq hFits]
  exact ⟨_, rfl⟩

end Diagnostic

end Frontend
