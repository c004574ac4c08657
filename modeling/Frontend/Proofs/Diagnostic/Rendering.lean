import Frontend.Proofs.Diagnostic.Excerpt
import Frontend.Proofs.Text.Quoted

/-!
# A rendered diagnostic determines the diagnostic

A rendered diagnostic is best read as a list of lines: the tag of the stage, the lines
of the message, the place, and four lines of excerpt.  Only the message can take more
than one line, and it may hold anything, lines that look like the rest included.  So the
lines are told apart from the end: the last five have a fixed form after the message,
and the first stands before it (`lines_render`).

From there each part is read back.  The numerals of the place end where a character that
is no digit comes.  The spaces of the marker need not be told from its carets, of which
there may be none: how many spaces there are is known from the place, and how many
characters there are in all from the line.
-/

namespace Frontend

open Source (lines)

/-- The place of a span, counted from one, is written with at most `digitLimit`
digits. -/
structure Span.Writable (span : Span) : Prop where
  line : (span.line + 1).repr.length ≤ digitLimit
  column : (span.column + 1).repr.length ≤ digitLimit

/-- A place on a source that can be counted can be written. -/
theorem Span.FitsOn.writable {span : Span} {source : String} {line : List Char}
    (hFits : span.FitsOn source.toList line) (hCounted : source.length ≤ int64Max) :
    span.Writable := by
  obtain ⟨hLine, hColumn⟩ := hFits.counted hCounted
  exact ⟨(Text.decimal_eq_ok_iff.1 (decimal_of_le hLine)).1,
    (Text.decimal_eq_ok_iff.1 (decimal_of_le hColumn)).1⟩

/-- Exactly a place that can be written has a label. -/
theorem Span.exists_label_iff {span : Span} :
    (∃ label, span.label = .ok label) ↔ span.Writable := by
  constructor
  · rintro ⟨label, hLabel⟩
    obtain ⟨line, hLine, hRest⟩ := Parsing.bind_eq_ok_iff.1 hLabel
    obtain ⟨column, hColumn, _⟩ := Parsing.bind_eq_ok_iff.1 hRest
    exact ⟨(Text.decimal_eq_ok_iff.1 hLine).1, (Text.decimal_eq_ok_iff.1 hColumn).1⟩
  · intro hWritable
    have hLine := Text.decimal_eq_ok_iff.2 ⟨hWritable.line, rfl⟩
    have hColumn := Text.decimal_eq_ok_iff.2 ⟨hWritable.column, rfl⟩
    unfold label
    rw [hLine, hColumn]
    exact ⟨_, rfl⟩

namespace Diagnostic

/-! ## The lines -/

/-- The line that tells the stage. -/
def tagLine (stage : Stage) : List Char := ("[SDW E/" ++ stage.tag ++ "]").toList

/-- The line that tells the place, counted from one. -/
def placeLine (span : Span) : List Char :=
  ("error occurred at line " ++ (span.line + 1).repr ++ ", character "
    ++ (span.column + 1).repr ++ ".").toList

/-- The line above and below an excerpt. -/
def frameLine : List Char := "[ .. ]".toList

/-- The line that marks a span. -/
def markerLine (span : Span) : List Char := spanMarker span ++ " - error occurred here!".toList

/-- The lines of a header whose message has the given lines. -/
def headerLines (stage : Stage) (message : List (List Char)) (span : Span) : List (List Char) :=
  tagLine stage :: (message ++ [placeLine span])

/-- The lines of an excerpt. -/
def excerptLines (span : Span) (line : List Char) : List (List Char) :=
  [frameLine, line, markerLine span, frameLine]

private theorem feed_notMem_tagLine (stage : Stage) : '\n' ∉ tagLine stage := by
  cases stage <;> decide

/-- A numeral holds digits only. -/
private theorem notMem_repr {c : Char} (hDigit : c.isDigit = false) (n : Nat) :
    c ∉ n.repr.toList := by
  intro hMem
  rw [Text.isDigit_of_mem_repr hMem] at hDigit
  cases hDigit

/-- The parts of the line that tells the place. -/
private theorem placeLine_eq (span : Span) : placeLine span =
    "error occurred at line ".toList ++ ((span.line + 1).repr.toList ++
      ',' :: (" character ".toList ++ ((span.column + 1).repr.toList ++ '.' :: []))) := by
  have hBetween : ", character ".toList = ',' :: " character ".toList := by decide
  have hEnd : ".".toList = ['.'] := by decide
  unfold placeLine
  simp only [String.toList_append, hBetween, hEnd, List.append_assoc, List.cons_append]

private theorem feed_notMem_placeLine (span : Span) : '\n' ∉ placeLine span := by
  rw [placeLine_eq]
  simp only [List.mem_append, List.mem_cons, not_or]
  refine ⟨?_, notMem_repr rfl _, ?_, ?_, notMem_repr rfl _, ?_⟩
  · decide
  · decide
  · decide
  · decide

private theorem feed_notMem_markerLine (span : Span) : '\n' ∉ markerLine span := by
  simp [markerLine, spanMarker, List.mem_replicate]

/-! ## The lines of a rendered diagnostic -/

section Rendered

variable {limit : Nat} {diagnostic : Diagnostic} {source header rendered : String}
  {line : List Char}

/-- The text of a header. -/
def headerText (diagnostic : Diagnostic) : String :=
  "[SDW E/" ++ diagnostic.stage.tag ++ "]\n"
    ++ diagnostic.message ++ "\n"
    ++ "error occurred at line " ++ (diagnostic.span.line + 1).repr ++ ", character "
    ++ (diagnostic.span.column + 1).repr ++ ".\n"

/-- **The header** exists exactly if the place can be written. -/
theorem header_eq_ok_iff : diagnostic.header = .ok header ↔
    diagnostic.span.Writable ∧ diagnostic.headerText = header := by
  unfold Diagnostic.header
  rw [Parsing.bind_eq_ok_iff]
  constructor
  · rintro ⟨first, hFirst, hRest⟩
    obtain ⟨second, hSecond, hText⟩ := Parsing.bind_eq_ok_iff.1 hRest
    obtain ⟨hLine, rfl⟩ := Text.decimal_eq_ok_iff.1 hFirst
    obtain ⟨hColumn, rfl⟩ := Text.decimal_eq_ok_iff.1 hSecond
    exact ⟨⟨hLine, hColumn⟩, Except.ok.inj hText⟩
  · rintro ⟨hWritable, rfl⟩
    refine ⟨_, Text.decimal_eq_ok_iff.2 ⟨hWritable.line, rfl⟩, ?_⟩
    refine Parsing.bind_eq_ok_iff.2 ⟨_, Text.decimal_eq_ok_iff.2 ⟨hWritable.column, rfl⟩, ?_⟩
    rfl

private theorem toList_feed : "\n".toList = ['\n'] := by decide

/-- A header ends in a line feed, and before it are three lines or more. -/
private theorem headerText_eq (diagnostic : Diagnostic) : ∃ text,
    diagnostic.headerText.toList = text ++ ['\n'] ∧
      lines text =
        headerLines diagnostic.stage (lines diagnostic.message.toList) diagnostic.span := by
  refine ⟨tagLine diagnostic.stage ++
    '\n' :: (diagnostic.message.toList ++ '\n' :: placeLine diagnostic.span), ?_, ?_⟩
  · have hTagEnd : "]\n".toList = "]".toList ++ ['\n'] := by decide
    have hPlaceEnd : ".\n".toList = ".".toList ++ ['\n'] := by decide
    unfold headerText tagLine placeLine
    simp only [String.toList_append, hTagEnd, hPlaceEnd, toList_feed, List.append_assoc,
      List.cons_append, List.nil_append]
  · rw [Source.lines_append_feed, Source.lines_append_feed,
      Source.lines_of_notMem (feed_notMem_tagLine _),
      Source.lines_of_notMem (feed_notMem_placeLine _)]
    rfl

private theorem excerpt_eq_ok {excerpt : String}
    (hExcerpt : diagnostic.excerpt limit source = .ok excerpt) :
    ∃ line, (lines source.toList)[diagnostic.span.line]? = some line ∧
      frame line (spanMarker diagnostic.span) = excerpt := by
  cases hFound : (lines source.toList)[diagnostic.span.line]? with
  | none =>
      unfold Diagnostic.excerpt at hExcerpt
      simp only [hFound] at hExcerpt
      cases hExcerpt
  | some line =>
      rw [excerpt_eq hFound] at hExcerpt
      cases hMarker : marker (room limit source) diagnostic.span with
      | error fault =>
          rw [hMarker] at hExcerpt
          cases hExcerpt
      | ok marked =>
          rw [hMarker] at hExcerpt
          obtain ⟨-, rfl⟩ := marker_eq_ok_iff.1 hMarker
          exact ⟨line, rfl, Except.ok.inj hExcerpt⟩

/-- An excerpt is its four lines, each with its line feed. -/
private theorem lines_frame {text : List Char} (hLine : line ∈ lines text) (span : Span) :
    lines (frame line (spanMarker span)).toList = excerptLines span line ++ [[]] := by
  have hFrame : '\n' ∉ frameLine := by decide
  have hText : (frame line (spanMarker span)).toList =
      frameLine ++
        '\n' :: (line ++ '\n' :: (markerLine span ++ '\n' :: (frameLine ++ ['\n']))) := by
    have hFrameEnd : "[ .. ]\n".toList = frameLine ++ ['\n'] := by decide
    have hMarkerEnd : " - error occurred here!\n".toList =
        " - error occurred here!".toList ++ ['\n'] := by decide
    unfold frame markerLine
    simp only [String.toList_append, String.toList_ofList, hFrameEnd, hMarkerEnd, toList_feed,
      List.append_assoc, List.cons_append, List.nil_append]
  rw [hText, Source.lines_append_feed, Source.lines_append_feed, Source.lines_append_feed,
    Source.lines_append_feed, Source.lines_of_notMem hFrame,
    Source.lines_of_notMem (Source.feed_notMem_of_mem_lines hLine),
    Source.lines_of_notMem (feed_notMem_markerLine span)]
  rfl

/-- **A header** is its lines, each with its line feed. -/
theorem lines_header (hHeader : diagnostic.header = .ok header) :
    lines header.toList =
      headerLines diagnostic.stage (lines diagnostic.message.toList) diagnostic.span ++ [[]] := by
  obtain ⟨-, rfl⟩ := header_eq_ok_iff.1 hHeader
  obtain ⟨text, hText, hLines⟩ := headerText_eq diagnostic
  rw [hText, Source.lines_append_feed, hLines]
  rfl

/-- **A rendered diagnostic** is the lines of its header and of its excerpt, each with
its line feed. -/
theorem lines_render (hRender : diagnostic.render limit source = .ok rendered) :
    ∃ line, (lines source.toList)[diagnostic.span.line]? = some line ∧
      lines rendered.toList =
        headerLines diagnostic.stage (lines diagnostic.message.toList) diagnostic.span ++
          excerptLines diagnostic.span line ++ [[]] := by
  obtain ⟨header, hHeader, hRest⟩ := Parsing.bind_eq_ok_iff.1 hRender
  obtain ⟨excerpt, hExcerpt, hText⟩ := Parsing.bind_eq_ok_iff.1 hRest
  obtain ⟨-, rfl⟩ := header_eq_ok_iff.1 hHeader
  obtain ⟨line, hFound, rfl⟩ := excerpt_eq_ok hExcerpt
  obtain ⟨text, hHead, hLines⟩ := headerText_eq diagnostic
  refine ⟨line, hFound, ?_⟩
  rw [← Except.ok.inj hText, String.toList_append, hHead, List.append_assoc, List.singleton_append,
    Source.lines_append_feed, hLines, lines_frame (List.mem_of_getElem? hFound), List.append_assoc]

end Rendered

/-! ## Reading the lines back -/

private theorem tagLine_injective {stage stage' : Stage} (hTag : tagLine stage = tagLine stage') :
    stage = stage' := by
  revert hTag
  cases stage <;> cases stage' <;> decide

/-- A numeral determines its number. -/
private theorem eq_of_numeral {m n : Nat} (hDigits : m.repr.toList = n.repr.toList) : m = n := by
  rw [Nat.toList_repr, Nat.toList_repr] at hDigits
  rw [← @Nat.ofDigitChars_ten_toDigits m, hDigits, Nat.ofDigitChars_ten_toDigits]

/-- The numerals of a place end at the comma and at the full stop. -/
private theorem placeLine_injective {span span' : Span}
    (hPlace : placeLine span = placeLine span') :
    span.line = span'.line ∧ span.column = span'.column := by
  rw [placeLine_eq, placeLine_eq] at hPlace
  -- The comma comes only once, so it cuts both lines at the same place; then the full
  -- stop does.
  have hNumerals := List.append_cancel_left hPlace
  have hRest : ',' ∉ " character ".toList ++ ((span.column + 1).repr.toList ++ '.' :: []) := by
    simp only [List.mem_append, List.mem_cons, not_or]
    refine ⟨?_, notMem_repr rfl _, ?_⟩
    · decide
    · decide
  obtain ⟨hLine, -, hAfter⟩ :=
    (List.append_cons_inj_of_notMem (notMem_repr rfl _) hRest).1 hNumerals
  obtain ⟨hColumn, -, -⟩ := (List.append_cons_inj_of_notMem (notMem_repr rfl _)
    List.not_mem_nil).1 (List.append_cancel_left hAfter)
  exact ⟨Nat.succ.inj (eq_of_numeral hLine), Nat.succ.inj (eq_of_numeral hColumn)⟩

/-- Where the column is known, the marker tells the length. -/
private theorem length_eq_of_markerLine {span span' : Span} (hColumn : span.column = span'.column)
    (hMarker : markerLine span = markerLine span') : span.length = span'.length := by
  have hWidth := congrArg List.length hMarker
  simp only [markerLine, spanMarker, List.length_append, List.length_replicate] at hWidth
  omega

/-- **The lines determine what they are made of.**  They are split from the end, where
their number is known whatever the message is. -/
theorem parts_eq_of_lines {stage stage' : Stage} {message message' : List (List Char)}
    {span span' : Span} {line line' : List Char}
    (hLines : headerLines stage message span ++ excerptLines span line ++ [[]] =
      headerLines stage' message' span' ++ excerptLines span' line' ++ [[]]) :
    stage = stage' ∧ message = message' ∧ span = span' ∧ line = line' := by
  simp only [headerLines, List.cons_append, List.append_assoc, List.nil_append] at hLines
  obtain ⟨hTag, hBelow⟩ := List.cons.inj hLines
  obtain ⟨hMessage, hEnd⟩ := List.append_inj' hBelow (by simp [excerptLines])
  simp only [excerptLines, List.cons.injEq, List.cons_append] at hEnd
  obtain ⟨hPlace, -, hLine, hMarker, -⟩ := hEnd
  obtain ⟨hRow, hColumn⟩ := placeLine_injective hPlace
  have hLength := length_eq_of_markerLine hColumn hMarker
  have hSpan : span = span' := by
    cases span
    cases span'
    simp_all
  exact ⟨tagLine_injective hTag, hMessage, hSpan, hLine⟩

/-- **A rendered diagnostic determines the diagnostic**, up to the cause of a message:
two diagnostics are rendered alike, each on a source and a machine of its own, exactly
if they agree in the stage, the message and the span, and the lines that they quote are
the same. -/
theorem render_eq_iff {limit limit' : Nat} {diagnostic diagnostic' : Diagnostic}
    {source source' rendered rendered' : String}
    (hRender : diagnostic.render limit source = .ok rendered)
    (hRender' : diagnostic'.render limit' source' = .ok rendered') :
    rendered = rendered' ↔
      diagnostic.stage = diagnostic'.stage ∧ diagnostic.message = diagnostic'.message ∧
      diagnostic.span = diagnostic'.span ∧
      ∃ line, (lines source.toList)[diagnostic.span.line]? = some line ∧
        (lines source'.toList)[diagnostic'.span.line]? = some line := by
  obtain ⟨line, hFound, hLines⟩ := lines_render hRender
  obtain ⟨line', hFound', hLines'⟩ := lines_render hRender'
  constructor
  · intro hSame
    rw [hSame, hLines'] at hLines
    obtain ⟨hStage, hMessage, hSpan, hLine⟩ := parts_eq_of_lines hLines
    exact ⟨hStage.symm, String.toList_inj.1 (Source.lines_injective hMessage.symm), hSpan.symm,
      line, hFound, hLine ▸ hFound'⟩
  · rintro ⟨hStage, hMessage, hSpan, common, hCommon, hCommon'⟩
    have hLine : line = line' := by
      rw [← Option.some_inj, ← hFound, ← hFound', hCommon, hCommon']
    apply String.toList_inj.1
    apply Source.lines_injective
    rw [hLines, hLines', hStage, hMessage, hSpan, hLine]

/-- A diagnostic of the first stage, and one of another cause that words the same
message itself. -/
def strayToken : Diagnostic := ⟨.unrecognisedToken "@", ⟨1, 2, 1⟩⟩

def forgedToken : Diagnostic :=
  ⟨.custom .lexical "an unrecognised token was encountered: '@'", ⟨1, 2, 1⟩⟩

/-- How both are rendered on a second line that reads ` 1@`. -/
def tokenRendered : String :=
  "[SDW E/L]\nan unrecognised token was encountered: '@'\n" ++
    "error occurred at line 2, character 3.\n" ++
    "[ .. ]\n 1@\n  ^ - error occurred here!\n[ .. ]\n"

/-- The forged diagnostic is not told from the other, nor the one source from the
other. -/
theorem forgedToken_rendered_alike :
    strayToken.render 0 "return\n 1@" = .ok tokenRendered ∧
    forgedToken.render int64Max "fn\n 1@\n\n" = .ok tokenRendered ∧
    strayToken ≠ forgedToken ∧
    strayToken.message = forgedToken.message ∧
    ∃ line, (lines "return\n 1@".toList)[strayToken.span.line]? = some line ∧
      (lines "fn\n 1@\n\n".toList)[forgedToken.span.line]? = some line := by
  have hStray : strayToken.render 0 "return\n 1@" = .ok tokenRendered := by decide +kernel
  have hForged : forgedToken.render int64Max "fn\n 1@\n\n" = .ok tokenRendered := by decide
  obtain ⟨_, hMessage, _, hLine⟩ := (render_eq_iff hStray hForged).1 rfl
  exact ⟨hStray, hForged, by decide, hMessage, hLine⟩

end Diagnostic

end Frontend
