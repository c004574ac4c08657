import Frontend.Proofs.Diagnostic.Fit
import Frontend.Proofs.Diagnostic.Rendering

/-!
# Diagnostics are legible

Source text may hold anything, and lexemes put together by hand even more; a message
about it must still be one line that shows every character.  The reason is where text
from outside can enter a message: either it is quoted, and then it is printable whatever
it holds, or it is a digit run that was found too large (`Worded`).  Everything else is
fixed wording.  Both stages raise such problems only, the first from the reading of a
piece (`worded_of_lex`) and the second from the point at which a lexeme is refused or
the input ends (`worded_of_parse`).

So the message takes one line, the header three and the whole report seven
(`Diagnostic.Legible`).  One thing can be missing: a place that is too far out to be
written leaves the diagnostic without a header.  No place on a text in memory is that
far out, but a span made by hand can be.
-/

namespace Frontend

open Parsing (Refuses Point)
open Source (lines)
open Text (Printable)

/-! ## Wordings -/

/-- The problems that the two stages raise: text from outside is quoted, or is a run of
digits. -/
inductive Worded : Problem → Prop where
  | unrecognised (raw : String) : Worded (.unrecognisedToken raw)
  | overflow {raw : String} (hDigits : ∀ c ∈ raw.toList, c.isDigit = true) :
      Worded (.integerOverflow raw)
  | atEnd (expected : Expectation) : Worded (.unexpectedEnd expected.text)
  | unexpected (expected : Expectation) (got : Lexeme) :
      Worded (.unexpectedLexeme expected.text got.describe)
  | unknownType (name : String) : Worded (.unknownType name)
  | statement (first : Lexeme) :
      Worded (.unsupportedSyntax ("a statement starting with " ++ first.describe))
  | expression (first : Lexeme) :
      Worded (.unsupportedSyntax ("the non-literal expression " ++ first.describe))

private theorem printable_concat {left right : String} (hLeft : Printable left.toList)
    (hRight : Printable right.toList) : Printable (left ++ right).toList := by
  rw [String.toList_append]
  exact Text.printable_append hLeft hRight

/-- Printable text stays printable between two fixed wordings. -/
private theorem printable_between {before middle after : String}
    (hBefore : before.toList.all Text.isVisible = true) (hMiddle : Printable middle.toList)
    (hAfter : after.toList.all Text.isVisible = true) :
    Printable (before ++ middle ++ after).toList :=
  printable_concat (printable_concat (Text.printable_of_visible hBefore) hMiddle)
    (Text.printable_of_visible hAfter)

private theorem printable_expectation (expected : Expectation) : Printable expected.text.toList :=
  Text.printable_of_visible (by cases expected <;> decide)

private theorem printable_kind (kind : Kind) : Printable kind.name.toList :=
  Text.printable_of_visible (by cases kind <;> decide)

/-- A lexeme is named in print, whatever its text is. -/
theorem printable_describe (lexeme : Lexeme) : Printable lexeme.describe.toList := by
  unfold Lexeme.describe
  split
  · exact printable_kind lexeme.kind
  · exact printable_concat
      (printable_concat (printable_kind lexeme.kind) (Text.printable_of_visible (by decide)))
      (Text.printable_quote lexeme.text)

/-- **A message** is printable. -/
theorem Worded.printable {problem : Problem} (hWorded : Worded problem) :
    Printable problem.message.toList := by
  cases hWorded with
  | unrecognised raw =>
      exact printable_concat (Text.printable_of_visible (by decide)) (Text.printable_quote raw)
  | @overflow raw hDigits =>
      have hRaw : Printable raw.toList := fun c hMem => Text.isPrintable_of_isDigit (hDigits c hMem)
      exact printable_between (by decide) hRaw (by decide)
  | atEnd expected =>
      exact printable_concat (Text.printable_of_visible (by decide))
        (printable_expectation expected)
  | unexpected expected got =>
      have hExpected := printable_expectation expected
      exact printable_concat (printable_between (by decide) hExpected (by decide))
        (printable_describe got)
  | unknownType name => exact printable_between (by decide) (Text.printable_quote name) (by decide)
  | statement first | expression first =>
      exact printable_between (by decide) (printable_describe first) (by decide)

/-- **A message** says something. -/
theorem Worded.message_ne {problem : Problem} (hWorded : Worded problem) :
    problem.message ≠ "" := by
  have hBefore {left right : String} (hLeft : left ≠ "") : left ++ right ≠ "" :=
    fun hEmpty => hLeft (String.append_eq_empty_iff.1 hEmpty).1
  have hAfter {left right : String} (hRight : right ≠ "") : left ++ right ≠ "" :=
    fun hEmpty => hRight (String.append_eq_empty_iff.1 hEmpty).2
  cases hWorded with
  | unrecognised | atEnd => exact hBefore (by decide)
  | unexpected => exact hBefore (hBefore (hBefore (by decide)))
  | overflow | unknownType | statement | expression => exact hAfter (by decide)

/-! ## What the stages raise -/

/-- A diagnostic that one of the two stages raises, the second on any lexemes. -/
inductive Diagnostic.Raised : Diagnostic → Prop where
  | ofLex {source : String} {diagnostic : Diagnostic}
      (hLex : lex source = .error (.diagnostic diagnostic)) : Raised diagnostic
  | ofParse {lexemes : List Lexeme} {diagnostic : Diagnostic}
      (hParse : parse lexemes = .error diagnostic) : Raised diagnostic

/-- **The first stage** words its problems. -/
theorem worded_of_lex {source : String} {diagnostic : Diagnostic}
    (hLex : lex source = .error (.diagnostic diagnostic)) : Worded diagnostic.problem := by
  obtain ⟨cut, _, _, hFails⟩ := Scan.fails_of_lex hLex
  cases hFails with
  | stray => exact .unrecognised _
  | tooLarge hDigits =>
      refine .overflow ?_
      rw [String.toList_ofList]
      exact hDigits

/-- A refusal is worded by the point at which it happens, or names what is no type. -/
private theorem worded_of_refuses {α : Type} {lexeme : Lexeme} {point : Point α} {refusal : Refusal}
    (hRefuses : Refuses lexeme point refusal) : Worded refusal.problem := by
  cases hRefuses with
  | type => exact .unknownType lexeme.text
  | kind =>
      cases point with
      | between => exact .statement lexeme
      | value => exact .expression lexeme
      | _ => exact .unexpected _ lexeme

/-- **The second stage** words its problems, whatever the lexemes are. -/
theorem worded_of_parse {lexemes : List Lexeme} {diagnostic : Diagnostic}
    (hParse : parse lexemes = .error diagnostic) : Worded diagnostic.problem := by
  cases Parsing.fails_of_parse hParse with
  | @cutShort _ expected => exact .atEnd expected
  | refused _ _ hRefuses => exact worded_of_refuses hRefuses

private theorem Diagnostic.Raised.worded {diagnostic : Diagnostic} (hRaised : diagnostic.Raised) :
    Worded diagnostic.problem := by
  cases hRaised with
  | ofLex hLex => exact worded_of_lex hLex
  | ofParse hParse => exact worded_of_parse hParse

/-! ## Reports -/

namespace Diagnostic

/-- A diagnostic is legible: its message is one line of printable characters, its header
three lines where its place can be written, and its report seven, the fifth the line it
quotes and the sixth the marker, on every source on which there is a report, whatever
the machine has room for. -/
structure Legible (diagnostic : Diagnostic) : Prop where
  nonempty : diagnostic.message ≠ ""
  printable : Printable diagnostic.message.toList
  headed : diagnostic.span.Writable → ∃ header, diagnostic.header = .ok header ∧
    lines header.toList =
      [tagLine diagnostic.stage, diagnostic.message.toList, placeLine diagnostic.span, []]
  rendered : ∀ limit source rendered, diagnostic.render limit source = .ok rendered →
    ∃ line, (lines source.toList)[diagnostic.span.line]? = some line ∧
      lines rendered.toList =
        [tagLine diagnostic.stage, diagnostic.message.toList, placeLine diagnostic.span,
          frameLine, line, markerLine diagnostic.span, frameLine, []]

variable {diagnostic : Diagnostic}

private theorem legible_of_worded (hWorded : Worded diagnostic.problem) : diagnostic.Legible := by
  have hPrintable : Printable diagnostic.message.toList := hWorded.printable
  have hSingle : lines diagnostic.message.toList = [diagnostic.message.toList] :=
    Source.lines_of_notMem hPrintable.feed_notMem
  refine ⟨hWorded.message_ne, hPrintable, ?_, ?_⟩
  · intro hWritable
    have hHeader := header_eq_ok_iff.2 ⟨hWritable, rfl⟩
    refine ⟨_, hHeader, ?_⟩
    rw [lines_header hHeader, hSingle]
    rfl
  · intro limit source rendered hRender
    obtain ⟨line, hFound, hLines⟩ := lines_render hRender
    refine ⟨line, hFound, ?_⟩
    rw [hLines, hSingle]
    rfl

/-- On a source whose length can be counted, every diagnostic has a header. -/
private theorem writable_of_ofSource {source : String} (hCounted : source.length ≤ int64Max)
    (hSource : Program.ofSource source = .error (.diagnostic diagnostic)) :
    diagnostic.span.Writable := by
  cases hLex : lex source with
  | error failure =>
      rw [Program.ofSource_of_lex_error hLex] at hSource
      cases hSource
      obtain ⟨_, line, hFits, _⟩ := fitsOn_of_lex hLex
      exact hFits.writable hCounted
  | ok lexemes =>
      rw [Program.ofSource_of_lex_ok hLex] at hSource
      cases hParse : parse lexemes with
      | ok program =>
          rw [hParse] at hSource
          cases hSource
      | error found =>
          rw [hParse] at hSource
          cases hSource
          obtain ⟨_, line, hFits, _⟩ := fitsOn_of_parse hLex hParse
          exact hFits.writable hCounted

/-- **Diagnostics are legible.**  Every diagnostic that a stage raises, on any source
and on any lexemes, is legible; and its place can be written if it is raised on a source
whose length can be counted. -/
theorem raised_isLegible (hRaised : diagnostic.Raised) :
    diagnostic.Legible ∧
    ∀ source : String, source.length ≤ int64Max →
      Program.ofSource source = .error (.diagnostic diagnostic) → diagnostic.span.Writable :=
  ⟨legible_of_worded hRaised.worded,
    fun _ hCounted hSource => writable_of_ofSource hCounted hSource⟩

/-- A function whose result type is spelled with a line feed and quotation marks of both
kinds. -/
def awkwardLexemes : List Lexeme :=
  [⟨.fn, "fn", ⟨0, 0, 2⟩, .absent⟩, ⟨.identifier, "\n\x27\"", ⟨1, 0, 3⟩, .absent⟩]

def awkwardDiagnostic : Diagnostic := ⟨.unknownType "\n\x27\"", ⟨1, 0, 3⟩⟩

/-- The awkward type is reported legibly, and so is a stray character, whose place can
be written. -/
theorem awkwardDiagnostic_isLegible :
    (parse awkwardLexemes = .error awkwardDiagnostic ∧ awkwardDiagnostic.Legible) ∧
    (Program.ofSource straySource = .error (.diagnostic strayDiagnostic) ∧
      strayDiagnostic.Legible ∧ strayDiagnostic.span.Writable) := by
  have hParse : parse awkwardLexemes = .error awkwardDiagnostic := rfl
  have hSource : Program.ofSource straySource = .error (.diagnostic strayDiagnostic) := rfl
  have hLex : lex straySource = .error (.diagnostic strayDiagnostic) := rfl
  have hStray := raised_isLegible (.ofLex hLex)
  exact ⟨⟨hParse, (raised_isLegible (.ofParse hParse)).1⟩,
    hSource, hStray.1, hStray.2 straySource (by decide) hSource⟩

/-- A power of ten has more digits than its exponent says. -/
private theorem lt_length_repr_pow {k : Nat} (hPositive : 0 < k) :
    k < (Nat.pow 10 k - 1 + 1).repr.length := by
  have hNumber : Nat.pow 10 k - 1 + 1 = Nat.pow 10 k :=
    Nat.sub_add_cancel (Nat.one_le_pow _ _ (by decide))
  rw [hNumber]
  exact Nat.not_le.1 fun hShort => Nat.lt_irrefl _ ((Nat.length_repr_le_iff hPositive).1 hShort)

/-- A comma so far down that its line cannot be written. -/
def distantComma : Lexeme := ⟨.comma, ",", ⟨Nat.pow 10 digitLimit - 1, 0, 1⟩, .absent⟩

def distantDiagnostic : Diagnostic :=
  ⟨.unsupportedSyntax ("a statement starting with " ++ distantComma.describe), distantComma.span⟩

/-- A place can be too far out to be written: then there is a message, but no header. -/
theorem distantDiagnostic_unheaded :
    parse [distantComma] = .error distantDiagnostic ∧
      distantDiagnostic.header = .error .numberTooLong := by
  refine ⟨rfl, Parsing.bind_eq_error_iff.2 (Or.inl ?_)⟩
  rw [Text.decimal_eq_error_iff]
  exact ⟨@lt_length_repr_pow digitLimit (by decide), rfl⟩

end Diagnostic

end Frontend
