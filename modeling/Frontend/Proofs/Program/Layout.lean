import Frontend.Proofs.Lexeme.Blanks
import Frontend.Proofs.Program.Marks
import Frontend.Proofs.Program.RoundTrip

/-!
# Layout

White space that separates nothing can be put into a source or taken out of it, and the
outcome is the same apart from where things stand (`layout_free`).  `IsPadding` says
which white space that is: blanks on a line, unless they divide a word or a numeral, and
any blanks next to a line feed or at the very beginning.

For the lexemes this is what `Scan.contents` says of blanks.  For the program it follows
because the parsing machine never looks at a span: lexemes of the same content are read
side by side, with pairs of spans for marks, to the same end.
-/

namespace Frontend

/-- White space that makes no difference between two texts. -/
inductive IsPadding (before inserted after : String) : Prop where
  /-- Blanks on a line that stand neither between two letters nor between two digits. -/
  | inLine (hBlanks : ∀ c ∈ inserted.toList, c ∈ Kind.blanks ∧ c ≠ '\n')
      (hApart : ∀ c ∈ before.toList.getLast?, ∀ d ∈ after.toList.head?,
        ¬(c.isAlpha ∧ d.isAlpha) ∧ ¬(c.isDigit ∧ d.isDigit))
  /-- Any blanks at the beginning of the source, after a line feed or before one. -/
  | atLineEnd (hBlanks : ∀ c ∈ inserted.toList, c ∈ Kind.blanks)
      (hLine : before = "" ∨ before.toList.getLast? = some '\n' ∨
        after.toList.head? = some '\n')

/-! ## Lexemes -/

namespace IsPadding

variable {before inserted after : String}

theorem blanks (hPadding : IsPadding before inserted after) :
    ∀ c ∈ inserted.toList, c ∈ Kind.blanks := by
  cases hPadding with
  | inLine hBlanks _ => exact fun c hMem => (hBlanks c hMem).1
  | atLineEnd hBlanks _ => exact hBlanks

theorem apart (hPadding : IsPadding before inserted after) :
    ∀ c ∈ before.toList.getLast?, ∀ d ∈ after.toList.head?, joins c d = false := by
  have hFeed : Scan.IsMark '\n' := ⟨rfl, rfl⟩
  intro c hLast d hFirst
  cases hPadding with
  | inLine _ hApart =>
      have hClasses := hApart c hLast d hFirst
      simpa [joins] using hClasses
  | atLineEnd _ hLine =>
      rcases hLine with rfl | hBefore | hAfter
      · cases hLast
      · rw [hBefore] at hLast
        cases hLast
        exact Scan.joins_mark_left hFeed d
      · rw [hAfter] at hFirst
        cases hFirst
        exact Scan.joins_mark_right hFeed c

/-- The pieces on both sides of padding are read alike with it and without it. -/
private theorem contents_eq (hPadding : IsPadding before inserted after) :
    Scan.contents true (pieces before.toList ++
        (inserted.toList.map ([·]) ++ pieces after.toList)) =
      Scan.contents true (pieces before.toList ++ pieces after.toList) := by
  have hBlanks := hPadding.blanks
  cases hPadding with
  | inLine hSpaces _ =>
      exact Scan.contents_append_congr (fun idle => Scan.contents_spaces hSpaces idle _) true _
  | atLineEnd _ hLine =>
      rcases hLine with rfl | hBefore | hAfter
      · exact Scan.contents_blanks_idle hBlanks _
      · -- The line feed before the padding leaves the scan idle.
        obtain ⟨earlier, hEarlier⟩ := List.getLast?_eq_some_iff.1 hBefore
        have hPieces : pieces before.toList = pieces earlier ++ [['\n']] := by
          rw [hEarlier]
          exact List.splitBy_append_cons [] fun c _ => Scan.joins_mark_right ⟨rfl, rfl⟩ c
        rw [hPieces, List.append_assoc, List.append_assoc]
        refine Scan.contents_append_congr (fun idle => ?_) true _
        exact Scan.contents_feed_congr (Scan.contents_blanks_idle hBlanks _) idle
      · obtain ⟨later, hLater⟩ := List.head?_eq_some_iff.1 hAfter
        rw [hLater, Scan.pieces_mark ⟨rfl, rfl⟩]
        refine Scan.contents_append_congr (fun idle => ?_) true _
        exact Scan.contents_blanks_feed hBlanks idle _

/-- Padding makes no difference to the lexemes of a source. -/
private theorem lex_eq (hPadding : IsPadding before inserted after) :
    upToSpans (List.map Lexeme.content) (lex (before ++ inserted ++ after)) =
      upToSpans (List.map Lexeme.content) (lex (before ++ after)) := by
  have hWithout := Scan.pieces_append_blanks (List.forall_mem_nil _) hPadding.apart
  rw [List.append_nil] at hWithout
  rw [Scan.upToSpans_lex, Scan.upToSpans_lex, String.toList_append, String.toList_append,
    String.toList_append, Scan.pieces_append_blanks hPadding.blanks hPadding.apart, hWithout]
  exact hPadding.contents_eq

end IsPadding

/-! ## Programs -/

private theorem Lexeme.alike_of_content {a b : Lexeme} (hSame : a.content = b.content) :
    a.Alike b := by
  obtain ⟨kind, text, span, value⟩ := a
  obtain ⟨kind', text', span', value'⟩ := b
  cases hSame
  exact ⟨rfl, fun _ => rfl, fun _ => rfl⟩

namespace Parsing

/-- Lexemes of the same content are refused for the same reason. -/
private theorem Refuses.problem_eq {α : Type} {a b : Lexeme} (hSame : a.content = b.content)
    {point : Point α} {refusal refusal' : Refusal} (hRefuses : Refuses a point refusal)
    (hRefuses' : Refuses b point refusal') : refusal.problem = refusal'.problem := by
  cases hRefuses.alike (Lexeme.alike_of_content hSame) hRefuses' with
  | kind =>
      have hKind : a.kind = b.kind := congrArg Prod.fst hSame
      have hText : a.text = b.text := congrArg (·.2.1) hSame
      have hDescribe : a.describe = b.describe := by
        unfold Lexeme.describe
        rw [hKind, hText]
      cases point <;> simp only [Point.problem, hDescribe]
  | type hText => exact congrArg Problem.unknownType hText

/-- Lexemes of the same content make the same program, or fail for the same reason. -/
private theorem parse_of_contents {lexemes lexemes' : List Lexeme}
    (hSame : lexemes.map Lexeme.content = lexemes'.map Lexeme.content) :
    upToSpans Program.erase ((parse lexemes).mapError Failure.diagnostic) =
      upToSpans Program.erase ((parse lexemes').mapError Failure.diagnostic) := by
  have hTwins : List.Forall₂ (Twin (fun a b => a.content = b.content) Prod.fst Prod.snd)
      lexemes lexemes' := by
    rw [← List.forall₂_eq_eq_eq, List.forall₂_map_left_iff, List.forall₂_map_right_iff] at hSame
    exact hSame.imp fun a b hPair => ⟨hPair, (a.span, b.span), rfl, rfl⟩
  have hEnd : SameEnd _ _ _ (programFrom none [] .start lexemes)
      (programFrom none [] .start lexemes') :=
    programFrom_twins (fun _ _ => Lexeme.alike_of_content) hTwins none none [] .start
  show upToSpans _ (((programFrom none [] .start lexemes).map Program.mk).outcome.mapError _) =
    upToSpans _ (((programFrom none [] .start lexemes').map Program.mk).outcome.mapError _)
  generalize programFrom none [] .start lexemes = reply,
    programFrom none [] .start lexemes' = reply' at hEnd
  cases hEnd with
  | found done _ =>
      show Except.ok ((Program.mk done).map Prod.fst).erase =
        Except.ok ((Program.mk done).map Prod.snd).erase
      rw [Program.erase_map, Program.erase_map]
  | cutShort _ _ expected => rfl
  | @refused _ _ a b _ _ refusal refusal' hPair point hRefuses hRefuses' _ =>
      show Except.error (Sum.inl refusal.problem) = Except.error (Sum.inl refusal'.problem)
      rw [hRefuses.problem_eq hPair hRefuses']

end Parsing

/-- Sources with the same lexemes up to spans have the same program up to spans. -/
private theorem Program.ofSource_of_lex {source source' : String}
    (hLex : upToSpans (List.map Lexeme.content) (lex source) =
      upToSpans (List.map Lexeme.content) (lex source')) :
    upToSpans Program.erase (ofSource source) = upToSpans Program.erase (ofSource source') := by
  rcases hSource : lex source with failure | lexemes <;>
    rcases hSource' : lex source' with failure' | lexemes' <;>
    rw [hSource, hSource'] at hLex
  · rw [ofSource_of_lex_error hSource, ofSource_of_lex_error hSource']
    exact congrArg Except.error (Except.error.inj hLex)
  · cases hLex
  · cases hLex
  · rw [ofSource_of_lex_ok hSource, ofSource_of_lex_ok hSource']
    exact Parsing.parse_of_contents (Except.ok.inj hLex)

/-- **Layout.**  Padding makes no difference, up to spans, to the lexemes and the
program of a source, or to why it has none. -/
theorem layout_free {before inserted after : String} (hPadding : IsPadding before inserted after) :
    upToSpans (List.map Lexeme.content) (lex (before ++ inserted ++ after)) =
        upToSpans (List.map Lexeme.content) (lex (before ++ after)) ∧
      upToSpans Program.erase (Program.ofSource (before ++ inserted ++ after)) =
        upToSpans Program.erase (Program.ofSource (before ++ after)) :=
  ⟨hPadding.lex_eq, Program.ofSource_of_lex hPadding.lex_eq⟩

/-- A function that returns a value, with the marks it has when no blanks stand before
its brace. -/
def paddedProgram : Program Span :=
  ⟨[.fn ⟨.int, "f", [], ⟨0, 0, 2⟩⟩ ⟨0, 10, 1⟩ [.ret (some ⟨.integer 7, ⟨0, 18, 1⟩⟩) ⟨0, 11, 6⟩]]⟩

/-- Blanks before a brace leave the program as it is.  Blank lines before a line feed
leave the lexemes as they are, and the same name is refused as a type. -/
theorem paddedSources_layout_free :
    (IsPadding "fn int f()" " \t" "\x7breturn 7\n\x7d" ∧
      upToSpans Program.erase (Program.ofSource ("fn int f()" ++ " \t" ++ "\x7breturn 7\n\x7d")) =
        .ok paddedProgram.erase) ∧
    IsPadding "return" "\n \r\n" "\nfn x" ∧
      upToSpans (List.map Lexeme.content) (lex ("return" ++ "\n \r\n" ++ "\nfn x")) =
        .ok [(.ret, "return", .absent), (.lineBreak, "\n", .absent), (.fn, "fn", .absent),
          (.identifier, "x", .name "x")] ∧
      upToSpans Program.erase (Program.ofSource ("return" ++ "\n \r\n" ++ "\nfn x")) =
        .error (.inl (.unknownType "x")) := by
  have hInLine : IsPadding "fn int f()" " \t" "\x7breturn 7\n\x7d" := by
    refine .inLine (by simp [Kind.blanks]) ?_
    rintro c ⟨⟩ d ⟨⟩
    decide
  have hAtLineEnd : IsPadding "return" "\n \r\n" "\nfn x" :=
    .atLineEnd (by simp [Kind.blanks]) (.inr (.inr rfl))
  have hRead : Program.ofSource "fn int f()\x7breturn 7\n\x7d" = .ok paddedProgram := rfl
  have hJoined : "fn int f()" ++ "\x7breturn 7\n\x7d" = "fn int f()\x7breturn 7\n\x7d" := rfl
  rw [(layout_free hInLine).2, (layout_free hAtLineEnd).1, (layout_free hAtLineEnd).2, hJoined,
    hRead]
  exact ⟨⟨hInLine, rfl⟩, hAtLineEnd, rfl, rfl⟩

end Frontend
