import Frontend.Lexeme.Scan
import Frontend.Proofs.Lexeme.Spelling
import Frontend.Proofs.Source.LineOf

/-!
# Cuts of a text

Scanning moves a place over the pieces of a text.  A cut is a piece together with the
text before it, which is all that its place depends on.  The cuts of a text are known
before anything is scanned: they stand in order, they cover the text, and no two that
touch could be one (`mem_cuts_pieces`, `pairwise_cuts`, `exists_cut_covering`).

What scanning adds is a choice.  Every cut is kept as a lexeme, or is dropped because it
is white space, or ends the scan; which of these is possible depends on the cut alone,
apart from the line feeds that are dropped because another line break came before
(`keeps_of_all`, `failure_of_all`).
-/

namespace Frontend.Scan

open Source (Place)

/-- A piece of a text, and the text before it. -/
structure Cut where
  before : List Char
  piece : List Char

namespace Cut

/-- Where the piece begins. -/
def place (cut : Cut) : Place := Place.start.pass cut.before

/-- The lexeme that the piece can become. -/
def lexeme? (cut : Cut) : Option Lexeme :=
  match Reading.of cut.piece with
  | .lexeme kind value => some (lexemeAt cut.place cut.piece kind value)
  | .lineBreak => some (lexemeAt cut.place cut.piece .lineBreak .absent)
  | .space | .problem _ | .fault _ => none

/-- The failure that the piece causes. -/
def failure? (cut : Cut) : Option Failure :=
  match Reading.of cut.piece with
  | .problem problem => some (.diagnostic ⟨problem, spanAt cut.place cut.piece⟩)
  | .fault fault => some (.fault fault)
  | .lexeme _ _ | .lineBreak | .space => none

/-- Whether the piece is a single white-space character. -/
def IsBlank (cut : Cut) : Prop := ∃ c ∈ Kind.blanks, cut.piece = [c]

end Cut

/-- The cuts of a text from some point on, given the text before that and the pieces
after it. -/
def cuts (before : List Char) : List (List Char) → List Cut
  | [] => []
  | piece :: rest => ⟨before, piece⟩ :: cuts (before ++ piece) rest

/-! ## The cuts of a text -/

/-- A cut divides the pieces. -/
private theorem exists_append_of_mem_cuts {cut : Cut} (segments : List (List Char)) :
    ∀ before : List Char, cut ∈ cuts before segments →
      ∃ earlier later, segments = earlier ++ cut.piece :: later ∧
        cut.before = before ++ earlier.flatten := by
  induction segments with
  | nil =>
      intro before hMem
      cases hMem
  | cons piece rest ih =>
      intro before hMem
      rcases List.mem_cons.1 hMem with rfl | hMem
      · exact ⟨[], rest, rfl, by simp⟩
      · obtain ⟨earlier, later, hRest, hBefore⟩ := ih (before ++ piece) hMem
        refine ⟨piece :: earlier, later, by rw [hRest, List.cons_append], ?_⟩
        rw [hBefore, List.flatten_cons, List.append_assoc]

private theorem getLast?_flatten_concat (earlier : List (List Char)) {last : List Char}
    (hNonempty : last ≠ []) : (earlier ++ [last]).flatten.getLast? = last.getLast? := by
  rw [List.flatten_append, List.flatten_singleton, List.getLast?_append,
    List.getLast?_eq_some_getLast hNonempty]
  rfl

/-- Neighbouring pieces do not join where they meet. -/
private theorem joins_of_apart {left right : List Char}
    (hApart : ∃ hLeft hRight, joins (left.getLast hLeft) (right.head hRight) = false) :
    ∀ c ∈ left.getLast?, ∀ d ∈ right.head?, joins c d = false := by
  obtain ⟨hLeft, hRight, hJoins⟩ := hApart
  rw [List.getLast?_eq_some_getLast hLeft, List.head?_eq_some_head hRight]
  rintro c ⟨⟩ d ⟨⟩
  exact hJoins

/-- A cut of a text: what is before it, its piece, and what is after it. -/
structure IsCut (text : List Char) (cut : Cut) (after : List Char) : Prop where
  parts : text = cut.before ++ (cut.piece ++ after)
  piece : IsPiece cut.piece
  left : ∀ c ∈ cut.before.getLast?, ∀ d ∈ cut.piece.head?, joins c d = false
  right : ∀ c ∈ cut.piece.getLast?, ∀ d ∈ after.head?, joins c d = false

/-- Every cut of a text is one, and its piece could be no longer. -/
theorem mem_cuts_pieces {text : List Char} {cut : Cut} (hMem : cut ∈ cuts [] (pieces text)) :
    ∃ after, IsCut text cut after := by
  obtain ⟨earlier, later, hPieces, hBefore⟩ := exists_append_of_mem_cuts _ _ hMem
  rw [List.nil_append] at hBefore
  have hText : text = cut.before ++ (cut.piece ++ later.flatten) := by
    have hFlatten := flatten_pieces text
    rw [hPieces, List.flatten_append, List.flatten_cons, ← hBefore] at hFlatten
    exact hFlatten.symm
  have hChain := List.isChain_getLast_head_splitBy joins text
  rw [show text.splitBy joins = earlier ++ cut.piece :: later from hPieces,
    List.isChain_append] at hChain
  obtain ⟨_, hTail, hLeft⟩ := hChain
  refine ⟨later.flatten, hText, isPiece_of_mem (by rw [hPieces]; simp), ?_, ?_⟩
  · rw [hBefore]
    rcases List.eq_nil_or_concat earlier with hNone | ⟨others, last, hSome⟩
    · rw [hNone]
      exact nofun
    · rw [List.concat_eq_append] at hSome
      have hApart := hLeft last (by rw [hSome]; simp) cut.piece rfl
      rw [hSome, getLast?_flatten_concat others hApart.1]
      exact joins_of_apart hApart
  · cases later with
    | nil => exact nofun
    | cons next others =>
        have hApart := (List.isChain_cons_cons.1 hTail).1
        rw [List.flatten_cons, List.head?_append_of_ne_nil _ hApart.2.1]
        exact joins_of_apart hApart

private theorem prefix_of_mem_cuts {segments : List (List Char)} {before : List Char} {cut : Cut}
    (hMem : cut ∈ cuts before segments) : before <+: cut.before := by
  obtain ⟨earlier, _, _, hBefore⟩ := exists_append_of_mem_cuts segments before hMem
  rw [hBefore]
  exact List.prefix_append _ _

/-- The cuts stand in order: a later one begins after the end of an earlier one. -/
theorem pairwise_cuts (segments : List (List Char)) : ∀ before : List Char,
    (cuts before segments).Pairwise fun a b => a.before ++ a.piece <+: b.before := by
  induction segments with
  | nil =>
      intro before
      exact List.Pairwise.nil
  | cons piece rest ih =>
      intro before
      refine List.Pairwise.cons ?_ (ih (before ++ piece))
      intro cut hMem
      exact prefix_of_mem_cuts hMem

/-- The cuts cover the text: every offset falls on one of them. -/
theorem exists_cut_covering (segments : List (List Char)) : ∀ (before : List Char) (offset : Nat),
    before.length ≤ offset → offset < before.length + segments.flatten.length →
      ∃ cut ∈ cuts before segments, cut.before.length ≤ offset ∧
        offset < cut.before.length + cut.piece.length := by
  induction segments with
  | nil =>
      intro before offset hFrom hTo
      rw [List.flatten_nil, List.length_nil] at hTo
      omega
  | cons piece rest ih =>
      intro before offset hFrom hTo
      by_cases hHere : offset < before.length + piece.length
      · exact ⟨⟨before, piece⟩, List.mem_cons_self, hFrom, hHere⟩
      · rw [List.flatten_cons, List.length_append] at hTo
        obtain ⟨cut, hMem, hCovers⟩ := ih (before ++ piece) offset
          (by rw [List.length_append]; omega) (by rw [List.length_append]; omega)
        exact ⟨cut, List.mem_cons_of_mem _ hMem, hCovers⟩

/-! ## What scanning makes of the cuts -/

theorem lexeme?_of_yield {cut : Cut} {idle : Bool} {lexeme : Lexeme}
    (hStep : step idle cut.place cut.piece = .yield lexeme) : cut.lexeme? = some lexeme := by
  unfold step at hStep
  unfold Cut.lexeme?
  cases hReading : Reading.of cut.piece with
  | lexeme kind value =>
      rw [hReading] at hStep
      exact congrArg some (Step.yield.inj hStep)
  | lineBreak =>
      rw [hReading] at hStep
      cases idle with
      | true => cases hStep
      | false => exact congrArg some (Step.yield.inj hStep)
  | space => rw [hReading] at hStep; cases hStep
  | problem => rw [hReading] at hStep; cases hStep
  | fault => rw [hReading] at hStep; cases hStep

/-- A piece that is skipped is a line feed where that is idle, or another blank. -/
theorem skip_cases {place : Place} {piece : List Char} {idle : Bool} (hPiece : IsPiece piece)
    (hStep : step idle place piece = .skip) :
    (piece = ['\n'] ∧ idle = true) ∨ ∃ c ∈ Kind.blanks, c ≠ '\n' ∧ piece = [c] := by
  have hReads : Reads piece (Reading.of piece) := hPiece.reads
  unfold step at hStep
  generalize Reading.of piece = reading at hReads hStep
  cases hReads with
  | lineBreak =>
      cases idle with
      | true => exact Or.inl ⟨rfl, rfl⟩
      | false => cases hStep
  | space hBlank hOther => exact Or.inr ⟨_, hBlank, hOther, rfl⟩
  | lexeme | unrecognised | overflow | tooLong => cases hStep

theorem isBlank_of_skip {cut : Cut} {idle : Bool} (hPiece : IsPiece cut.piece)
    (hStep : step idle cut.place cut.piece = .skip) : cut.IsBlank := by
  rcases skip_cases hPiece hStep with ⟨hFeed, _⟩ | ⟨c, hBlank, _, hSingle⟩
  · exact ⟨'\n', by decide, hFeed⟩
  · exact ⟨c, hBlank, hSingle⟩

theorem failure?_of_fail {cut : Cut} {idle : Bool} {failure : Failure}
    (hStep : step idle cut.place cut.piece = .fail failure) : cut.failure? = some failure := by
  unfold step at hStep
  unfold Cut.failure?
  cases hReading : Reading.of cut.piece with
  | lexeme => rw [hReading] at hStep; cases hStep
  | lineBreak => rw [hReading] at hStep; cases idle <;> cases hStep
  | space => rw [hReading] at hStep; cases hStep
  | problem => rw [hReading] at hStep; rw [← Step.fail.inj hStep]
  | fault => rw [hReading] at hStep; rw [← Step.fail.inj hStep]

/-- A choice among cuts: each is kept as its lexeme, or dropped as white space. -/
inductive Keeps : List Cut → List (Cut × Lexeme) → Prop where
  | nil : Keeps [] []
  | keep {cut : Cut} {rest : List Cut} {lexeme : Lexeme} {kept : List (Cut × Lexeme)}
      (hLexeme : cut.lexeme? = some lexeme) (hRest : Keeps rest kept) :
      Keeps (cut :: rest) ((cut, lexeme) :: kept)
  | drop {cut : Cut} {rest : List Cut} {kept : List (Cut × Lexeme)} (hBlank : cut.IsBlank)
      (hRest : Keeps rest kept) : Keeps (cut :: rest) kept

namespace Keeps

variable {candidates : List Cut} {kept : List (Cut × Lexeme)}

/-- What is kept stands in the order of the cuts. -/
theorem sublist (hKeeps : Keeps candidates kept) : (kept.map Prod.fst).Sublist candidates := by
  induction hKeeps with
  | nil => exact List.Sublist.slnil
  | keep _ _ ih => exact ih.cons_cons _
  | drop _ _ ih => exact ih.cons _

theorem lexeme?_eq (hKeeps : Keeps candidates kept) :
    ∀ entry ∈ kept, entry.1.lexeme? = some entry.2 := by
  induction hKeeps with
  | nil =>
      intro entry hMem
      cases hMem
  | keep hLexeme _ ih =>
      intro entry hMem
      rcases List.mem_cons.1 hMem with rfl | hMem
      · exact hLexeme
      · exact ih entry hMem
  | drop _ _ ih => exact ih

/-- What is not kept is white space. -/
theorem mem_or_isBlank (hKeeps : Keeps candidates kept) :
    ∀ cut ∈ candidates, (∃ lexeme, (cut, lexeme) ∈ kept) ∨ cut.IsBlank := by
  induction hKeeps with
  | nil =>
      intro cut hMem
      cases hMem
  | keep _ _ ih =>
      intro cut hMem
      rcases List.mem_cons.1 hMem with rfl | hMem
      · exact Or.inl ⟨_, List.mem_cons_self⟩
      · exact (ih cut hMem).imp_left fun ⟨lexeme, hKept⟩ => ⟨lexeme, List.mem_cons_of_mem _ hKept⟩
  | drop hBlank _ ih =>
      intro cut hMem
      rcases List.mem_cons.1 hMem with rfl | hMem
      · exact Or.inr hBlank
      · exact ih cut hMem

end Keeps

/-- **Scanning to the end** keeps or drops every cut. -/
theorem keeps_of_all {segments : List (List Char)} (hPieces : ∀ piece ∈ segments, IsPiece piece)
    (idle : Bool) (before : List Char)
    (hEnd : (all idle (Place.start.pass before) segments).failure = none) :
    ∃ kept, Keeps (cuts before segments) kept ∧
      (all idle (Place.start.pass before) segments).lexemes = kept.map Prod.snd := by
  induction segments generalizing idle before with
  | nil => exact ⟨[], .nil, rfl⟩
  | cons piece rest ih =>
      have hRest : ∀ other ∈ rest, IsPiece other := fun other hMem =>
        hPieces other (List.mem_cons_of_mem _ hMem)
      rw [all] at hEnd ⊢
      cases hStep : step idle (Place.start.pass before) piece with
      | yield lexeme =>
          rw [hStep] at hEnd
          simp only [← Place.pass_append] at hEnd ⊢
          obtain ⟨kept, hKeeps, hLexemes⟩ := ih hRest _ (before ++ piece) hEnd
          have hLexeme := @lexeme?_of_yield ⟨before, piece⟩ idle lexeme hStep
          exact ⟨_, .keep hLexeme hKeeps, congrArg (List.cons lexeme) hLexemes⟩
      | skip =>
          rw [hStep] at hEnd
          simp only [← Place.pass_append] at hEnd ⊢
          obtain ⟨kept, hKeeps, hLexemes⟩ := ih hRest _ (before ++ piece) hEnd
          have hBlank := @isBlank_of_skip ⟨before, piece⟩ idle
            (hPieces piece List.mem_cons_self) hStep
          exact ⟨kept, .drop hBlank hKeeps, hLexemes⟩
      | fail failure =>
          rw [hStep] at hEnd
          cases hEnd

/-- **Scanning to a failure** fails as one of the cuts says. -/
theorem failure_of_all {failure : Failure} (segments : List (List Char)) (idle : Bool)
    (before : List Char)
    (hFail : (all idle (Place.start.pass before) segments).failure = some failure) :
    ∃ cut ∈ cuts before segments, cut.failure? = some failure := by
  induction segments generalizing idle before with
  | nil => cases hFail
  | cons piece rest ih =>
      rw [all] at hFail
      cases hStep : step idle (Place.start.pass before) piece with
      | yield lexeme =>
          rw [hStep] at hFail
          simp only [← Place.pass_append] at hFail
          obtain ⟨cut, hMem, hFailure⟩ := ih _ (before ++ piece) hFail
          exact ⟨cut, List.mem_cons_of_mem _ hMem, hFailure⟩
      | skip =>
          rw [hStep] at hFail
          simp only [← Place.pass_append] at hFail
          obtain ⟨cut, hMem, hFailure⟩ := ih _ (before ++ piece) hFail
          exact ⟨cut, List.mem_cons_of_mem _ hMem, hFailure⟩
      | fail other =>
          rw [hStep] at hFail
          have hFailure := @failure?_of_fail ⟨before, piece⟩ idle other hStep
          rw [Option.some.inj hFail] at hFailure
          exact ⟨⟨before, piece⟩, List.mem_cons_self, hFailure⟩

/-! ## The lexemes of a source -/

/-- **The lexemes of a source** are those of the cuts that were kept. -/
theorem keeps_of_lex {source : String} {lexemes : List Lexeme} (hLex : lex source = .ok lexemes) :
    ∃ kept, Keeps (cuts [] (pieces source.toList)) kept ∧ lexemes = kept.map Prod.snd := by
  have hAll : (all true (Place.start.pass []) (pieces source.toList)).outcome = .ok lexemes := hLex
  obtain ⟨hEnd, hLexemes⟩ := Result.outcome_eq_ok_iff.1 hAll
  obtain ⟨kept, hKeeps, hKept⟩ := keeps_of_all (fun _ => isPiece_of_mem) true [] hEnd
  exact ⟨kept, hKeeps, hLexemes.symm.trans hKept⟩

theorem isCut_of_kept {source : String} {kept : List (Cut × Lexeme)}
    (hKeeps : Keeps (cuts [] (pieces source.toList)) kept) {entry : Cut × Lexeme}
    (hMem : entry ∈ kept) : ∃ after, IsCut source.toList entry.1 after :=
  mem_cuts_pieces (hKeeps.sublist.subset (List.mem_map_of_mem hMem))

/-- Every lexeme of a source comes from a cut of it. -/
theorem isCut_of_mem_lex {source : String} {lexemes : List Lexeme} {lexeme : Lexeme}
    (hLex : lex source = .ok lexemes) (hMem : lexeme ∈ lexemes) :
    ∃ cut after, IsCut source.toList cut after ∧ cut.lexeme? = some lexeme := by
  obtain ⟨kept, hKeeps, rfl⟩ := keeps_of_lex hLex
  obtain ⟨entry, hKept, rfl⟩ := List.mem_map.1 hMem
  obtain ⟨after, hCut⟩ := isCut_of_kept hKeeps hKept
  exact ⟨entry.1, after, hCut, hKeeps.lexeme?_eq entry hKept⟩

/-- **The failure of a source** is that of one of its cuts. -/
theorem failure_of_lex {source : String} {failure : Failure} (hLex : lex source = .error failure) :
    ∃ cut ∈ cuts [] (pieces source.toList), cut.failure? = some failure := by
  have hAll : (all true (Place.start.pass []) (pieces source.toList)).outcome = .error failure :=
    hLex
  exact failure_of_all _ true [] (Result.outcome_eq_error_iff.1 hAll)

/-- A lexeme shows its piece, where the piece is, as the piece is spelled. -/
theorem spelling_of_lexeme? {cut : Cut} {lexeme : Lexeme} (hPiece : IsPiece cut.piece)
    (hLexeme : cut.lexeme? = some lexeme) :
    lexeme.text = String.ofList cut.piece ∧ lexeme.span = spanAt cut.place cut.piece ∧
      Spelling lexeme.text lexeme.kind lexeme.value := by
  obtain ⟨before, piece⟩ := cut
  have hReads : Reads piece (Reading.of piece) := hPiece.reads
  unfold Cut.lexeme? at hLexeme
  generalize Reading.of piece = reading at hReads hLexeme
  cases hReads with
  | lexeme hSpelling =>
      rw [← Option.some.inj hLexeme]
      exact ⟨rfl, rfl, hSpelling⟩
  | lineBreak =>
      rw [← Option.some.inj hLexeme]
      exact ⟨rfl, rfl, .lineBreak⟩
  | space | unrecognised | overflow | tooLong => cases hLexeme

/-- How a cut fails: the piece is a character that begins no lexeme, or a numeral that
is too large or too long. -/
inductive Cut.Fails (cut : Cut) : Failure → Prop where
  | stray {c : Char} (hSingle : cut.piece = [c]) (hLetter : c.isAlpha = false)
      (hDigit : c.isDigit = false) (hBlank : c ∉ Kind.blanks)
      (hMark : Kind.punctuation.lookup c = none) :
      Fails cut (.diagnostic
        ⟨.unrecognisedToken (String.ofList cut.piece), spanAt cut.place cut.piece⟩)
  | tooLarge (hDigits : ∀ c ∈ cut.piece, c.isDigit = true) (hShort : cut.piece.length ≤ digitLimit)
      (hLarge : int64Max < Nat.ofDigitChars 10 cut.piece 0) :
      Fails cut (.diagnostic
        ⟨.integerOverflow (String.ofList cut.piece), spanAt cut.place cut.piece⟩)
  | tooLong (hDigits : ∀ c ∈ cut.piece, c.isDigit = true) (hLong : digitLimit < cut.piece.length) :
      Fails cut (.fault (.numeralTooLong cut.piece.length))

theorem fails_of_failure? {cut : Cut} {failure : Failure} (hPiece : IsPiece cut.piece)
    (hFailure : cut.failure? = some failure) : cut.Fails failure := by
  obtain ⟨before, piece⟩ := cut
  have hReads : Reads piece (Reading.of piece) := hPiece.reads
  unfold Cut.failure? at hFailure
  generalize Reading.of piece = reading at hReads hFailure
  cases hReads with
  | lexeme | lineBreak | space => cases hFailure
  | unrecognised hLetter hDigit hBlank hMark =>
      rw [← Option.some.inj hFailure]
      exact .stray rfl hLetter hDigit hBlank hMark
  | overflow hDigits hShort hLarge =>
      rw [← Option.some.inj hFailure]
      exact .tooLarge hDigits hShort hLarge
  | tooLong hDigits hLong =>
      rw [← Option.some.inj hFailure]
      exact .tooLong hDigits hLong

/-- A line feed does not fail. -/
theorem Cut.Fails.ne_feed {cut : Cut} {failure : Failure} (hFails : cut.Fails failure) :
    cut.piece ≠ ['\n'] := by
  intro hFeed
  cases hFails with
  | stray hSingle _ _ hBlank _ =>
      rw [hSingle] at hFeed
      exact hBlank (List.singleton_inj.1 hFeed ▸ by decide)
  | tooLarge hDigits | tooLong hDigits =>
      rw [hFeed] at hDigits
      exact absurd (hDigits '\n' List.mem_cons_self) (by decide)

/-- **A source that cannot be read** has a cut that fails as the source does. -/
theorem fails_of_lex {source : String} {failure : Failure} (hLex : lex source = .error failure) :
    ∃ cut after, IsCut source.toList cut after ∧ cut.Fails failure := by
  obtain ⟨cut, hMem, hFailure⟩ := failure_of_lex hLex
  obtain ⟨after, hCut⟩ := mem_cuts_pieces hMem
  exact ⟨cut, after, hCut, fails_of_failure? hCut.piece hFailure⟩

/-- A failure is about a piece: it shows the whole of it where it is, or the piece is a
numeral that is too long to be read. -/
inductive Reports (cut : Cut) : Failure → Prop where
  | diagnostic {problem : Problem} (hStage : problem.stage = .lexical)
      (hRaw : problem.raw? = some (String.ofList cut.piece)) :
      Reports cut (.diagnostic ⟨problem, spanAt cut.place cut.piece⟩)
  | tooLong (hDigits : ∀ c ∈ cut.piece, c.isDigit = true) (hLong : digitLimit < cut.piece.length) :
      Reports cut (.fault (.numeralTooLong cut.piece.length))

theorem reports_of_failure? {cut : Cut} {failure : Failure} (hPiece : IsPiece cut.piece)
    (hFailure : cut.failure? = some failure) : Reports cut failure := by
  cases fails_of_failure? hPiece hFailure with
  | stray | tooLarge => exact .diagnostic rfl rfl
  | tooLong hDigits hLong => exact .tooLong hDigits hLong

end Frontend.Scan
