import Frontend.Lexeme.Scan
import Frontend.Proofs.Lexeme.Spelling

/-!
# Written text

Text that is put together from pieces is scanned piece by piece, if no piece runs into
the next.  A mark runs into nothing; a word or a numeral stands alone where a mark
follows it.

`Writes text shape` says that a text is scanned on its own, whatever comes before and
after it, and that its lexemes are then of a certain shape.  Where they stand and
whether a line feed among them is dropped depends on what comes before, so the shape
says nothing about spans and leaves line breaks open.  Texts of this sort can be put one
after the other (`Writes.append`), and a word or a numeral can be put in front of one
that begins with a mark (`Writes.run`).
-/

namespace Frontend.Scan

open Source (Place)

/-- A character that is neither a letter nor a digit. -/
def IsMark (c : Char) : Prop := c.isAlpha = false ∧ c.isDigit = false

/-- The result with several lexemes in front. -/
def Result.prepend (lexemes : List Lexeme) (result : Result) : Result :=
  { result with lexemes := lexemes ++ result.lexemes }

/-- A text is scanned on its own, into lexemes of a certain shape. -/
def Writes (text : List Char) (shape : List Lexeme → Prop) : Prop :=
  ∀ (idle : Bool) (place : Place), ∃ (lexemes : List Lexeme) (idle' : Bool) (place' : Place),
    shape lexemes ∧ ∀ rest,
      all idle place (pieces (text ++ rest)) = (all idle' place' (pieces rest)).prepend lexemes

/-- A single lexeme of a kind, with a text and a value. -/
def One (kind : Kind) (text : String) (value : Value) (lexemes : List Lexeme) : Prop :=
  ∃ lexeme, lexemes = [lexeme] ∧ lexeme.kind = kind ∧ lexeme.text = text ∧ lexeme.value = value

/-- Lexemes of one shape, then lexemes of another. -/
def Then (first second : List Lexeme → Prop) (lexemes : List Lexeme) : Prop :=
  ∃ before after, lexemes = before ++ after ∧ first before ∧ second after

/-! ## Pieces that stand alone -/

theorem joins_mark_left {c : Char} (hMark : IsMark c) (d : Char) : joins c d = false := by
  obtain ⟨hLetter, hDigit⟩ := hMark
  simp [joins, hLetter, hDigit]

theorem joins_mark_right {d : Char} (hMark : IsMark d) (c : Char) : joins c d = false := by
  obtain ⟨hLetter, hDigit⟩ := hMark
  simp [joins, hLetter, hDigit]

theorem pieces_of_isPiece {piece : List Char} (hPiece : IsPiece piece) :
    pieces piece = [piece] := by
  have hChain : piece.IsChain fun a b => joins a b = true := by
    cases hPiece with
    | word _ hLetters =>
        refine (List.pairwise_of_forall_mem_list fun a hA b hB => ?_).isChain
        simp [joins, hLetters a hA, hLetters b hB]
    | digits _ hDigits =>
        refine (List.pairwise_of_forall_mem_list fun a hA b hB => ?_).isChain
        simp [joins, hDigits a hA, hDigits b hB]
    | mark => exact List.isChain_singleton _
  exact List.splitBy_of_isChain hPiece.ne_nil hChain

/-- A mark is cut off from what follows it. -/
theorem pieces_mark {c : Char} (hMark : IsMark c) (rest : List Char) :
    pieces (c :: rest) = [c] :: pieces rest := by
  have hApart : ∀ a ∈ [c].getLast?, ∀ b ∈ rest.head?, joins a b = false := by
    rintro a ⟨⟩ b _
    exact joins_mark_left hMark b
  have hPieces : pieces ([c] ++ rest) = pieces [c] ++ pieces rest := List.splitBy_append hApart
  rw [pieces_of_isPiece (.mark hMark.1 hMark.2)] at hPieces
  exact hPieces

/-- A run is cut off from a mark that follows it. -/
private theorem pieces_run {run : List Char} (hRun : IsPiece run) {c : Char} (hMark : IsMark c)
    (rest : List Char) : pieces (run ++ c :: rest) = run :: pieces (c :: rest) := by
  have hPieces : pieces (run ++ c :: rest) = pieces run ++ pieces (c :: rest) :=
    List.splitBy_append_cons rest fun a _ => joins_mark_right hMark a
  rw [pieces_of_isPiece hRun] at hPieces
  exact hPieces

/-! ## Scanning a piece -/

theorem all_lexeme {piece : List Char} {kind : Kind} {value : Value}
    (hReading : Reading.of piece = .lexeme kind value) (idle : Bool) (place : Place)
    (rest : List (List Char)) :
    all idle place (piece :: rest) =
      (all (kind = .lineBreak) (place.pass piece) rest).prepend
        [lexemeAt place piece kind value] := by
  rw [all, step, hReading]
  rfl

private theorem all_space {piece : List Char} (hReading : Reading.of piece = .space) (idle : Bool)
    (place : Place) (rest : List (List Char)) :
    all idle place (piece :: rest) = (all idle (place.pass piece) rest).prepend [] := by
  rw [all, step, hReading]
  rfl

/-- A line feed is scanned into a line break, or it is passed over. -/
theorem all_lineBreak (idle : Bool) (place : Place) (rest : List Char) :
    all idle place (pieces (['\n'] ++ rest)) =
      (all true (place.pass ['\n']) (pieces rest)).prepend
        (if idle then [] else [lexemeAt place ['\n'] .lineBreak .absent]) := by
  rw [List.singleton_append, pieces_mark ⟨rfl, rfl⟩]
  cases idle with
  | true => rfl
  | false => rfl

/-! ## Texts -/

namespace Writes

variable {text : List Char} {shape : List Lexeme → Prop}

theorem nil : Writes [] fun lexemes => lexemes = [] :=
  fun idle place => ⟨[], idle, place, rfl, fun _ => rfl⟩

/-- The shape may be described more loosely. -/
theorem imp {looser : List Lexeme → Prop} (hText : Writes text shape)
    (hShape : ∀ lexemes, shape lexemes → looser lexemes) : Writes text looser := by
  intro idle place
  obtain ⟨lexemes, idle', place', hLexemes, hScan⟩ := hText idle place
  exact ⟨lexemes, idle', place', hShape lexemes hLexemes, hScan⟩

/-- Texts may stand one after the other. -/
theorem append {next : List Char} {shape' : List Lexeme → Prop} (hText : Writes text shape)
    (hNext : Writes next shape') : Writes (text ++ next) (Then shape shape') := by
  intro idle place
  obtain ⟨before, idle', place', hBefore, hScan⟩ := hText idle place
  obtain ⟨after, idle'', place'', hAfter, hScan'⟩ := hNext idle' place'
  refine ⟨before ++ after, idle'', place'', ⟨before, after, rfl, hBefore, hAfter⟩, fun rest => ?_⟩
  rw [List.append_assoc, hScan, hScan']
  unfold Result.prepend
  rw [List.append_assoc]

theorem mark {c : Char} {kind : Kind} (hMark : IsMark c)
    (hReading : Reading.of [c] = .lexeme kind .absent) :
    Writes [c] (One kind (String.ofList [c]) .absent) := by
  intro idle place
  refine ⟨[lexemeAt place [c] kind .absent], kind = .lineBreak, place.pass [c],
    ⟨_, rfl, rfl, rfl, rfl⟩, fun rest => ?_⟩
  rw [List.singleton_append, pieces_mark hMark, all_lexeme hReading]

theorem space : Writes [' '] fun lexemes => lexemes = [] := by
  intro idle place
  refine ⟨[], idle, place.pass [' '], rfl, fun rest => ?_⟩
  rw [List.singleton_append, pieces_mark ⟨rfl, rfl⟩, all_space rfl]

theorem lineFeed : Writes ['\n'] fun lexemes => ∀ lexeme ∈ lexemes, lexeme.kind = .lineBreak := by
  intro idle place
  refine ⟨_, true, place.pass ['\n'], ?_, all_lineBreak idle place⟩
  cases idle <;> simp [lexemeAt]

/-- A run in front of a text that begins with a mark. -/
theorem run {run : List Char} {c : Char} {kind : Kind} {value : Value} (hRun : IsPiece run)
    (hReading : Reading.of run = .lexeme kind value) (hMark : IsMark c)
    (hText : Writes (c :: text) shape) :
    Writes (run ++ c :: text) (Then (One kind (String.ofList run) value) shape) := by
  intro idle place
  obtain ⟨lexemes, idle', place', hLexemes, hScan⟩ :=
    hText (kind = .lineBreak) (place.pass run)
  refine ⟨_, idle', place', ⟨[lexemeAt place run kind value], lexemes, rfl,
    ⟨_, rfl, rfl, rfl, rfl⟩, hLexemes⟩, fun rest => ?_⟩
  rw [List.append_assoc, List.cons_append, pieces_run hRun hMark, all_lexeme hReading,
    ← List.cons_append, hScan]
  rfl

/-- **A written text** has lexemes, and they are of its shape. -/
theorem lex_eq_ok {source : String} (hText : Writes source.toList shape) :
    ∃ lexemes, lex source = .ok lexemes ∧ shape lexemes := by
  obtain ⟨lexemes, idle', place', hLexemes, hScan⟩ := hText true Place.start
  have hAll := hScan []
  rw [List.append_nil] at hAll
  refine ⟨lexemes, ?_, hLexemes⟩
  show (all true Place.start (pieces source.toList)).outcome = .ok lexemes
  rw [hAll]
  show Except.ok (lexemes ++ []) = Except.ok lexemes
  rw [List.append_nil]

end Writes

end Frontend.Scan
