import Frontend.Proofs.Lexeme.Cuts

/-!
# Tiling

The lexemes of a source are stretches of it.  `Lexeme.LiesAt` says what it is for a
lexeme to lie at an offset, in terms of the source alone: the text is what the source
shows there, line and column are counted in what comes before, kind and value are what
the text spells, and a run of letters or digits goes on to neither side.

The main result is that the lexemes lie one after the other and that nothing but white
space is between them (`lexemes_tile`).  All of it is read off the cuts of the source: a
lexeme lies where its cut is, and the cuts are in order and cover everything.
-/

namespace Frontend

open Source (Place lastLine)
open Scan (Cut IsCut Keeps cuts spanAt)

/-! ## Where a lexeme lies -/

/-- An offset is on the line that begins at `start`. -/
structure LineStart (text : List Char) (offset start : Nat) : Prop where
  le : start ≤ offset
  unbroken : '\n' ∉ (text.take offset).drop start
  begins : start = 0 ∨ text[start - 1]? = some '\n'

/-- A character stands directly before or directly after a stretch of a text. -/
def Borders (text : List Char) (offset length : Nat) (c : Char) : Prop :=
  (0 < offset ∧ text[offset - 1]? = some c) ∨ text[offset + length]? = some c

/-- The characters of a lexeme are all of a class. -/
def Lexeme.IsRun (lexeme : Lexeme) (ofClass : Char → Bool) : Prop :=
  ∀ c ∈ lexeme.text.toList, ofClass c = true

/-- A lexeme is what a source shows at an offset. -/
structure Lexeme.LiesAt (source : String) (offset : Nat) (lexeme : Lexeme) : Prop where
  nonempty : lexeme.text ≠ ""
  slice : (source.toList.drop offset).take lexeme.text.length = lexeme.text.toList
  line : lexeme.span.line = (source.toList.take offset).count '\n'
  column : ∃ start, LineStart source.toList offset start ∧ lexeme.span.column = offset - start
  length : lexeme.span.length = lexeme.text.length
  spelling : Spelling lexeme.text lexeme.kind lexeme.value
  letters : lexeme.IsRun Char.isAlpha →
    ∀ c, Borders source.toList offset lexeme.text.length c → c.isAlpha = false
  digits : lexeme.IsRun Char.isDigit →
    ∀ c, Borders source.toList offset lexeme.text.length c → c.isDigit = false

/-- One span ends before another begins. -/
def Span.Precedes (a b : Span) : Prop :=
  a.line < b.line ∨ (a.line = b.line ∧ a.column < b.column ∧ a.column + a.length ≤ b.column)

/-- An offset falls on a lexeme that lies somewhere. -/
def Covers (entry : Nat × Lexeme) (offset : Nat) : Prop :=
  entry.1 ≤ offset ∧ offset < entry.1 + entry.2.text.length

/-- Lexemes lie in a source one after the other, with nothing but white space between
them, and no two that touch are of one run. -/
structure Tiles (source : String) (placed : List (Nat × Lexeme)) : Prop where
  lies : ∀ entry ∈ placed, entry.2.LiesAt source entry.1
  ordered : placed.Pairwise fun a b => a.1 + a.2.text.length ≤ b.1
  blank : ∀ offset c, source.toList[offset]? = some c →
    (∀ entry ∈ placed, ¬Covers entry offset) → c ∈ Kind.blanks
  apart : placed.Pairwise fun a b => a.1 + a.2.text.length = b.1 →
    ¬(a.2.IsRun Char.isAlpha ∧ b.2.IsRun Char.isAlpha) ∧
      ¬(a.2.IsRun Char.isDigit ∧ b.2.IsRun Char.isDigit)

/-! ## Offsets in a text that is cut -/

private theorem getElem?_length_sub_one {before : List Char} (hNonempty : 0 < before.length)
    (after : List Char) : (before ++ after)[before.length - 1]? = before.getLast? := by
  rw [List.getElem?_append_left (by omega), List.getLast?_eq_getElem?]

theorem getElem?_length (before after : List Char) :
    (before ++ after)[before.length]? = after.head? := by
  rw [List.getElem?_append_right (Nat.le_refl _), Nat.sub_self, List.head?_eq_getElem?]

/-- The column of a place is its distance from the start of its line. -/
theorem lineStart_place (before after : List Char) :
    ∃ start, LineStart (before ++ after) before.length start ∧
      (Place.start.pass before).column = before.length - start := by
  obtain ⟨earlier, hText, hEarlier⟩ := Source.eq_append_lastLine before
  have hLength : before.length = earlier.length + (lastLine before).length := by
    rw [← List.length_append, ← hText]
  refine ⟨earlier.length, ⟨by omega, ?_, ?_⟩, ?_⟩
  · rw [List.take_left]
    nth_rewrite 1 [hText]
    rw [List.drop_left]
    exact Source.feed_notMem_lastLine before
  · rcases hEarlier with rfl | ⟨lines, rfl⟩
    · exact Or.inl rfl
    · right
      rw [hText, List.append_assoc, getElem?_length_sub_one (by simp), List.getLast?_concat]
  · rw [Source.column_start_pass]
    omega

/-- What borders on a piece of a text does not go on with it. -/
private theorem joins_of_borders {text after : List Char} {cut : Cut} {c : Char}
    (hCut : IsCut text cut after)
    (hBorders : Borders text cut.before.length cut.piece.length c) :
    (∀ d ∈ cut.piece.head?, joins c d = false) ∨ ∀ d ∈ cut.piece.getLast?, joins d c = false := by
  rcases hBorders with ⟨hPositive, hBefore⟩ | hAfter
  · left
    rw [hCut.parts, getElem?_length_sub_one hPositive] at hBefore
    exact hCut.left c hBefore
  · right
    rw [hCut.parts, ← List.append_assoc, ← List.length_append, getElem?_length] at hAfter
    intro d hLast
    exact hCut.right d hLast c hAfter

/-- A run of one class ends where its cut ends. -/
private theorem isRun_borders {ofClass : Char → Bool} {text after : List Char} {cut : Cut}
    {c : Char}
    (hJoins : ∀ a b, ofClass a = true → ofClass b = true → joins a b = true)
    (hCut : IsCut text cut after) (hRun : ∀ d ∈ cut.piece, ofClass d = true)
    (hBorders : Borders text cut.before.length cut.piece.length c) : ofClass c = false := by
  have hNonempty := hCut.piece.ne_nil
  rw [Bool.eq_false_iff]
  intro hClass
  rcases joins_of_borders hCut hBorders with hLeft | hRight
  · have hApart := hLeft _ (List.head?_eq_some_head hNonempty)
    rw [hJoins c _ hClass (hRun _ (List.head_mem hNonempty))] at hApart
    cases hApart
  · have hApart := hRight _ (List.getLast?_eq_some_getLast hNonempty)
    rw [hJoins _ c (hRun _ (List.getLast_mem hNonempty)) hClass] at hApart
    cases hApart

/-- **A lexeme lies where its cut is.** -/
theorem liesAt_of_isCut {source : String} {cut : Cut} {after : List Char} {lexeme : Lexeme}
    (hCut : IsCut source.toList cut after) (hLexeme : cut.lexeme? = some lexeme) :
    lexeme.LiesAt source cut.before.length := by
  obtain ⟨hText, hSpan, hSpelling⟩ := Scan.spelling_of_lexeme? hCut.piece hLexeme
  have hChars : lexeme.text.toList = cut.piece := by rw [hText, String.toList_ofList]
  have hLength : lexeme.text.length = cut.piece.length := by rw [← hChars, String.length_toList]
  obtain ⟨start, hStart, hColumn⟩ := lineStart_place cut.before (cut.piece ++ after)
  rw [← hCut.parts] at hStart
  refine ⟨?_, ?_, ?_, ⟨start, hStart, ?_⟩, ?_, hSpelling, ?_, ?_⟩
  · rw [← String.toList_eq_nil_iff.ne, hChars]
    exact hCut.piece.ne_nil
  · rw [hChars, hLength, hCut.parts, List.drop_left, List.take_left]
  · rw [hSpan, hCut.parts, List.take_left]
    exact Source.line_start_pass cut.before
  · rw [hSpan]
    exact hColumn
  · rw [hSpan, hLength]
    rfl
  · intro hRun c hBorders
    rw [hLength] at hBorders
    rw [Lexeme.IsRun, hChars] at hRun
    exact isRun_borders (fun a b hA hB => by simp [joins, hA, hB]) hCut hRun hBorders
  · intro hRun c hBorders
    rw [hLength] at hBorders
    rw [Lexeme.IsRun, hChars] at hRun
    exact isRun_borders (fun a b hA hB => by simp [joins, hA, hB]) hCut hRun hBorders

/-! ## The lexemes of a source -/

/-- The last character of a lexeme borders on what begins where the lexeme ends. -/
private theorem Lexeme.LiesAt.borders {source : String} {offset : Nat} {lexeme : Lexeme}
    (hLies : lexeme.LiesAt source offset) (length : Nat) :
    ∃ c ∈ lexeme.text.toList,
      Borders source.toList (offset + lexeme.text.length) length c := by
  have hNonempty : lexeme.text.toList ≠ [] := String.toList_eq_nil_iff.ne.2 hLies.nonempty
  have hLength : lexeme.text.toList.length = lexeme.text.length := String.length_toList
  have hPositive := List.length_pos_of_ne_nil hNonempty
  have hLast : source.toList[offset + lexeme.text.length - 1]? =
      some (lexeme.text.toList.getLast hNonempty) := by
    have hSame : (lexeme.text.toList)[lexeme.text.length - 1]? =
        source.toList[offset + (lexeme.text.length - 1)]? := by
      rw [← hLies.slice, List.getElem?_take_of_lt (by omega), List.getElem?_drop]
    rw [show offset + lexeme.text.length - 1 = offset + (lexeme.text.length - 1) by omega, ← hSame,
      ← hLength, ← List.getLast?_eq_getElem?, List.getLast?_eq_some_getLast hNonempty]
  exact ⟨_, List.getLast_mem hNonempty, Or.inl ⟨by omega, hLast⟩⟩

/-- A cut precedes the cuts that begin after its end. -/
private theorem precedes_of_prefix {a b : Cut} (hNonempty : a.piece ≠ [])
    (hBefore : a.before ++ a.piece <+: b.before) :
    (spanAt a.place a.piece).Precedes (spanAt b.place b.piece) := by
  obtain ⟨between, hBetween⟩ := hBefore
  have hPlace : b.place = a.place.pass (a.piece ++ between) := by
    unfold Cut.place
    rw [← hBetween, List.append_assoc, Place.pass_append]
  have hPositive := List.length_pos_of_ne_nil hNonempty
  by_cases hFeed : '\n' ∈ a.piece ++ between
  · left
    have hCount := List.count_pos_iff.2 hFeed
    show a.place.line < b.place.line
    rw [hPlace, Place.line_pass]
    omega
  · right
    have hLine : b.place.line = a.place.line := by
      rw [hPlace, Place.line_pass, List.count_eq_zero.2 hFeed, Nat.add_zero]
    have hColumn : b.place.column = a.place.column + (a.piece.length + between.length) := by
      rw [hPlace, Place.column_pass_of_notMem _ hFeed, List.length_append]
    show a.place.line = b.place.line ∧ a.place.column < b.place.column ∧
      a.place.column + a.piece.length ≤ b.place.column
    omega

section Kept

variable {source : String} {kept : List (Cut × Lexeme)}

/-- A kept cut with the offset at which its lexeme lies. -/
def placedAt (entry : Cut × Lexeme) : Nat × Lexeme := (entry.1.before.length, entry.2)

private theorem pairwise_kept (hKeeps : Keeps (cuts [] (pieces source.toList)) kept) :
    kept.Pairwise fun a b => a.1.before ++ a.1.piece <+: b.1.before :=
  List.pairwise_map.1 ((Scan.pairwise_cuts _ []).sublist hKeeps.sublist)

private theorem length_of_kept (hKeeps : Keeps (cuts [] (pieces source.toList)) kept)
    {entry : Cut × Lexeme} (hMem : entry ∈ kept) :
    entry.2.text.length = entry.1.piece.length := by
  obtain ⟨after, hCut⟩ := Scan.isCut_of_kept hKeeps hMem
  obtain ⟨hText, _⟩ := Scan.spelling_of_lexeme? hCut.piece (hKeeps.lexeme?_eq _ hMem)
  rw [hText, String.length_ofList]

private theorem ordered_of_kept (hKeeps : Keeps (cuts [] (pieces source.toList)) kept) :
    (kept.map placedAt).Pairwise fun a b => a.1 + a.2.text.length ≤ b.1 := by
  rw [List.pairwise_map]
  apply (pairwise_kept hKeeps).imp_of_mem
  intro a b hA _ hBefore
  have hLength := hBefore.length_le
  rw [List.length_append] at hLength
  show a.1.before.length + a.2.text.length ≤ b.1.before.length
  rw [length_of_kept hKeeps hA]
  exact hLength

private theorem blank_of_kept (hKeeps : Keeps (cuts [] (pieces source.toList)) kept) {offset : Nat}
    {c : Char} (hChar : source.toList[offset]? = some c)
    (hUncovered : ∀ entry ∈ kept.map placedAt, ¬Covers entry offset) : c ∈ Kind.blanks := by
  have hBound : offset < (pieces source.toList).flatten.length := by
    rw [pieces, List.flatten_splitBy]
    exact (List.getElem?_eq_some_iff.1 hChar).1
  -- An offset that no lexeme covers falls on a cut that was dropped, and that is one
  -- character long.
  obtain ⟨cut, hMem, hFrom, hTo⟩ := Scan.exists_cut_covering (pieces source.toList) [] offset
    (Nat.zero_le _) (by rw [List.length_nil, Nat.zero_add]; exact hBound)
  rcases hKeeps.mem_or_isBlank cut hMem with ⟨lexeme, hKept⟩ | ⟨d, hBlank, hPiece⟩
  · refine absurd ?_ (hUncovered _ (List.mem_map_of_mem hKept))
    have hLength : lexeme.text.length = cut.piece.length := length_of_kept hKeeps hKept
    exact ⟨hFrom, by show offset < cut.before.length + lexeme.text.length; omega⟩
  · obtain ⟨after, hCut⟩ := Scan.mem_cuts_pieces hMem
    rw [hPiece, List.length_singleton] at hTo
    have hHere : offset = cut.before.length := by omega
    rw [hHere, hCut.parts, getElem?_length, hPiece] at hChar
    rw [← Option.some.inj hChar]
    exact hBlank

/-- **Kept cuts tile the source.** -/
theorem tiles_of_kept (hKeeps : Keeps (cuts [] (pieces source.toList)) kept) :
    Tiles source (kept.map placedAt) := by
  have hLies : ∀ entry ∈ kept.map placedAt, entry.2.LiesAt source entry.1 := by
    intro entry hMem
    obtain ⟨origin, hKept, rfl⟩ := List.mem_map.1 hMem
    obtain ⟨after, hCut⟩ := Scan.isCut_of_kept hKeeps hKept
    exact liesAt_of_isCut hCut (hKeeps.lexeme?_eq _ hKept)
  refine ⟨hLies, ordered_of_kept hKeeps, fun _ _ => blank_of_kept hKeeps, ?_⟩
  apply (ordered_of_kept hKeeps).imp_of_mem
  intro a b hA hB _ hTouch
  obtain ⟨c, hMem, hBorders⟩ := (hLies a hA).borders b.2.text.length
  rw [hTouch] at hBorders
  constructor
  · rintro ⟨hRun, hRun'⟩
    exact absurd (hRun c hMem) (Bool.eq_false_iff.1 ((hLies b hB).letters hRun' c hBorders))
  · rintro ⟨hRun, hRun'⟩
    exact absurd (hRun c hMem) (Bool.eq_false_iff.1 ((hLies b hB).digits hRun' c hBorders))

theorem precedes_of_kept (hKeeps : Keeps (cuts [] (pieces source.toList)) kept) :
    (kept.map Prod.snd).Pairwise fun a b => a.span.Precedes b.span := by
  rw [List.pairwise_map]
  apply (pairwise_kept hKeeps).imp_of_mem
  intro a b hA hB hBefore
  obtain ⟨_, hCut⟩ := Scan.isCut_of_kept hKeeps hA
  obtain ⟨_, hCut'⟩ := Scan.isCut_of_kept hKeeps hB
  obtain ⟨_, hSpan, _⟩ := Scan.spelling_of_lexeme? hCut.piece (hKeeps.lexeme?_eq _ hA)
  obtain ⟨_, hSpan', _⟩ := Scan.spelling_of_lexeme? hCut'.piece (hKeeps.lexeme?_eq _ hB)
  rw [hSpan, hSpan']
  exact precedes_of_prefix hCut.piece.ne_nil hBefore

end Kept

/-- **Tiling.**  The lexemes of a source lie in it one after the other, each where and
what its span, text, kind and value say, with nothing but white space between them; and
their spans ascend. -/
theorem lexemes_tile {source : String} {lexemes : List Lexeme} (hLex : lex source = .ok lexemes) :
    ∃ placed : List (Nat × Lexeme), placed.map Prod.snd = lexemes ∧ Tiles source placed ∧
      lexemes.Pairwise fun a b => a.span.Precedes b.span := by
  obtain ⟨kept, hKeeps, rfl⟩ := Scan.keeps_of_lex hLex
  refine ⟨kept.map placedAt, ?_, tiles_of_kept hKeeps, precedes_of_kept hKeeps⟩
  rw [List.map_map]
  rfl

/-- A source with a blank line, a word that touches a numeral, and a tab. -/
def spacedSource : String := "fn\n\n ab12\tx;"

def spacedLexemes : List Lexeme :=
  [⟨.fn, "fn", ⟨0, 0, 2⟩, .absent⟩, ⟨.lineBreak, "\n", ⟨0, 2, 1⟩, .absent⟩,
    ⟨.identifier, "ab", ⟨2, 1, 2⟩, .name "ab"⟩, ⟨.integer, "12", ⟨2, 3, 2⟩, .integer 12⟩,
    ⟨.identifier, "x", ⟨2, 6, 1⟩, .name "x"⟩, ⟨.semicolon, ";", ⟨2, 7, 1⟩, .absent⟩]

/-- The second line feed belongs to no lexeme, and the numeral begins where the word
ends. -/
theorem spacedLexemes_tile : lex spacedSource = .ok spacedLexemes ∧
    ∃ placed : List (Nat × Lexeme), placed.map Prod.snd = spacedLexemes ∧
      Tiles spacedSource placed ∧ spacedLexemes.Pairwise fun a b => a.span.Precedes b.span :=
  ⟨rfl, lexemes_tile rfl⟩

end Frontend
