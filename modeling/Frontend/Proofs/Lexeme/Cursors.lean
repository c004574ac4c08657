import Frontend.Proofs.Lexeme.Cuts

/-!
# Reading from a cursor

A cursor is what is left of a text and the place where that begins.  `StandsAfter` ties
the two to the text: what is left comes after some of it, and the place is where that
part ends.

A request for one lexeme passes over blanks and ends with a piece that is kept or that
is wrong, or with the end of the text; `Finds` lists these outcomes and says for each
where the cursor stands afterwards.  Taking all lexemes is taking them one by one:
`ReadsOn` describes a reading in terms of single requests, and `readsOn_iff` says that
it is what `Cursor.lexemes` computes.  This is why nothing that is known of single
requests has to be proved again of complete readings; it rests on the fact that the
pieces of what is left are what is left of the pieces (`pieces_tail`).
-/

namespace Frontend

open Source (Place Cursor)

/-! ## Where a cursor stands -/

/-- A cursor stands after some of a text: it has the rest of the text and the place
where that begins. -/
structure Source.Cursor.StandsAfter (cursor : Cursor) (text before : List Char) : Prop where
  parts : text = before ++ cursor.rest
  place : cursor.place = Place.start.pass before

theorem Source.Cursor.standsAfter_ofText (source : String) :
    (Cursor.ofText source).StandsAfter source.toList [] :=
  ⟨rfl, rfl⟩

namespace Source.Cursor.StandsAfter

variable {cursor : Cursor} {text before : List Char}

/-- The offset of a cursor counts the characters before it. -/
theorem offset_eq (hStands : cursor.StandsAfter text before) :
    cursor.place.offset = before.length := by
  rw [hStands.place, Place.offset_pass]
  exact Nat.zero_add _

theorem length_eq (hStands : cursor.StandsAfter text before) :
    text.length = before.length + cursor.rest.length := by
  rw [hStands.parts, List.length_append]

/-- One character further on. -/
theorem advance {c : Char} {next : Cursor} (hStands : cursor.StandsAfter text before)
    (hAdvance : cursor.advance = .ok (c, next)) : next.StandsAfter text (before ++ [c]) := by
  unfold Cursor.advance at hAdvance
  cases hRest : cursor.rest with
  | nil =>
      rw [hRest] at hAdvance
      cases hAdvance
  | cons d rest =>
      rw [hRest] at hAdvance
      cases hAdvance
      refine ⟨?_, ?_⟩
      · rw [hStands.parts, hRest, List.append_assoc, List.singleton_append]
      · rw [hStands.place, Place.pass_append]
        rfl

end Source.Cursor.StandsAfter

namespace Scan

/-! ## One lexeme -/

/-- A reading that began after some of a text ended with a cut, and the cursor is just
past it. -/
structure Cut.EndsAt (cut : Cut) (text before : List Char) (cursor : Cursor) : Prop where
  stands : cursor.StandsAfter text (cut.before ++ cut.piece)
  piece : IsPiece cut.piece
  later : before <+: cut.before

theorem Cut.EndsAt.from_earlier {cut : Cut} {text earlier before : List Char} {cursor : Cursor}
    (hEnds : cut.EndsAt text before cursor) (hEarlier : earlier <+: before) :
    cut.EndsAt text earlier cursor :=
  ⟨hEnds.stands, hEnds.piece, hEarlier.trans hEnds.later⟩

theorem Cut.EndsAt.prefix_end {cut : Cut} {text before : List Char} {cursor : Cursor}
    (hEnds : cut.EndsAt text before cursor) : before <+: cut.before ++ cut.piece :=
  hEnds.later.trans (List.prefix_append _ _)

/-- What a request for one lexeme can find after some of a text. -/
inductive Finds (text before : List Char) : Next → Prop where
  | lexeme {cut : Cut} {lexeme : Lexeme} {cursor : Cursor} (hEnds : cut.EndsAt text before cursor)
      (hLexeme : cut.lexeme? = some lexeme) : Finds text before (.lexeme lexeme cursor)
  | ended {cursor : Cursor} (hStands : cursor.StandsAfter text text) :
      Finds text before (.ended cursor)
  | failed {cut : Cut} {failure : Failure} {cursor : Cursor}
      (hEnds : cut.EndsAt text before cursor) (hFailure : cut.failure? = some failure) :
      Finds text before (.failed failure cursor)

theorem Finds.from_earlier {text earlier before : List Char} {next : Next}
    (hFinds : Finds text before next) (hEarlier : earlier <+: before) :
    Finds text earlier next := by
  cases hFinds with
  | lexeme hEnds hLexeme => exact .lexeme (hEnds.from_earlier hEarlier) hLexeme
  | ended hStands => exact .ended hStands
  | failed hEnds hFailure => exact .failed (hEnds.from_earlier hEarlier) hFailure

/-- The cursor just past the first of some pieces. -/
private theorem endsAt_head {piece : List Char} (hPiece : IsPiece piece) (before : List Char)
    (rest : List (List Char)) :
    Cut.EndsAt ⟨before, piece⟩ (before ++ (piece :: rest).flatten) before
      ⟨(Place.start.pass before).pass piece, rest.flatten⟩ := by
  refine ⟨⟨?_, ?_⟩, hPiece, List.prefix_rfl⟩
  · rw [List.flatten_cons, List.append_assoc]
  · rw [Place.pass_append]

private theorem next_finds {segments : List (List Char)}
    (hPieces : ∀ piece ∈ segments, IsPiece piece)
    (idle : Bool) (before : List Char) :
    Finds (before ++ segments.flatten) before (next idle (Place.start.pass before) segments) := by
  induction segments generalizing before with
  | nil =>
      refine .ended ⟨?_, ?_⟩
      · rw [List.append_nil]
      · rw [List.flatten_nil, List.append_nil]
  | cons piece rest ih =>
      obtain ⟨hPiece, hRest⟩ := List.forall_mem_cons.1 hPieces
      have hEnds := endsAt_head hPiece before rest
      rw [next]
      cases hStep : step idle (Place.start.pass before) piece with
      | yield lexeme => exact .lexeme hEnds (lexeme?_of_yield hStep)
      | skip =>
          have hLater := ih hRest (before ++ piece)
          rw [List.append_assoc, ← List.flatten_cons, Place.pass_append] at hLater
          exact hLater.from_earlier (List.prefix_append _ _)
      | fail failure => exact .failed hEnds (failure?_of_fail hStep)

/-- **One lexeme.**  A request finds what the text has from the cursor on. -/
theorem nextLexeme_finds {cursor : Cursor} {text before : List Char}
    (hStands : cursor.StandsAfter text before) (idle : Bool) :
    Finds text before (cursor.nextLexeme idle) := by
  have hFinds : Finds (before ++ (pieces cursor.rest).flatten) before
      (next idle (Place.start.pass before) (pieces cursor.rest)) :=
    next_finds (fun _ => isPiece_of_mem) idle before
  rw [pieces, List.flatten_splitBy, ← hStands.parts, ← hStands.place] at hFinds
  exact hFinds

/-! ## All lexemes -/

/-- Reading on from a cursor lexeme by lexeme, up to the end or to a failure. -/
inductive ReadsOn : Bool → Cursor → Result → Prop where
  | lexeme {idle : Bool} {cursor next : Cursor} {lexeme : Lexeme} {result : Result}
      (hNext : cursor.nextLexeme idle = .lexeme lexeme next)
      (hRest : ReadsOn (lexeme.kind = .lineBreak) next result) :
      ReadsOn idle cursor (result.cons lexeme)
  | ended {idle : Bool} {cursor final : Cursor} (hNext : cursor.nextLexeme idle = .ended final) :
      ReadsOn idle cursor ⟨[], none, final⟩
  | failed {idle : Bool} {cursor final : Cursor} {failure : Failure}
      (hNext : cursor.nextLexeme idle = .failed failure final) :
      ReadsOn idle cursor ⟨[], some failure, final⟩

/-- How a reading goes on depends on what the next request finds alone. -/
private theorem ReadsOn.of_next_eq {idle : Bool} {cursor other : Cursor} {result : Result}
    (hReads : ReadsOn idle cursor result)
    (hSame : other.nextLexeme idle = cursor.nextLexeme idle) : ReadsOn idle other result := by
  cases hReads with
  | lexeme hNext hRest => exact .lexeme (hSame.trans hNext) hRest
  | ended hNext => exact .ended (hSame.trans hNext)
  | failed hNext => exact .failed (hSame.trans hNext)

theorem ReadsOn.unique {idle : Bool} {cursor : Cursor} {result other : Result}
    (hReads : ReadsOn idle cursor result) (hOther : ReadsOn idle cursor other) :
    result = other := by
  induction hReads generalizing other with
  | lexeme hNext _ ih =>
      cases hOther with
      | lexeme hNext' hRest' =>
          cases hNext.symm.trans hNext'
          rw [ih hRest']
      | ended hNext' | failed hNext' => cases hNext.symm.trans hNext'
  | ended hNext =>
      cases hOther with
      | ended hNext' => cases hNext.symm.trans hNext'; rfl
      | lexeme hNext' | failed hNext' => cases hNext.symm.trans hNext'
  | failed hNext =>
      cases hOther with
      | failed hNext' => cases hNext.symm.trans hNext'; rfl
      | lexeme hNext' | ended hNext' => cases hNext.symm.trans hNext'

/-- The pieces of what is left after a piece are the other pieces. -/
private theorem pieces_tail {piece : List Char} {rest : List (List Char)}
    (hPieces : pieces (piece :: rest).flatten = piece :: rest) : pieces rest.flatten = rest := by
  obtain ⟨_, hNonempty, hChains, hApart⟩ := List.splitBy_eq_iff.1 hPieces
  apply List.splitBy_flatten
  · exact fun hMem => hNonempty (List.mem_cons_of_mem piece hMem)
  · exact fun other hMem => hChains other (List.mem_cons_of_mem piece hMem)
  · exact hApart.tail

private theorem nextLexeme_flatten {segments : List (List Char)}
    (hPieces : pieces segments.flatten = segments) (idle : Bool) (place : Place) :
    Cursor.nextLexeme idle ⟨place, segments.flatten⟩ = next idle place segments := by
  rw [Cursor.nextLexeme, hPieces]

private theorem readsOn_all {segments : List (List Char)}
    (hPieces : pieces segments.flatten = segments)
    (idle : Bool) (place : Place) :
    ReadsOn idle ⟨place, segments.flatten⟩ (all idle place segments) := by
  induction segments generalizing idle place with
  | nil => exact .ended rfl
  | cons piece rest ih =>
      have hRest := pieces_tail hPieces
      have hNext := nextLexeme_flatten hPieces idle place
      rw [next] at hNext
      rw [all]
      cases hStep : step idle place piece with
      | yield lexeme =>
          rw [hStep] at hNext
          exact .lexeme hNext (ih hRest _ _)
      | skip =>
          rw [hStep] at hNext
          refine (ih hRest idle (place.pass piece)).of_next_eq ?_
          exact hNext.trans (nextLexeme_flatten hRest idle _).symm
      | fail failure =>
          rw [hStep] at hNext
          exact .failed hNext

theorem readsOn_lexemes (idle : Bool) (cursor : Cursor) :
    ReadsOn idle cursor (cursor.lexemes idle) := by
  have hFlatten := flatten_pieces cursor.rest
  have hPieces : pieces (pieces cursor.rest).flatten = pieces cursor.rest := by rw [hFlatten]
  have hReads := readsOn_all hPieces idle cursor.place
  rw [hFlatten] at hReads
  exact hReads

/-- **All lexemes** are what one request after the other finds. -/
theorem readsOn_iff {idle : Bool} {cursor : Cursor} {result : Result} :
    ReadsOn idle cursor result ↔ cursor.lexemes idle = result := by
  constructor
  · intro hReads
    exact (readsOn_lexemes idle cursor).unique hReads
  · rintro rfl
    exact readsOn_lexemes idle cursor

/-- At the end nothing is left. -/
theorem rest_of_ended {idle : Bool} {place : Place} {segments : List (List Char)} {cursor : Cursor}
    (hNext : next idle place segments = .ended cursor) : cursor.rest = [] := by
  induction segments generalizing place with
  | nil =>
      cases hNext
      rfl
  | cons piece rest ih =>
      rw [next] at hNext
      cases hStep : step idle place piece with
      | yield lexeme =>
          rw [hStep] at hNext
          cases hNext
      | skip =>
          rw [hStep] at hNext
          exact ih hNext
      | fail failure =>
          rw [hStep] at hNext
          cases hNext

/-- A reading that does not fail leaves nothing. -/
theorem ReadsOn.rest_eq_nil {idle : Bool} {cursor : Cursor} {result : Result}
    (hReads : ReadsOn idle cursor result) (hEnd : result.failure = none) :
    result.cursor.rest = [] := by
  induction hReads with
  | lexeme _ _ ih => exact ih hEnd
  | ended hNext => exact rest_of_ended hNext
  | failed => cases hEnd

/-- Reading on yields a lexeme, and the cursor is `now` at that moment. -/
inductive YieldsAt : Bool → Cursor → Lexeme → Cursor → Prop where
  | first {idle : Bool} {cursor now : Cursor} {lexeme : Lexeme}
      (hNext : cursor.nextLexeme idle = .lexeme lexeme now) : YieldsAt idle cursor lexeme now
  | later {idle : Bool} {cursor next now : Cursor} {first lexeme : Lexeme}
      (hNext : cursor.nextLexeme idle = .lexeme first next)
      (hLater : YieldsAt (first.kind = .lineBreak) next lexeme now) :
      YieldsAt idle cursor lexeme now

/-- Every lexeme of a reading is yielded at some moment. -/
theorem ReadsOn.exists_moment {idle : Bool} {cursor : Cursor} {result : Result}
    (hReads : ReadsOn idle cursor result) :
    ∀ lexeme ∈ result.lexemes, ∃ now, YieldsAt idle cursor lexeme now := by
  induction hReads with
  | lexeme hNext _ ih =>
      intro lexeme hMem
      rcases List.mem_cons.1 hMem with rfl | hMem
      · exact ⟨_, .first hNext⟩
      · obtain ⟨now, hLater⟩ := ih lexeme hMem
        exact ⟨now, .later hNext hLater⟩
  | ended | failed => exact nofun

/-- What is yielded at a moment is the lexeme of a cut that ends there. -/
theorem YieldsAt.endsAt {idle : Bool} {cursor now : Cursor} {lexeme : Lexeme}
    {text before : List Char} (hYields : YieldsAt idle cursor lexeme now)
    (hStands : cursor.StandsAfter text before) :
    ∃ cut : Cut, cut.EndsAt text before now ∧ cut.lexeme? = some lexeme := by
  induction hYields generalizing before with
  | @first idle cursor now lexeme hNext =>
      have hFinds := nextLexeme_finds hStands idle
      rw [hNext] at hFinds
      cases hFinds with
      | lexeme hEnds hLexeme => exact ⟨_, hEnds, hLexeme⟩
  | @later idle cursor next now first lexeme hNext _ ih =>
      have hFinds := nextLexeme_finds hStands idle
      rw [hNext] at hFinds
      cases hFinds with
      | lexeme hEnds =>
          obtain ⟨cut, hCut, hLexeme⟩ := ih hEnds.stands
          exact ⟨cut, hCut.from_earlier hEnds.prefix_end, hLexeme⟩

/-- How a reading stops: somewhere further on, and with a failure only if it is that of
the cut which ends there. -/
structure Result.StopsAfter (result : Result) (text before : List Char) : Prop where
  stands : ∃ after, before <+: after ∧ result.cursor.StandsAfter text after
  failed : ∀ failure, result.failure = some failure →
    ∃ cut : Cut, cut.EndsAt text before result.cursor ∧ cut.failure? = some failure

/-- **A complete reading** stops where its last request does. -/
theorem ReadsOn.stopsAfter {idle : Bool} {cursor : Cursor} {result : Result}
    {text before : List Char} (hReads : ReadsOn idle cursor result)
    (hStands : cursor.StandsAfter text before) : result.StopsAfter text before := by
  induction hReads generalizing before with
  | @lexeme idle cursor next lexeme result hNext _ ih =>
      have hFinds := nextLexeme_finds hStands idle
      rw [hNext] at hFinds
      cases hFinds with
      | lexeme hEnds =>
          obtain ⟨⟨after, hLater, hAfter⟩, hFailed⟩ := ih hEnds.stands
          refine ⟨⟨after, hEnds.prefix_end.trans hLater, hAfter⟩, ?_⟩
          intro failure hFailure
          obtain ⟨cut, hCut, hCause⟩ := hFailed failure hFailure
          exact ⟨cut, hCut.from_earlier hEnds.prefix_end, hCause⟩
  | @ended idle cursor final hNext =>
      have hFinds := nextLexeme_finds hStands idle
      rw [hNext] at hFinds
      cases hFinds with
      | ended hEnd =>
          exact ⟨⟨text, hStands.parts ▸ List.prefix_append _ _, hEnd⟩, nofun⟩
  | @failed idle cursor final failure hNext =>
      have hFinds := nextLexeme_finds hStands idle
      rw [hNext] at hFinds
      cases hFinds with
      | failed hEnds hFailure =>
          refine ⟨⟨_, hEnds.prefix_end, hEnds.stands⟩, ?_⟩
          rintro _ ⟨⟩
          exact ⟨_, hEnds, hFailure⟩

end Scan

end Frontend
