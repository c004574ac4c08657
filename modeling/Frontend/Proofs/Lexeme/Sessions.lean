import Frontend.Lexeme.Session
import Frontend.Proofs.Lexeme.Cursors
import Frontend.Proofs.Lexeme.Tiling
import Frontend.Proofs.Transcript

/-!
# The cursor of a reading session

A session has one cursor, which all its streams move.  `Serves` lists what the session
can do with a request, with the answer and the cursor afterwards; the streams enter only
through their idle bits.

Whatever is requested, the cursor stays a place in the source: it never goes back, and
its line and column are those of its offset (`Cursor.StandsIn`).  What a request finds
lies between the cursor before it and the cursor at the moment at which it is found
(`MadeAt`).  A request that takes several lexemes has several such moments, which
`Session.Yields` makes visible.

The main result says this of every entry of every transcript (`session_keeps_cursor`),
so it covers streams that are read in turns, characters that are taken from the middle
of a word, and readings that begin again after a failure.
-/

namespace Frontend

open Source (Place Cursor)

/-! ## What stands where -/

/-- A cursor stands in a text: its offset is within the text, the rest of the text is
what it has left, and its line and column are those of the offset. -/
structure Source.Cursor.StandsIn (cursor : Cursor) (text : List Char) : Prop where
  offset_le : cursor.place.offset ≤ text.length
  rest : cursor.rest = text.drop cursor.place.offset
  line : cursor.place.line = (text.take cursor.place.offset).count '\n'
  column : ∃ start, LineStart text cursor.place.offset start ∧
    cursor.place.column = cursor.place.offset - start

/-- What is shown with a span was made while reading on from a cursor.  It is what the
text has at an offset that is not before the cursor, and the cursor had moved on to its
end, `now`, when it was made.  The length of the span can therefore be measured as the
distance of the two columns, except that a line feed, after which the column is zero,
always has length one. -/
structure Scan.MadeAt (text : List Char) (start now : Cursor) (offset : Nat) (shown : List Char)
    (span : Span) : Prop where
  later : start.place.offset ≤ offset
  ends : offset + span.length = now.place.offset
  slice : (text.drop offset).take span.length = shown
  line : span.line = (text.take offset).count '\n'
  column : ∃ lineStart, LineStart text offset lineStart ∧ span.column = offset - lineStart
  measured : if shown = ['\n'] then span.length = 1
    else Span.ofFields span.line span.column (now.place.column - span.column) = .ok span

theorem Source.Cursor.StandsAfter.standsIn {cursor : Cursor} {text before : List Char}
    (hStands : cursor.StandsAfter text before) : cursor.StandsIn text := by
  have hOffset := hStands.offset_eq
  have hTake : text.take cursor.place.offset = before := by
    rw [hOffset, hStands.parts, List.take_left]
  obtain ⟨start, hStart, hColumn⟩ := lineStart_place before cursor.rest
  rw [← hStands.parts, ← hOffset] at hStart
  refine ⟨?_, ?_, ?_, ⟨start, hStart, ?_⟩⟩
  · rw [hOffset, hStands.length_eq]
    omega
  · rw [hOffset]
    nth_rewrite 1 [hStands.parts]
    rw [List.drop_left]
  · rw [hTake, hStands.place, Source.line_start_pass]
  · rw [hOffset, hStands.place, hColumn]

namespace Scan

/-- The columns before and after a piece tell its length, if the piece is on one
line. -/
theorem ofFields_spanAt {piece : List Char} (hLine : '\n' ∉ piece) (place : Place) :
    Span.ofFields place.line place.column ((place.pass piece).column - place.column) =
      .ok (spanAt place piece) := by
  have hColumn := Place.column_pass_of_notMem place hLine
  have hLength : (((place.pass piece).column : Nat) : Int) - place.column = piece.length := by
    rw [hColumn]
    omega
  rw [hLength]
  exact Span.ofFields_cast (spanAt place piece)

/-- **A piece that a reading ends with** is made at the moment when the cursor is past
it. -/
theorem Cut.EndsAt.madeAt {cut : Cut} {text before : List Char} {start now : Cursor}
    (hEnds : cut.EndsAt text before now) (hStart : start.StandsAfter text before) :
    MadeAt text start now cut.before.length cut.piece (spanAt cut.place cut.piece) := by
  have hParts : text = cut.before ++ (cut.piece ++ now.rest) := by
    rw [hEnds.stands.parts, List.append_assoc]
  obtain ⟨lineStart, hLine, hColumn⟩ := lineStart_place cut.before (cut.piece ++ now.rest)
  rw [← hParts] at hLine
  refine ⟨?_, ?_, ?_, ?_, ⟨lineStart, hLine, hColumn⟩, ?_⟩
  · rw [hStart.offset_eq]
    exact hEnds.later.length_le
  · rw [hEnds.stands.offset_eq, List.length_append]
    rfl
  · show (text.drop cut.before.length).take cut.piece.length = cut.piece
    rw [hParts, List.drop_left, List.take_left]
  · rw [hParts, List.take_left]
    exact Source.line_start_pass cut.before
  · by_cases hFeed : cut.piece = ['\n']
    · rw [if_pos hFeed, hFeed]
      rfl
    · rw [if_neg hFeed, hEnds.stands.place, Place.pass_append]
      exact ofFields_spanAt (hEnds.piece.feed_notMem hFeed) cut.place

/-! ## What a session does with a request -/

/-- The lexemes of an answer. -/
def Answer.yielded : Answer → List Lexeme
  | .lexeme found => [found]
  | .drained found _ | .lexemes found => found
  | _ => []

/-- The failure of an answer. -/
def Answer.failure? : Answer → Option Failure
  | .failed reason => some reason
  | .drained _ reason => reason
  | _ => none

/-- What a session can do with a request: the answer, and the cursor afterwards. -/
inductive Serves (session : Session) : Request → Answer → Cursor → Prop where
  | opened : Serves session .newStream (.stream session.streams.length) session.cursor
  | stopped {index : Nat} (hStream : session.stream index = .finished) :
      Serves session (.next index) .stop session.cursor
  | lexeme {index : Nat} {idle : Bool} {lexeme : Lexeme} {cursor : Cursor}
      (hStream : session.stream index = .live idle)
      (hNext : session.cursor.nextLexeme idle = .lexeme lexeme cursor) :
      Serves session (.next index) (.lexeme lexeme) cursor
  | ended {index : Nat} {idle : Bool} {cursor : Cursor}
      (hStream : session.stream index = .live idle)
      (hNext : session.cursor.nextLexeme idle = .ended cursor) :
      Serves session (.next index) .stop cursor
  | failed {index : Nat} {idle : Bool} {failure : Failure} {cursor : Cursor}
      (hStream : session.stream index = .live idle)
      (hNext : session.cursor.nextLexeme idle = .failed failure cursor) :
      Serves session (.next index) (.failed failure) cursor
  | drainedNothing {index : Nat} (hStream : session.stream index = .finished) :
      Serves session (.drain index) (.drained [] none) session.cursor
  | drained {index : Nat} {idle : Bool} {result : Result}
      (hStream : session.stream index = .live idle)
      (hReads : ReadsOn idle session.cursor result) :
      Serves session (.drain index) (.drained result.lexemes result.failure) result.cursor
  | readAll {result : Result} (hReads : ReadsOn true session.cursor result) :
      Serves session .readAll (.ofOutcome result.outcome) result.cursor
  | peeked : Serves session .peek (.character session.cursor.peek?) session.cursor
  | advanced {c : Char} {cursor : Cursor} (hAdvance : session.cursor.advance = .ok (c, cursor)) :
      Serves session .advance (.character (some c)) cursor
  | exhausted (hRest : session.cursor.rest = []) :
      Serves session .advance (.failed (.fault .textExhausted)) session.cursor
  | asked : Serves session .atEnd (.ended session.cursor.atEnd) session.cursor

/-- **What a session does** is listed. -/
theorem serve_serves (session : Session) (request : Request) :
    Serves session request (session.serve request).1.result (session.serve request).2.cursor := by
  cases request with
  | newStream => exact .opened
  | next index =>
      show Serves session _ (session.next index).1 (session.next index).2.cursor
      unfold Session.next
      cases hStream : session.stream index with
      | finished => exact .stopped hStream
      | live idle =>
          dsimp only
          cases hNext : session.cursor.nextLexeme idle with
          | lexeme lexeme cursor => exact .lexeme hStream hNext
          | ended cursor => exact .ended hStream hNext
          | failed failure cursor => exact .failed hStream hNext
  | drain index =>
      show Serves session _ (session.drain index).1 (session.drain index).2.cursor
      unfold Session.drain
      cases hStream : session.stream index with
      | finished => exact .drainedNothing hStream
      | live idle => exact .drained hStream (readsOn_lexemes idle session.cursor)
  | readAll => exact .readAll (readsOn_lexemes true session.cursor)
  | peek => exact .peeked
  | advance =>
      show Serves session _ session.advance.1 session.advance.2.cursor
      unfold Session.advance
      cases hAdvance : session.cursor.advance with
      | ok taken => exact .advanced hAdvance
      | error fault =>
          unfold Cursor.advance at hAdvance
          cases hRest : session.cursor.rest with
          | nil =>
              rw [hRest] at hAdvance
              cases hAdvance
              exact .exhausted hRest
          | cons c rest =>
              rw [hRest] at hAdvance
              cases hAdvance
  | atEnd => exact .asked

/-- While a request is served, a lexeme is yielded, and the cursor is `now` at that
moment. -/
inductive Session.Yields (session : Session) : Request → Lexeme → Cursor → Prop where
  | next {index : Nat} {lexeme : Lexeme} {after : Session}
      (hNext : session.next index = (.lexeme lexeme, after)) :
      Yields session (.next index) lexeme after.cursor
  | drain {index : Nat} {idle : Bool} {lexeme : Lexeme} {now : Cursor}
      (hStream : session.stream index = .live idle)
      (hYields : YieldsAt idle session.cursor lexeme now) :
      Yields session (.drain index) lexeme now
  | readAll {lexeme : Lexeme} {now : Cursor} (hYields : YieldsAt true session.cursor lexeme now) :
      Yields session .readAll lexeme now

/-- What a request does keeps the cursor in a text, and what it finds is in the text
where it says. -/
structure KeepsCursor (text : List Char) (session : Session) (request : Request) (answer : Answer)
    (cursor : Cursor) : Prop where
  stood : session.cursor.StandsIn text
  stands : cursor.StandsIn text
  forward : session.cursor.place.offset ≤ cursor.place.offset
  found : ∀ lexeme ∈ answer.yielded, ∃ now, session.Yields request lexeme now
  placed : ∀ lexeme now, session.Yields request lexeme now →
    ∃ offset, MadeAt text session.cursor now offset lexeme.text.toList lexeme.span
  reported : ∀ diagnostic, answer.failure? = some (.diagnostic diagnostic) →
    ∃ raw offset, diagnostic.problem.raw? = some raw ∧
      MadeAt text session.cursor cursor offset raw.toList diagnostic.span
  exhausted : answer.failure? = some (.fault .textExhausted) ↔
    request = .advance ∧ session.cursor.atEnd = true
  unmoved : answer.failure? = some (.fault .textExhausted) → cursor = session.cursor

section Serves

variable {session : Session} {request : Request} {answer : Answer} {cursor : Cursor}
  {text before : List Char}

/-- The cursor stays in the text and never goes back. -/
private theorem Serves.forward (hServes : Serves session request answer cursor)
    (hStands : session.cursor.StandsAfter text before) :
    ∃ after, before <+: after ∧ cursor.StandsAfter text after := by
  cases hServes with
  | opened | stopped | drainedNothing | peeked | exhausted | asked =>
      exact ⟨before, List.prefix_rfl, hStands⟩
  | @lexeme index idle lexeme cursor _ hNext =>
      have hFinds := nextLexeme_finds hStands idle
      rw [hNext] at hFinds
      cases hFinds with
      | lexeme hEnds => exact ⟨_, hEnds.prefix_end, hEnds.stands⟩
  | @ended index idle cursor _ hNext =>
      have hFinds := nextLexeme_finds hStands idle
      rw [hNext] at hFinds
      cases hFinds with
      | ended hEnd => exact ⟨text, hStands.parts ▸ List.prefix_append _ _, hEnd⟩
  | @failed index idle failure cursor _ hNext =>
      have hFinds := nextLexeme_finds hStands idle
      rw [hNext] at hFinds
      cases hFinds with
      | failed hEnds => exact ⟨_, hEnds.prefix_end, hEnds.stands⟩
  | drained _ hReads | readAll hReads => exact (hReads.stopsAfter hStands).stands
  | advanced hAdvance => exact ⟨_, List.prefix_append _ _, hStands.advance hAdvance⟩

/-- A failure is that of the piece with which the request ends, or there was nothing to
take. -/
private theorem Serves.failed_cases (hServes : Serves session request answer cursor)
    (hStands : session.cursor.StandsAfter text before) {failure : Failure}
    (hFailure : answer.failure? = some failure) :
    (∃ cut : Cut, cut.EndsAt text before cursor ∧ Reports cut failure) ∨
      (failure = .fault .textExhausted ∧ request = .advance ∧ session.cursor.rest = [] ∧
        cursor = session.cursor) := by
  cases hServes with
  | opened | stopped | lexeme | ended | drainedNothing | peeked | advanced | asked => cases hFailure
  | @failed index idle failure cursor _ hNext =>
      cases hFailure
      have hFinds := nextLexeme_finds hStands idle
      rw [hNext] at hFinds
      cases hFinds with
      | failed hEnds hCause => exact Or.inl ⟨_, hEnds, reports_of_failure? hEnds.piece hCause⟩
  | drained _ hReads =>
      obtain ⟨cut, hEnds, hCause⟩ := (hReads.stopsAfter hStands).failed _ hFailure
      exact Or.inl ⟨cut, hEnds, reports_of_failure? hEnds.piece hCause⟩
  | @readAll result hReads =>
      cases hCase : result.failure with
      | none =>
          rw [Result.outcome, hCase] at hFailure
          cases hFailure
      | some other =>
          rw [Result.outcome, hCase] at hFailure
          cases hFailure
          obtain ⟨cut, hEnds, hCause⟩ := (hReads.stopsAfter hStands).failed _ hCase
          exact Or.inl ⟨cut, hEnds, reports_of_failure? hEnds.piece hCause⟩
  | exhausted hRest =>
      cases hFailure
      exact Or.inr ⟨rfl, rfl, hRest, rfl⟩

/-- Every lexeme of an answer was yielded at some moment. -/
theorem Serves.exists_moment (hServes : Serves session request answer cursor) :
    ∀ lexeme ∈ answer.yielded, ∃ now, session.Yields request lexeme now := by
  intro found hFound
  cases hServes with
  | opened | stopped | ended | failed | drainedNothing | peeked | advanced | exhausted | asked =>
      cases hFound
  | @lexeme index idle lexeme cursor hStream hNext =>
      have hTaken : session.next index =
          (.lexeme lexeme, session.update cursor index (.live (lexeme.kind = .lineBreak))) := by
        simp only [Session.next, hStream, hNext]
      cases List.mem_singleton.1 hFound
      exact ⟨_, .next hTaken⟩
  | drained hStream hReads =>
      obtain ⟨now, hYields⟩ := hReads.exists_moment found hFound
      exact ⟨now, .drain hStream hYields⟩
  | @readAll result hReads =>
      cases hCase : result.failure with
      | none =>
          rw [Result.outcome, hCase] at hFound
          obtain ⟨now, hYields⟩ := hReads.exists_moment found hFound
          exact ⟨now, .readAll hYields⟩
      | some other =>
          rw [Result.outcome, hCase] at hFound
          cases hFound

/-- What is yielded at a moment is the lexeme of a cut that ends there. -/
theorem Session.Yields.endsAt {lexeme : Lexeme} {now : Cursor}
    (hYields : session.Yields request lexeme now)
    (hStands : session.cursor.StandsAfter text before) :
    ∃ cut : Cut, cut.EndsAt text before now ∧ cut.lexeme? = some lexeme := by
  cases hYields with
  | @next index lexeme after hNext =>
      unfold Session.next at hNext
      cases hStream : session.stream index with
      | finished =>
          rw [hStream] at hNext
          cases hNext
      | live idle =>
          rw [hStream] at hNext
          cases hFound : session.cursor.nextLexeme idle with
          | lexeme found cursor =>
              simp only [hFound, Prod.mk.injEq, Answer.lexeme.injEq] at hNext
              obtain ⟨rfl, rfl⟩ := hNext
              exact (YieldsAt.first hFound).endsAt hStands
          | ended | failed =>
              simp only [hFound, Prod.mk.injEq, reduceCtorEq, false_and] at hNext
  | drain _ hMoment | readAll hMoment => exact hMoment.endsAt hStands

/-- **One request.**  Whatever a session does with a request keeps the cursor in the
text. -/
theorem Serves.keepsCursor (hServes : Serves session request answer cursor)
    (hStands : session.cursor.StandsAfter text before) :
    KeepsCursor text session request answer cursor := by
  obtain ⟨after, hLater, hAfter⟩ := hServes.forward hStands
  refine ⟨hStands.standsIn, hAfter.standsIn, ?_, hServes.exists_moment, ?_, ?_, ⟨?_, ?_⟩, ?_⟩
  · rw [hStands.offset_eq, hAfter.offset_eq]
    exact hLater.length_le
  · intro lexeme now hYields
    obtain ⟨cut, hEnds, hLexeme⟩ := hYields.endsAt hStands
    obtain ⟨hText, hSpan, _⟩ := spelling_of_lexeme? hEnds.piece hLexeme
    refine ⟨cut.before.length, ?_⟩
    rw [hText, hSpan, String.toList_ofList]
    exact hEnds.madeAt hStands
  · intro diagnostic hFailure
    rcases hServes.failed_cases hStands hFailure with ⟨cut, hEnds, hReports⟩ | ⟨hFault, _⟩
    · cases hReports with
      | diagnostic _ hRaw =>
          refine ⟨_, cut.before.length, hRaw, ?_⟩
          rw [String.toList_ofList]
          exact hEnds.madeAt hStands
    · cases hFault
  · intro hFailure
    rcases hServes.failed_cases hStands hFailure with ⟨cut, _, hReports⟩ | ⟨_, hRequest, hRest, _⟩
    · cases hReports
    · exact ⟨hRequest, by rw [Cursor.atEnd, hRest]; rfl⟩
  · rintro ⟨rfl, hEnd⟩
    cases hServes with
    | exhausted => rfl
    | advanced hAdvance =>
        rw [Cursor.atEnd, List.isEmpty_iff] at hEnd
        rw [Cursor.advance, hEnd] at hAdvance
        cases hAdvance
  · intro hFailure
    rcases hServes.failed_cases hStands hFailure with ⟨cut, _, hReports⟩ | ⟨_, _, _, hSame⟩
    · cases hReports
    · exact hSame

end Serves

/-! ## Whole sessions -/

/-- After any requests the cursor stands in the source. -/
theorem stateAfter_standsAfter (source : String) (requests : List Request) :
    ∃ before, (stateAfter Session.serve (Session.ofSource source) requests).cursor.StandsAfter
      source.toList before := by
  apply stateAfter_kept fun session : Session =>
    ∃ before, session.cursor.StandsAfter source.toList before
  · rintro session request ⟨before, hStands⟩
    obtain ⟨after, _, hAfter⟩ := (serve_serves session request).forward hStands
    exact ⟨after, hAfter⟩
  · exact ⟨[], Cursor.standsAfter_ofText source⟩

/-- **The cursor of a session.**  Each request of a session on a source, whatever the
requests before it were and however they ended, moves the cursor forward in the source
or leaves it, and places what it finds between the cursor before it and the cursor at
the moment of finding. -/
theorem session_keeps_cursor (source : String) (requests : List Request) {index : Nat}
    {request : Request} (hRequest : requests[index]? = some request) :
    let session := stateAfter Session.serve (Session.ofSource source) (requests.take index)
    let entry := session.serve request
    ((Session.ofSource source).transcript requests)[index]? = some entry ∧
      KeepsCursor source.toList session request entry.1.result entry.2.cursor := by
  intro session entry
  have hEntry : ((Session.ofSource source).transcript requests)[index]? =
      requests[index]?.map session.serve :=
    getElem?_transcript (fun _ => rfl) (fun _ _ _ => rfl) (Session.ofSource source) requests index
  rw [hRequest] at hEntry
  obtain ⟨before, hStands⟩ := stateAfter_standsAfter source (requests.take index)
  exact ⟨hEntry, (serve_serves session request).keepsCursor hStands⟩

/-- A source that is wrong at its end. -/
def brokenWord : String := "ab\n1@"

/-- The first letter is taken by itself, and a stream reads on from there. -/
def brokenRequests : List Request := [.newStream, .advance, .next 0, .drain 0, .advance]

/-- The session when the stream is to be drained. -/
def brokenSession : Session :=
  stateAfter Session.serve (Session.ofSource brokenWord) (brokenRequests.take 3)

/-- What is left of the word is a word, and draining the stream ends behind the
character that begins no lexeme. -/
theorem brokenWord_keeps_cursor :
    brokenRequests[3]? = some (.drain 0) ∧
    ((Session.ofSource brokenWord).transcript brokenRequests)[3]? =
      some (brokenSession.serve (.drain 0)) ∧
    brokenSession.cursor = ⟨⟨2, 0, 2⟩, ['\n', '1', '@']⟩ ∧
    (brokenSession.serve (.drain 0)).1.result =
      .drained [⟨.lineBreak, "\n", ⟨0, 2, 1⟩, .absent⟩, ⟨.integer, "1", ⟨1, 0, 1⟩, .integer 1⟩]
        (some (.diagnostic ⟨.unrecognisedToken "@", ⟨1, 1, 1⟩⟩)) ∧
    (brokenSession.serve (.drain 0)).2.cursor = ⟨⟨5, 1, 2⟩, []⟩ ∧
    KeepsCursor brokenWord.toList brokenSession (.drain 0)
      (brokenSession.serve (.drain 0)).1.result (brokenSession.serve (.drain 0)).2.cursor := by
  have hRequest : brokenRequests[3]? = some (.drain 0) := rfl
  obtain ⟨hEntry, hKeeps⟩ := session_keeps_cursor brokenWord brokenRequests hRequest
  exact ⟨hRequest, hEntry, rfl, rfl, rfl, hKeeps⟩

end Scan

end Frontend
