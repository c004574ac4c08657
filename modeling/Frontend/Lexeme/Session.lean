import Frontend.Lexeme.Scan

/-!
# Reading sessions

A source can be read on demand.  A session has one cursor and any number of lexeme
streams over it: every stream reads from the cursor and moves it, and each remembers by
itself whether a line feed would be idle.  A stream that has come to the end or has
failed is finished, even if other requests leave text for it to read.
-/

namespace Frontend.Scan

open Source (Cursor)

/-- The state of one stream. -/
inductive Stream where
  /-- It goes on; `idle` is its memory of the last line break. -/
  | live (idle : Bool)
  | finished
  deriving DecidableEq, Repr

/-- One cursor and the streams over it, in the order in which they were opened. -/
structure Session where
  cursor : Cursor
  streams : List Stream
  deriving DecidableEq, Repr

/-- A request to a session; streams are named by their index. -/
inductive Request where
  | newStream
  | next (stream : Nat)
  | drain (stream : Nat)
  | readAll
  | peek
  | advance
  | atEnd
  deriving DecidableEq, Repr

/-- The answer to a request. -/
inductive Answer where
  | stream (index : Nat)
  | lexeme (lexeme : Lexeme)
  | stop
  | drained (lexemes : List Lexeme) (failure : Option Failure)
  | lexemes (lexemes : List Lexeme)
  | character (c : Option Char)
  | ended (atEnd : Bool)
  | failed (failure : Failure)
  deriving DecidableEq, Repr

/-- An outcome of a complete reading as an answer. -/
def Answer.ofOutcome : Except Failure (List Lexeme) → Answer
  | .ok found => .lexemes found
  | .error failure => .failed failure

namespace Session

/-- A session at the start of a source, without streams. -/
def ofSource (source : String) : Session := ⟨Cursor.ofText source, []⟩

/-- A stream that was never opened counts as finished. -/
def stream (session : Session) (index : Nat) : Stream :=
  session.streams[index]?.getD .finished

/-- The session with the cursor moved and one stream changed. -/
def update (session : Session) (cursor : Cursor) (index : Nat) (stream : Stream) : Session :=
  ⟨cursor, session.streams.set index stream⟩

/-- Takes one lexeme from a stream. -/
def next (session : Session) (index : Nat) : Answer × Session :=
  match session.stream index with
  | .finished => (.stop, session)
  | .live idle =>
    match session.cursor.nextLexeme idle with
    | .lexeme lexeme cursor =>
      (.lexeme lexeme, session.update cursor index (.live (lexeme.kind = .lineBreak)))
    | .ended cursor => (.stop, session.update cursor index .finished)
    | .failed failure cursor => (.failed failure, session.update cursor index .finished)

/-- Takes all lexemes from a stream. -/
def drain (session : Session) (index : Nat) : Answer × Session :=
  match session.stream index with
  | .finished => (.drained [] none, session)
  | .live idle =>
    let result := session.cursor.lexemes idle
    (.drained result.lexemes result.failure, session.update result.cursor index .finished)

/-- Takes all lexemes from a stream made for the purpose. -/
def readAll (session : Session) : Traced Answer × Session :=
  let result := session.cursor.lexemes true
  (⟨.ofOutcome result.outcome, result.traced.log⟩, { session with cursor := result.cursor })

/-- Takes one character. -/
def advance (session : Session) : Answer × Session :=
  match session.cursor.advance with
  | .ok (c, cursor) => (.character (some c), { session with cursor })
  | .error fault => (.failed (.fault fault), session)

/-- Serves one request. -/
def serve (session : Session) : Request → Traced Answer × Session
  | .newStream =>
    (⟨.stream session.streams.length, []⟩,
      { session with streams := session.streams ++ [.live true] })
  | .next index => let (answer, session) := session.next index; (⟨answer, []⟩, session)
  | .drain index => let (answer, session) := session.drain index; (⟨answer, []⟩, session)
  | .readAll => session.readAll
  | .peek => (⟨.character session.cursor.peek?, []⟩, session)
  | .advance => let (answer, session) := session.advance; (⟨answer, []⟩, session)
  | .atEnd => (⟨.ended session.cursor.atEnd, []⟩, session)

/-- Serves requests in turn; each entry has the answer and the session after it. -/
def transcript (session : Session) : List Request → List (Traced Answer × Session)
  | [] => []
  | request :: requests =>
    let entry := session.serve request
    entry :: entry.2.transcript requests

end Session

end Frontend.Scan
