import Frontend.Proofs.Lexeme.Sessions

/-!
# Streams read in turns

The streams of a session share its cursor but not their idle bits, so which line breaks
are yielded depends on whose turn it is.  Nothing else does.  An `Account` is what is
heard of a reading: the lexemes in their order and the failure that ends them, if any.
Accounts are put one after the other, and nothing is heard after a failure.

What lies ahead of a cursor is the account of a single pass from there on, without line
breaks, and that is the same whatever the idle bit is (`ahead_eq`).  Serving a request
that leaves no character unread divides what lies ahead into what the request yields and
what lies ahead afterwards (`Serves.ahead_eq`).  So along every schedule what was heard
and what is still ahead make up the single pass over the source (`ahead_heard`), from
which the main result is read off (`interleaving_keeps_lexemes`).
-/

namespace Frontend.Scan

open Source (Place Cursor)

/-! ## Accounts -/

/-- Lexemes in the order in which they are yielded, and the failure that ends them. -/
structure Account where
  lexemes : List Lexeme
  failure : Option Failure
  deriving DecidableEq, Repr

/-- The lexemes other than line breaks. -/
def solid (lexemes : List Lexeme) : List Lexeme :=
  lexemes.filter fun lexeme => lexeme.kind ≠ .lineBreak

@[simp]
theorem solid_append (first second : List Lexeme) :
    solid (first ++ second) = solid first ++ solid second :=
  List.filter_append ..

namespace Account

/-- Nothing was heard. -/
def silent : Account := ⟨[], none⟩

/-- One account and then another, of which nothing is heard if the first ends with a
failure. -/
def followedBy (first second : Account) : Account :=
  match first.failure with
  | some _ => first
  | none => ⟨first.lexemes ++ second.lexemes, second.failure⟩

/-- The account without line breaks. -/
def ofSolid (account : Account) : Account := ⟨solid account.lexemes, account.failure⟩

private theorem followedBy_of_failed {first : Account} {failure : Failure}
    (hFailed : first.failure = some failure) (second : Account) :
    first.followedBy second = first := by
  simp only [followedBy, hFailed]

private theorem followedBy_of_going {first : Account} (hGoing : first.failure = none)
    (second : Account) :
    first.followedBy second = ⟨first.lexemes ++ second.lexemes, second.failure⟩ := by
  simp only [followedBy, hGoing]

private theorem followedBy_assoc (first second third : Account) :
    (first.followedBy second).followedBy third = first.followedBy (second.followedBy third) := by
  cases hFirst : first.failure with
  | some failure => simp only [followedBy, hFirst]
  | none =>
      cases hSecond : second.failure with
      | some failure => simp only [followedBy, hFirst, hSecond]
      | none => simp only [followedBy, hFirst, hSecond, List.append_assoc]

private theorem ofSolid_followedBy (first second : Account) :
    (first.followedBy second).ofSolid = first.ofSolid.followedBy second.ofSolid := by
  cases hFirst : first.failure with
  | some failure => simp only [followedBy, ofSolid, hFirst]
  | none => simp only [followedBy, ofSolid, hFirst, solid_append]

end Account

/-- What is heard of a complete reading. -/
def Result.account (result : Result) : Account := ⟨result.lexemes, result.failure⟩

/-- What is heard in an answer. -/
def Answer.account (answer : Answer) : Account := ⟨answer.yielded, answer.failure?⟩

/-- What is heard in several answers, up to the first failure. -/
def heard (answers : List Answer) : Account :=
  answers.foldr (fun answer later => answer.account.followedBy later) .silent

/-! ## What lies ahead of a cursor -/

/-- What a single pass from a cursor on yields, without line breaks. -/
def ahead (cursor : Cursor) : Account := (cursor.lexemes true).account.ofSolid

/-- The idle bit decides on line breaks only. -/
private theorem ofSolid_all (idle : Bool) (place : Place) (segments : List (List Char)) :
    (all idle place segments).account.ofSolid = (all true place segments).account.ofSolid := by
  induction segments generalizing place with
  | nil => rfl
  | cons piece rest ih =>
      rw [all, all, step, step]
      cases Reading.of piece with
      | lexeme kind value => rfl
      | lineBreak =>
          -- The line break that is yielded is left out, and both passes go on idle.
          cases idle with
          | true => rfl
          | false => rfl
      | space => exact ih (place.pass piece)
      | problem problem => rfl
      | fault fault => rfl

private theorem ahead_eq (idle : Bool) (cursor : Cursor) :
    ahead cursor = (cursor.lexemes idle).account.ofSolid :=
  (ofSolid_all idle cursor.place (pieces cursor.rest)).symm

/-- Where nothing is left, nothing lies ahead. -/
private theorem ahead_of_rest_eq_nil {cursor : Cursor} (hRest : cursor.rest = []) :
    ahead cursor = .silent := by
  rw [ahead, Cursor.lexemes, hRest]
  rfl

private theorem ofSolid_cons (lexeme : Lexeme) (result : Result) :
    (result.cons lexeme).account.ofSolid =
      Account.followedBy ⟨solid [lexeme], none⟩ result.account.ofSolid := by
  show (⟨solid ([lexeme] ++ result.lexemes), result.failure⟩ : Account) = _
  rw [solid_append]
  rfl

/-! ## Schedules -/

/-- Requests that take whole lexemes and report all that they take. -/
def Request.isLazy : Request → Bool
  | .readAll | .advance => false
  | _ => true

/-- **One request** divides what lies ahead. -/
theorem Serves.ahead_eq {session : Session} {request : Request} {answer : Answer} {cursor : Cursor}
    (hServes : Serves session request answer cursor) (hLazy : request.isLazy = true) :
    ahead session.cursor = answer.account.ofSolid.followedBy (ahead cursor) := by
  cases hServes with
  | opened | stopped | drainedNothing | peeked | asked => rfl
  | @lexeme index idle lexeme cursor _ hNext =>
      have hReads := readsOn_iff.1 (.lexeme hNext (readsOn_lexemes _ cursor))
      rw [Scan.ahead_eq idle, hReads, ofSolid_cons, ← Scan.ahead_eq]
      rfl
  | @ended index idle cursor _ hNext =>
      have hReads := readsOn_iff.1 (.ended hNext)
      rw [Scan.ahead_eq idle, hReads, ahead_of_rest_eq_nil (rest_of_ended hNext)]
      rfl
  | @failed index idle failure cursor _ hNext =>
      have hReads := readsOn_iff.1 (.failed hNext)
      rw [Scan.ahead_eq idle, hReads]
      rfl
  | @drained index idle result _ hReads =>
      rw [Scan.ahead_eq idle, readsOn_iff.1 hReads]
      show result.account.ofSolid = result.account.ofSolid.followedBy (ahead result.cursor)
      cases hFailure : result.failure with
      | some failure => exact (Account.followedBy_of_failed hFailure _).symm
      | none =>
          rw [ahead_of_rest_eq_nil (hReads.rest_eq_nil hFailure),
            Account.followedBy_of_going hFailure]
          simp [Account.silent, Account.ofSolid, Result.account, hFailure]
  | readAll | advanced | exhausted => cases hLazy

/-- The answers of a transcript. -/
def answers (session : Session) (requests : List Request) : List Answer :=
  (session.transcript requests).map fun entry => entry.1.result

/-- **A schedule** divides what lies ahead into what is heard and what lies ahead at its
end. -/
theorem ahead_heard (session : Session) {requests : List Request}
    (hLazy : ∀ request ∈ requests, request.isLazy = true) :
    ahead session.cursor = (heard (answers session requests)).ofSolid.followedBy
      (ahead (stateAfter Session.serve session requests).cursor) := by
  induction requests generalizing session with
  | nil => rfl
  | cons request requests ih =>
      obtain ⟨hFirst, hRest⟩ := List.forall_mem_cons.1 hLazy
      rw [(serve_serves session request).ahead_eq hFirst, ih (session.serve request).2 hRest,
        ← Account.followedBy_assoc, ← Account.ofSolid_followedBy]
      rfl

/-- **Streams read in turns** neither lose nor repeat a lexeme.  Whatever the turns are,
what they yield up to the first failure begins what a single pass yields, line breaks
apart.  It is all of that once the cursor has reached the end, and also if there is a
failure, which is then the failure of the single pass. -/
theorem interleaving_keeps_lexemes (source : String) (requests : List Request)
    (hLazy : ∀ request ∈ requests, request.isLazy = true) :
    let turns := heard (answers (Session.ofSource source) requests)
    let final := stateAfter Session.serve (Session.ofSource source) requests
    solid turns.lexemes <+: solid (scan source).lexemes ∧
    (turns.failure = none → final.cursor.atEnd = true →
      ∃ lexemes, lex source = .ok lexemes ∧ solid turns.lexemes = solid lexemes) ∧
    ∀ failure, turns.failure = some failure →
      lex source = .error failure ∧ solid turns.lexemes = solid (scan source).lexemes := by
  intro turns final
  have hAhead : (scan source).account.ofSolid = turns.ofSolid.followedBy (ahead final.cursor) :=
    ahead_heard (Session.ofSource source) hLazy
  have hLexemes : solid (scan source).lexemes =
      (turns.ofSolid.followedBy (ahead final.cursor)).lexemes :=
    congrArg Account.lexemes hAhead
  have hFailure : (scan source).failure =
      (turns.ofSolid.followedBy (ahead final.cursor)).failure :=
    congrArg Account.failure hAhead
  cases hTurns : turns.ofSolid.failure with
  | some failure =>
      rw [Account.followedBy_of_failed hTurns] at hLexemes hFailure
      refine ⟨hLexemes ▸ List.prefix_rfl, ?_, ?_⟩
      · intro hGoing
        cases hTurns.symm.trans hGoing
      · intro reported hFailed
        exact ⟨Result.outcome_eq_error_iff.2 (hFailure.trans hFailed), hLexemes.symm⟩
  | none =>
      rw [Account.followedBy_of_going hTurns] at hLexemes hFailure
      refine ⟨hLexemes ▸ List.prefix_append _ _, ?_, ?_⟩
      · intro _ hEnd
        rw [Cursor.atEnd, List.isEmpty_iff] at hEnd
        rw [ahead_of_rest_eq_nil hEnd] at hLexemes hFailure
        refine ⟨(scan source).lexemes, Result.outcome_eq_ok_iff.2 ⟨hFailure, rfl⟩, ?_⟩
        exact (List.append_nil _).symm.trans hLexemes.symm
      · intro failure hFailed
        cases hTurns.symm.trans hFailed

/-- Two streams, which take a lexeme each and are then drained. -/
def twoStreams : List Request :=
  [.newStream, .newStream, .next 0, .next 1, .drain 0, .drain 1]

/-- The answers to the requests of the two streams. -/
def twoStreamsAnswers (source : String) : List Answer :=
  answers (Session.ofSource source) twoStreams

/-- The first source is read to its end by the first drain.  The line break after `a` is
idle for the second stream, so one lexeme less is yielded than in a single pass, and the
others are the same.  On the second source that drain yields a lexeme and fails, with
the failure of the single pass. -/
theorem twoStreams_keep_lexemes :
    (∀ request ∈ twoStreams, request.isLazy = true) ∧
    (twoStreamsAnswers "a\n\nb 1")[4]? =
      some (.drained [⟨.integer, "1", ⟨2, 2, 1⟩, .integer 1⟩] none) ∧
    (heard (twoStreamsAnswers "a\n\nb 1")).lexemes.length = 3 ∧
    (scan "a\n\nb 1").lexemes.length = 4 ∧
    (∃ lexemes, lex "a\n\nb 1" = .ok lexemes ∧
      solid (heard (twoStreamsAnswers "a\n\nb 1")).lexemes = solid lexemes) ∧
    (twoStreamsAnswers "a\nb 1@")[4]? =
      some (.drained [⟨.integer, "1", ⟨1, 2, 1⟩, .integer 1⟩]
        (some (.diagnostic ⟨.unrecognisedToken "@", ⟨1, 3, 1⟩⟩))) ∧
    lex "a\nb 1@" = .error (.diagnostic ⟨.unrecognisedToken "@", ⟨1, 3, 1⟩⟩) ∧
    solid (heard (twoStreamsAnswers "a\nb 1@")).lexemes = solid (scan "a\nb 1@").lexemes := by
  have hLazy : ∀ request ∈ twoStreams, request.isLazy = true := by decide
  obtain ⟨_, hReached, _⟩ := interleaving_keeps_lexemes "a\n\nb 1" twoStreams hLazy
  obtain ⟨_, _, hStopped⟩ := interleaving_keeps_lexemes "a\nb 1@" twoStreams hLazy
  exact ⟨hLazy, rfl, rfl, rfl, hReached rfl rfl, rfl, hStopped _ rfl⟩

end Frontend.Scan
