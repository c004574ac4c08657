import Frontend.Program.Session
import Frontend.Proofs.Program.Viability
import Frontend.Proofs.Transcript

/-!
# The queue of a parsing session

A session works on one queue, and a request finds it wherever the requests before it
left it: in the middle of a statement, or at a lexeme that was refused.  Still the queue
is always what is left of the lexemes that the session began with, and it remembers the
last of those that are gone (`Queue.StandsAfter`).

Work on a queue is built from taking one lexeme, from running the machine, and from
doing one thing after the other.  Each of these keeps account of the queue
(`Reply.Accounts`): what was consumed was in front, and a diagnostic points to where the
queue is left (`Locates`).  All requests are covered by that, apart from the one that
can fail without a diagnostic (`serve_serves`), and so are all sessions
(`session_keeps_queue`).
-/

namespace Frontend

namespace Parsing

/-! ## What is consumed -/

/-- The queue is what is left of some lexemes after the first of them are consumed. -/
structure Queue.StandsAfter (queue : Queue) (lexemes consumed : List Lexeme) : Prop where
  parts : lexemes = consumed ++ queue.rest
  last : queue.last = consumed.getLast?

/-- One queue becomes another when some lexemes are consumed. -/
structure Queue.Takes (queue : Queue) (consumed : List Lexeme) (left : Queue) : Prop where
  parts : queue.rest = consumed ++ left.rest
  last : left.last = lastOf queue.last consumed

private theorem lastOf_append (last : Option Lexeme) (first second : List Lexeme) :
    lastOf last (first ++ second) = lastOf (lastOf last first) second := by
  rw [lastOf, lastOf, lastOf, List.getLast?_append, Option.or_assoc]

namespace Queue

theorem Takes.nothing (queue : Queue) : queue.Takes [] queue := ⟨rfl, rfl⟩

theorem Takes.front {queue : Queue} {lexeme : Lexeme} {rest : List Lexeme}
    (hRest : queue.rest = lexeme :: rest) : queue.Takes [lexeme] ⟨some lexeme, rest⟩ :=
  ⟨hRest, rfl⟩

theorem Takes.trans {queue middle left : Queue} {first second : List Lexeme}
    (hFirst : queue.Takes first middle) (hSecond : middle.Takes second left) :
    queue.Takes (first ++ second) left where
  parts := by rw [hFirst.parts, hSecond.parts, List.append_assoc]
  last := by rw [hSecond.last, hFirst.last, lastOf_append]

theorem StandsAfter.takes {queue left : Queue} {lexemes before consumed : List Lexeme}
    (hStands : queue.StandsAfter lexemes before) (hTakes : queue.Takes consumed left) :
    left.StandsAfter lexemes (before ++ consumed) where
  parts := by rw [hStands.parts, hTakes.parts, List.append_assoc]
  last := by rw [hTakes.last, hStands.last, lastOf, List.getLast?_append]

/-- Skipping line breaks consumes them. -/
theorem skipLineBreaks_takes (queue : Queue) :
    ∃ consumed, queue.Takes consumed queue.skipLineBreaks := by
  obtain ⟨last, lexemes⟩ := queue
  show ∃ consumed, Takes ⟨last, lexemes⟩ consumed (skipFrom last lexemes)
  induction lexemes generalizing last with
  | nil => exact ⟨[], .nothing _⟩
  | cons lexeme rest ih =>
      rw [skipFrom]
      split
      case isTrue =>
        obtain ⟨consumed, hTakes⟩ := ih (some lexeme)
        exact ⟨[lexeme] ++ consumed, .trans (.front rfl) hTakes⟩
      case isFalse => exact ⟨[], .nothing _⟩

end Queue

/-! ## Where a diagnostic points -/

/-- A diagnostic points to where the queue is left: to its end if the input ends, to its
first lexeme if that is refused, and to the lexeme before it if that is a name which is
no type. -/
def Locates (queue : Queue) (diagnostic : Diagnostic) : Prop :=
  match diagnostic.problem with
  | .unexpectedEnd _ => queue.rest = [] ∧ diagnostic.span = queue.endSpan
  | .unexpectedLexeme _ _ | .unsupportedSyntax _ =>
      ∃ lexeme, queue.peek? = some lexeme ∧ diagnostic.span = lexeme.span ∧
        Names lexeme diagnostic.problem
  | .unknownType _ =>
      ∃ lexeme, queue.last = some lexeme ∧ diagnostic.span = lexeme.span ∧
        Names lexeme diagnostic.problem
  | .unrecognisedToken _ | .integerOverflow _ | .custom _ _ => False

/-- A refusal of a lexeme names it, and consumes it exactly if it is a name that is no
type. -/
structure IsRefusalOf (lexeme : Lexeme) (refusal : Refusal) : Prop where
  names : Names lexeme refusal.problem
  consumed : taken refusal.problem = refusal.consumed.toNat

/-- A change of what is found does not change why nothing is. -/
private theorem eq_error_of_map {ε β γ : Type} {f : β → γ} {check : Except ε β} {reason : ε}
    (hCheck : check.map f = .error reason) : check = .error reason := by
  cases check with
  | ok found => cases hCheck
  | error other =>
      cases hCheck
      rfl

section Checks

variable {lexeme : Lexeme} {refusal : Refusal} {expected : String}

private theorem Refuses.isRefusalOf {point : Point Span} (hRefuses : Refuses lexeme point refusal) :
    IsRefusalOf lexeme refusal :=
  ⟨hRefuses.names.1, hRefuses.names.2⟩

private theorem isRefusalOf_of_expect {kinds : List Kind}
    (hCheck : lexeme.expect expected kinds = .error refusal) : IsRefusalOf lexeme refusal := by
  obtain ⟨_, rfl⟩ := expect_eq_error_iff.1 hCheck
  exact ⟨rfl, rfl⟩

private theorem isRefusalOf_of_readName (hCheck : lexeme.readName expected = .error refusal) :
    IsRefusalOf lexeme refusal := by
  obtain ⟨_, rfl⟩ := readName_eq_error_iff.1 hCheck
  exact ⟨rfl, rfl⟩

private theorem isRefusalOf_of_readType (hCheck : lexeme.readType expected = .error refusal) :
    IsRefusalOf lexeme refusal := by
  rcases readType_eq_error_iff.1 hCheck with ⟨_, rfl⟩ | ⟨_, _, rfl⟩ <;> exact ⟨rfl, rfl⟩

private theorem isRefusalOf_of_readInteger (hCheck : lexeme.readInteger = .error refusal) :
    IsRefusalOf lexeme refusal := by
  obtain ⟨_, rfl⟩ := readInteger_eq_error_iff.1 hCheck
  exact ⟨Or.inr rfl, rfl⟩

private theorem isRefusalOf_refuseStatement (lexeme : Lexeme) :
    IsRefusalOf lexeme lexeme.refuseStatement :=
  ⟨Or.inl rfl, rfl⟩

end Checks

/-! ## Work on a queue -/

/-- Work on a queue keeps account of it: what it consumes was in front, at least so many
lexemes if it succeeds, and if it fails the diagnostic points to where the queue is
left. -/
structure Reply.Accounts {α : Type} (reply : Reply α) (queue : Queue) (least : Nat) : Prop where
  takes : ∃ consumed, queue.Takes consumed reply.queue ∧
    ∀ found, reply.outcome = .ok found → least ≤ consumed.length
  locates : ∀ diagnostic, reply.outcome = .error diagnostic → Locates reply.queue diagnostic

section Work

variable {α β : Type} {queue left : Queue} {consumed : List Lexeme} {least : Nat}

private theorem accounts_failAtEnd (hTakes : queue.Takes consumed left) (hRest : left.rest = [])
    (expected : String) : (left.failAtEnd expected : Reply α).Accounts queue least where
  takes := ⟨consumed, hTakes, nofun⟩
  locates := by
    intro diagnostic hOutcome
    cases hOutcome
    exact ⟨hRest, rfl⟩

private theorem accounts_failAt {last : Option Lexeme} {lexeme : Lexeme} {rest : List Lexeme}
    {refusal : Refusal} (hTakes : queue.Takes consumed ⟨last, lexeme :: rest⟩)
    (hRefusal : IsRefusalOf lexeme refusal) :
    (Queue.failAt last lexeme rest refusal : Reply α).Accounts queue least := by
  obtain ⟨problem, isConsumed⟩ := refusal
  obtain ⟨hNames, hConsumed⟩ := hRefusal
  cases isConsumed with
  | true =>
      refine ⟨⟨consumed ++ [lexeme], hTakes.trans (.front rfl), nofun⟩, ?_⟩
      intro diagnostic hOutcome
      cases hOutcome
      cases problem with
      | unknownType name => exact ⟨lexeme, rfl, rfl, hNames⟩
      | _ => cases hConsumed
  | false =>
      refine ⟨⟨consumed, hTakes, nofun⟩, ?_⟩
      intro diagnostic hOutcome
      cases hOutcome
      cases problem with
      | unexpectedLexeme | unsupportedSyntax => exact ⟨lexeme, rfl, rfl, hNames⟩
      | unknownType => cases hConsumed
      | unexpectedEnd | unrecognisedToken | integerOverflow | custom => exact hNames.elim

/-- What keeps account from where some lexemes are consumed keeps account with them. -/
theorem Reply.Accounts.after {reply : Reply α} {more : Nat} (hReply : reply.Accounts left more)
    (hTakes : queue.Takes consumed left) (hLeast : least ≤ consumed.length + more) :
    reply.Accounts queue least := by
  obtain ⟨later, hLater, hMore⟩ := hReply.takes
  refine ⟨⟨consumed ++ later, hTakes.trans hLater, ?_⟩, hReply.locates⟩
  intro found hFound
  rw [List.length_append]
  exact Nat.le_trans hLeast (Nat.add_le_add_left (hMore found hFound) consumed.length)

/-- **One thing after the other.** -/
theorem Reply.Accounts.andThen {reply : Reply α} {next : α → Queue → Reply β} {more : Nat}
    (hReply : reply.Accounts queue least)
    (hNext : ∀ found left, (next found left).Accounts left more) :
    (reply.andThen next).Accounts queue (least + more) := by
  obtain ⟨consumed, hTakes, hLeast⟩ := hReply.takes
  unfold Reply.andThen
  cases hOutcome : reply.outcome with
  | ok found =>
      have hTotal : least + more ≤ consumed.length + more :=
        Nat.add_le_add_right (hLeast found hOutcome) more
      exact (hNext found reply.queue).after hTakes hTotal
  | error diagnostic =>
      refine ⟨⟨consumed, hTakes, nofun⟩, ?_⟩
      intro other hOther
      cases hOther
      exact hReply.locates diagnostic hOutcome

theorem Reply.Accounts.map {reply : Reply α} (hReply : reply.Accounts queue least) (f : α → β) :
    (reply.map f).Accounts queue least := by
  obtain ⟨outcome, left⟩ := reply
  obtain ⟨consumed, hTakes, hLeast⟩ := hReply.takes
  cases outcome with
  | ok found => exact ⟨⟨consumed, hTakes, fun _ _ => hLeast found rfl⟩, nofun⟩
  | error diagnostic =>
      refine ⟨⟨consumed, hTakes, nofun⟩, ?_⟩
      intro other hOther
      cases hOther
      exact hReply.locates diagnostic rfl

end Work

/-- **Taking one lexeme**, if a check accepts it. -/
theorem accounts_take {α : Type} (queue : Queue) (expected : String)
    {read : Lexeme → Except Refusal α}
    (hRead : ∀ lexeme refusal, read lexeme = .error refusal → IsRefusalOf lexeme refusal) :
    (queue.take expected read).Accounts queue 1 := by
  unfold Queue.take
  split
  case h_1 hRest => exact accounts_failAtEnd (.nothing queue) hRest expected
  case h_2 lexeme rest hRest =>
    split
    case h_1 found _ => exact ⟨⟨[lexeme], .front hRest, fun _ _ => Nat.le_refl 1⟩, nofun⟩
    case h_2 refusal hRefused =>
      have hHere : queue.Takes [] ⟨queue.last, lexeme :: rest⟩ := ⟨hRest, rfl⟩
      exact accounts_failAt hHere (hRead lexeme refusal hRefused)

theorem accounts_first (queue : Queue) (expected : String) :
    (queue.first expected).Accounts queue 0 := by
  unfold Queue.first
  split
  case h_1 hRest => exact accounts_failAtEnd (.nothing queue) hRest expected
  case h_2 => exact ⟨⟨[], .nothing queue, fun _ _ => Nat.le_refl 0⟩, nofun⟩

theorem accounts_expect (queue : Queue) (kinds : List Kind) (expected : String) :
    (queue.expect kinds expected).Accounts queue 1 :=
  accounts_take queue expected fun _ _ hCheck => isRefusalOf_of_expect (eq_error_of_map hCheck)

theorem accounts_type (queue : Queue) (expected : String) :
    (queue.type expected).Accounts queue 1 :=
  accounts_take queue expected fun _ _ hCheck => isRefusalOf_of_readType hCheck

theorem accounts_expression (queue : Queue) : queue.expression.Accounts queue 1 :=
  accounts_take queue _ fun _ _ hCheck => isRefusalOf_of_readInteger (eq_error_of_map hCheck)

theorem accounts_parameter (queue : Queue) : queue.parameter.Accounts queue 2 := by
  show queue.parameter.Accounts queue (1 + 1)
  unfold Queue.parameter
  refine Reply.Accounts.andThen (accounts_take queue _ ?_) ?_
  · intro lexeme refusal hCheck
    exact isRefusalOf_of_readType (eq_error_of_map hCheck)
  · intro typed left
    exact (accounts_take left _ fun _ _ hCheck => isRefusalOf_of_readName hCheck).map _

/-- **Statements** keep account, wherever they end. -/
theorem accounts_statements (queue : Queue) : queue.statements.Accounts queue 0 := by
  have hEnds : Ends queue.last .start queue.rest queue.statements :=
    programFrom_ends queue.last .start queue.rest
  generalize queue.statements = reply at hEnds
  have hAll : queue.Takes queue.rest ⟨lastOf queue.last queue.rest, []⟩ :=
    ⟨(List.append_nil _).symm, rfl⟩
  cases hEnds with
  | accepted => exact ⟨⟨queue.rest, hAll, fun _ _ => Nat.zero_le _⟩, nofun⟩
  | cutShort => exact accounts_failAtEnd hAll rfl _
  | stopped hSplit => exact ⟨⟨_, ⟨hSplit, rfl⟩, fun _ _ => Nat.zero_le _⟩, nofun⟩
  | refused hSplit _ hRefuses => exact accounts_failAt ⟨hSplit, rfl⟩ hRefuses.isRefusalOf

/-- **One statement** from a state on keeps account, and ends with a lexeme. -/
theorem accounts_statementFrom (last : Option Lexeme) (state : State Span) (lexemes : List Lexeme) :
    (statementFrom last state lexemes).Accounts ⟨last, lexemes⟩ 1 := by
  induction lexemes generalizing last state with
  | nil => exact accounts_failAtEnd (.nothing _) rfl _
  | cons lexeme rest ih =>
      have hFront : Queue.Takes ⟨last, lexeme :: rest⟩ [lexeme] ⟨some lexeme, rest⟩ := .front rfl
      rw [statementFrom]
      cases hStep : state.step lexeme lexeme.span with
      | error refusal => exact accounts_failAt (.nothing _) (refuses_of_step hStep).isRefusalOf
      | ok move =>
          cases move with
          | shift next => exact (ih (some lexeme) next).after hFront (Nat.le_add_left 1 1)
          | complete statement => exact ⟨⟨[lexeme], hFront, fun _ _ => Nat.le_refl 1⟩, nofun⟩
          | stop => exact accounts_failAt (.nothing _) (isRefusalOf_refuseStatement lexeme)

private theorem accounts_statementIf (queue : Queue) (expected : Expectation)
    {check : Lexeme → Except Refusal Unit}
    (hCheck : ∀ lexeme refusal, check lexeme = .error refusal → IsRefusalOf lexeme refusal) :
    (queue.statementIf expected check).Accounts queue 1 := by
  unfold Queue.statementIf
  split
  case h_1 hRest => exact accounts_failAtEnd (.nothing queue) hRest expected.text
  case h_2 lexeme rest hRest =>
    have hHere : queue.Takes [] ⟨queue.last, lexeme :: rest⟩ := ⟨hRest, rfl⟩
    split
    case h_1 =>
      exact (accounts_statementFrom queue.last .start (lexeme :: rest)).after hHere (Nat.le_refl 1)
    case h_2 refusal hRefused => exact accounts_failAt hHere (hCheck lexeme refusal hRefused)

theorem accounts_statement (queue : Queue) : queue.statement.Accounts queue 1 := by
  apply accounts_statementIf
  intro lexeme refusal hRefused
  split at hRefused
  case isTrue => cases hRefused
  case isFalse =>
    cases hRefused
    exact isRefusalOf_refuseStatement lexeme

theorem accounts_returnStatement (queue : Queue) : queue.returnStatement.Accounts queue 1 :=
  accounts_statementIf queue .retKeyword fun _ _ hRefused => isRefusalOf_of_expect hRefused

theorem accounts_function (queue : Queue) : queue.function.Accounts queue 1 :=
  accounts_statementIf queue .fnKeyword fun _ _ hRefused => isRefusalOf_of_expect hRefused

theorem accounts_block (queue : Queue) : queue.block.Accounts queue 2 := by
  show queue.block.Accounts queue (1 + (0 + 1))
  refine Reply.Accounts.andThen (accounts_expect queue _ _) fun brace left => ?_
  refine Reply.Accounts.andThen (accounts_statements left) fun statements left => ?_
  exact (accounts_expect left _ _).map _

theorem accounts_program (queue : Queue) : queue.program.Accounts queue 0 :=
  (accounts_statements queue).map Program.mk

/-! ## Requests -/

/-- How many lexemes a request consumes at least, if it succeeds. -/
def Request.least : Request → Nat
  | .statement | .returnStatement | .function | .expression | .type _ | .expect _ _ | .advance => 1
  | .parameter | .block => 2
  | .program | .first _ | .peek | .startsWith _ | .skipLineBreaks | .endSpan => 0

/-- The one fault of a request: there is nothing left to take, and then nothing
changes. -/
inductive Faults (queue left : Queue) : Request → Fault → Prop where
  | exhausted (hRest : queue.rest = []) (hLeft : left = queue) :
      Faults queue left .advance .queueExhausted

/-- What serving a request does to a queue. -/
structure Serves (queue : Queue) (request : Request) (answer : Answer) (left : Queue) : Prop where
  takes : ∃ consumed, queue.Takes consumed left ∧
    ((∀ failure, answer ≠ .failed failure) → request.least ≤ consumed.length)
  locates : ∀ diagnostic, answer = .failed (.diagnostic diagnostic) → Locates left diagnostic
  faults : ∀ fault, answer = .failed (.fault fault) → Faults queue left request fault

section Requests

variable {queue left : Queue} {request : Request} {answer : Answer}

/-- A request that cannot fail. -/
private theorem serves_of_takes {consumed : List Lexeme} (hTakes : queue.Takes consumed left)
    (hLeast : request.least ≤ consumed.length) (hAnswer : ∀ failure, answer ≠ .failed failure) :
    Serves queue request answer left where
  takes := ⟨consumed, hTakes, fun _ => hLeast⟩
  locates := fun _ hFailed => absurd hFailed (hAnswer _)
  faults := fun _ hFailed => absurd hFailed (hAnswer _)

/-- A request that is answered by a reply. -/
private theorem serves_of_reply {α : Type} {reply : Reply α}
    (hReply : reply.Accounts queue request.least)
    (found : α → Answer) (hFound : ∀ value failure, found value ≠ .failed failure) :
    Serves queue request (reply.answer found).1.result (reply.answer found).2 := by
  obtain ⟨outcome, left⟩ := reply
  obtain ⟨consumed, hTakes, hLeast⟩ := hReply.takes
  cases outcome with
  | ok value => exact serves_of_takes hTakes (hLeast value rfl) (hFound value)
  | error diagnostic =>
      refine ⟨⟨consumed, hTakes, fun hFine => absurd rfl (hFine _)⟩, ?_, nofun⟩
      intro other hOther
      cases hOther
      exact hReply.locates diagnostic rfl

private theorem serves_program (queue : Queue) :
    Serves queue .program (queue.serve .program).1.result (queue.serve .program).2 := by
  have hServes : Serves queue .program _ _ :=
    serves_of_reply (accounts_program queue) Answer.program nofun
  have hLeft : (queue.program.answer Answer.program).2 = queue.program.queue := by
    unfold Reply.answer
    split <;> rfl
  rwa [hLeft] at hServes

private theorem serves_advance (queue : Queue) :
    Serves queue .advance (queue.serve .advance).1.result (queue.serve .advance).2 := by
  obtain ⟨last, lexemes⟩ := queue
  cases lexemes with
  | cons lexeme rest => exact serves_of_takes (.front rfl) (Nat.le_refl 1) nofun
  | nil =>
      refine ⟨⟨[], .nothing _, fun hFine => absurd rfl (hFine _)⟩, nofun, ?_⟩
      intro fault hFault
      cases hFault
      exact .exhausted rfl rfl

/-- **One request.** -/
theorem serve_serves (queue : Queue) (request : Request) :
    Serves queue request (queue.serve request).1.result (queue.serve request).2 := by
  cases request with
  | program => exact serves_program queue
  | statement => exact serves_of_reply (accounts_statement queue) Answer.statement nofun
  | returnStatement => exact serves_of_reply (accounts_returnStatement queue) Answer.statement nofun
  | function => exact serves_of_reply (accounts_function queue) Answer.statement nofun
  | parameter => exact serves_of_reply (accounts_parameter queue) Answer.parameter nofun
  | block => exact serves_of_reply (accounts_block queue) Answer.block nofun
  | expression => exact serves_of_reply (accounts_expression queue) Answer.expression nofun
  | type expected => exact serves_of_reply (accounts_type queue expected) Answer.type nofun
  | expect kinds expected =>
      exact serves_of_reply (accounts_expect queue kinds expected) Answer.lexeme fun _ _ => nofun
  | first expected =>
      exact serves_of_reply (accounts_first queue expected) Answer.lexeme fun _ _ => nofun
  | advance => exact serves_advance queue
  | peek =>
      refine serves_of_takes (.nothing queue) (Nat.le_refl 0) ?_
      cases hPeek : queue.peek? <;> simp [Queue.serve, hPeek]
  | startsWith kind => exact serves_of_takes (.nothing queue) (Nat.le_refl 0) nofun
  | skipLineBreaks =>
      obtain ⟨consumed, hTakes⟩ := queue.skipLineBreaks_takes
      exact serves_of_takes hTakes (Nat.zero_le _) nofun
  | endSpan => exact serves_of_takes (.nothing queue) (Nat.le_refl 0) nofun

end Requests

/-! ## Whole sessions -/

/-- After any requests the queue is what is left of the lexemes. -/
theorem stateAfter_standsAfter (lexemes : List Lexeme) (requests : List Request) :
    ∃ consumed, (stateAfter Queue.serve (Queue.ofList lexemes) requests).StandsAfter
      lexemes consumed := by
  apply stateAfter_kept fun queue : Queue => ∃ consumed, queue.StandsAfter lexemes consumed
  · rintro queue request ⟨before, hStands⟩
    obtain ⟨consumed, hTakes, _⟩ := (serve_serves queue request).takes
    exact ⟨before ++ consumed, hStands.takes hTakes⟩
  · exact ⟨[], rfl, rfl⟩

/-- **The queue of a session.**  Each request of a session on some lexemes, whatever the
requests before it were and however they ended, finds and leaves what is left of the
lexemes behind the last one consumed.  It consumes from the front, at least a lexeme
where it has to, and if it fails, the failure points to where the queue is left. -/
theorem session_keeps_queue (lexemes : List Lexeme) (requests : List Request) {index : Nat}
    {request : Request} (hRequest : requests[index]? = some request) :
    let queue := stateAfter Queue.serve (Queue.ofList lexemes) (requests.take index)
    let entry := queue.serve request
    ((Queue.ofList lexemes).transcript requests)[index]? = some entry ∧
      (∃ consumed, queue.StandsAfter lexemes consumed) ∧
      (∃ consumed, entry.2.StandsAfter lexemes consumed) ∧
      Serves queue request entry.1.result entry.2 := by
  intro queue entry
  have hEntry : ((Queue.ofList lexemes).transcript requests)[index]? =
      requests[index]?.map queue.serve :=
    getElem?_transcript (fun _ => rfl) (fun _ _ _ => rfl) (Queue.ofList lexemes) requests index
  rw [hRequest] at hEntry
  obtain ⟨before, hStands⟩ := stateAfter_standsAfter lexemes (requests.take index)
  have hServes := serve_serves queue request
  obtain ⟨consumed, hTakes, _⟩ := hServes.takes
  exact ⟨hEntry, ⟨before, hStands⟩, ⟨before ++ consumed, hStands.takes hTakes⟩, hServes⟩

/-- A function that is cut off at a foreign type, after which the session goes on. -/
def foreignRequests : List Request := [.function, .expression, .advance, .advance, .block]

/-- The queue of that session after some of its requests. -/
def foreignQueue (count : Nat) : Queue :=
  stateAfter Queue.serve (Queue.ofList (danglingComma ++ foreignParam)) (foreignRequests.take count)

/-- What is wrong with the name after the foreign type. -/
def foreignName : Diagnostic :=
  ⟨.unsupportedSyntax ("the non-literal expression " ++
    Lexeme.describe ⟨.identifier, "b", ⟨0, 21, 1⟩, .name "b"⟩), ⟨0, 21, 1⟩⟩

/-- The foreign type is consumed, the name after it is not, and past the end there is
only the end. -/
theorem foreignRequests_keep_queue :
    foreignRequests[0]? = some .function ∧
    ((foreignQueue 0).serve .function).1.result =
      .failed (.diagnostic ⟨.unknownType "real", ⟨0, 16, 4⟩⟩) ∧
    Locates (foreignQueue 1) ⟨.unknownType "real", ⟨0, 16, 4⟩⟩ ∧
    foreignRequests[1]? = some .expression ∧
    ((foreignQueue 1).serve .expression).1.result = .failed (.diagnostic foreignName) ∧
    Locates (foreignQueue 2) foreignName ∧
    foreignRequests[3]? = some .advance ∧
    Faults (foreignQueue 3) (foreignQueue 4) .advance .queueExhausted ∧
    foreignRequests[4]? = some .block ∧
    Locates (foreignQueue 5) ⟨.unexpectedEnd "'\x7b'", ⟨0, 22, 1⟩⟩ := by
  have hRequests : foreignRequests[0]? = some .function ∧ foreignRequests[1]? = some .expression ∧
      foreignRequests[3]? = some .advance ∧ foreignRequests[4]? = some .block :=
    ⟨rfl, rfl, rfl, rfl⟩
  have hKeeps {index : Nat} {request : Request}
      (hRequest : foreignRequests[index]? = some request) :=
    (session_keeps_queue (danglingComma ++ foreignParam) foreignRequests hRequest).2.2.2
  obtain ⟨hFunction, hExpression, hAdvance, hBlock⟩ := hRequests
  exact ⟨hFunction, rfl, (hKeeps hFunction).locates _ rfl, hExpression, rfl,
    (hKeeps hExpression).locates _ rfl, hAdvance, (hKeeps hAdvance).faults _ rfl, hBlock,
    (hKeeps hBlock).locates _ rfl⟩

end Parsing

end Frontend
