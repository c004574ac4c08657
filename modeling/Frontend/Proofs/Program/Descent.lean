import Frontend.Program.Descent
import Frontend.Proofs.Program.Acceptance

/-!
# Recursive descent keeps to the machine

The procedures of recursive descent and the moves of the machine are made of the same
checks, in the same order.  What differs is where the open functions are kept: on the
stack of the machine, or in the calls that have not come back.  So a procedure is
compared with the machine from a configuration on in which the calls around it are
frames, whatever these are (`Follows`).  Either the procedure comes back, and then the
machine has got to a configuration that is told by what was found; or both fail with one
diagnostic and leave the same queue.  A procedure that comes to its bound, or that fails
at a fault, follows nothing.

One lemma for each procedure says from where to where it leads.  It is proved from those
of the procedures that are called, one after the other (`Follows.bind`); what a caller
has checked about the front of the queue is a hypothesis there, and makes up for the
checks that the machine does not have.  Every round of a loop and every level of the
recursion takes a lexeme, so a bound greater than the number of lexemes is never
reached.  In the end parsing by recursive descent is parsing by the machine
(`on_program`).
-/

namespace Frontend.Parsing

open Config

/-! ## Reading on -/

/-- What the machine makes of a queue from a configuration on. -/
def Config.readOn (config : Config) (queue : Queue) : Reply (List (Stmt Span)) :=
  programFrom queue.last config.done config.state queue.rest

section ReadOn

variable {config next : Config} {last : Option Lexeme} {lexeme : Lexeme} {rest : List Lexeme}

private theorem readOn_of_next (hNext : config.next? lexeme = some next) :
    config.readOn ⟨last, lexeme :: rest⟩ = next.readOn ⟨some lexeme, rest⟩ := by
  have hRun : config.run? [lexeme] = some next := run?_cons_of_next hNext []
  exact programFrom_append hRun last rest

private theorem readOn_of_refuses {refusal : Refusal}
    (hRefuses : Refuses lexeme config.state.point refusal) :
    config.readOn ⟨last, lexeme :: rest⟩ = Queue.failAt last lexeme rest refusal := by
  have hStep : config.state.step lexeme lexeme.span = .error refusal :=
    step_eq_error_iff.2 hRefuses
  show programFrom last config.done config.state (lexeme :: rest) = _
  rw [programFrom, hStep]

private theorem readOn_of_due {expected : Expectation} (hDue : config.state.due = some expected) :
    config.readOn ⟨last, []⟩ = Queue.failAtEnd ⟨last, []⟩ expected.text := by
  show programFrom last config.done config.state [] = _
  rw [programFrom, hDue]

end ReadOn

/-- Within a statement there is always something due. -/
private theorem due_of_point {done : List (Stmt Span)} {frames : List (Frame Span)}
    {point : Point Span}
    (hPoint : point ≠ .between) :
    (Config.mk done ⟨frames, point⟩).state.due = some point.due :=
  due_eq_some_iff.2 ⟨fun hStart => hPoint (congrArg State.point hStart), rfl⟩

namespace Descent

open Procedure (on on_bind_of_ok on_bind_of_error)

variable {α β : Type}

/-! ## Following the machine -/

/-- An outcome agrees with what the machine makes of a queue from a configuration on.
If something was found, at least so many lexemes were taken, and the machine has got to
a configuration to which that leads, with the same queue left; if not, the machine fails
with the same diagnostic. -/
inductive Agrees (config : Config) (queue : Queue) (least : Nat)
    (leads : α → Queue → Config → Prop) : Option (Except Failure α × Queue) → Prop where
  | found {value : α} {left : Queue} {final : Config}
      (hReads : config.readOn queue = final.readOn left)
      (hTaken : left.rest.length + least ≤ queue.rest.length) (hLeads : leads value left final) :
      Agrees config queue least leads (some (.ok value, left))
  | failed {diagnostic : Diagnostic} {left : Queue}
      (hReads : config.readOn queue = ⟨.error diagnostic, left⟩) :
      Agrees config queue least leads (some (.error (.diagnostic diagnostic), left))

/-- A procedure follows the machine from a configuration on. -/
def Follows (procedure : Descent α) (config : Config) (queue : Queue) (least : Nat)
    (leads : α → Queue → Config → Prop) : Prop :=
  Agrees config queue least leads (on procedure queue)

section Follows

variable {procedure : Descent α} {next : α → Descent β} {config : Config} {queue : Queue}
  {least total : Nat} {middle leads : α → Queue → Config → Prop} {ends : β → Queue → Config → Prop}

private theorem follows_pure {value : α} (hLeads : leads value queue config) :
    Follows (pure value) config queue 0 leads :=
  .found rfl (Nat.le_refl _) hLeads

/-- **One procedure after the other.** -/
theorem Follows.bind (hFirst : Follows procedure config queue least middle) (more : Nat)
    (hTotal : total ≤ least + more)
    (hNext : ∀ value left final, middle value left final →
      left.rest.length + least ≤ queue.rest.length → Follows (next value) final left more ends) :
    Follows (procedure >>= next) config queue total ends := by
  unfold Follows at hFirst ⊢
  generalize hOn : on procedure queue = outcome at hFirst
  cases hFirst with
  | failed hReads =>
      rw [on_bind_of_error hOn]
      exact .failed hReads
  | @found value left final hReads hTaken hMiddle =>
      rw [on_bind_of_ok hOn]
      have hLater := hNext value left final hMiddle hTaken
      unfold Follows at hLater
      generalize on (next value) left = outcome at hLater
      cases hLater with
      | failed hMore => exact .failed (hReads.trans hMore)
      | found hMore hTakes hEnds => exact .found (hReads.trans hMore) (by omega) hEnds

theorem Follows.mono {weaker : α → Queue → Config → Prop}
    (hFollows : Follows procedure config queue least leads)
    (hLeads : ∀ value left final, leads value left final → weaker value left final) :
    Follows procedure config queue least weaker := by
  unfold Follows at hFollows ⊢
  generalize on procedure queue = outcome at hFollows ⊢
  cases hFollows with
  | failed hReads => exact .failed hReads
  | found hReads hTaken hFound => exact .found hReads hTaken (hLeads _ _ _ hFound)

end Follows

/-! ## Lexemes -/

section Lexemes

variable {config : Config} {queue : Queue} {last : Option Lexeme} {lexeme : Lexeme}
  {rest : List Lexeme} {kinds : List Kind} {expected : Expectation}

private theorem follows_get (config : Config) (queue : Queue) :
    Follows get config queue 0 fun seen left final =>
      seen = queue ∧ left = queue ∧ final = config :=
  .found rfl (Nat.le_refl _) ⟨rfl, rfl, rfl⟩

private theorem follows_check (kind : Kind) (config : Config) (queue : Queue) :
    Follows (check kind) config queue 0 fun holds left final =>
      holds = queue.startsWith kind ∧ left = queue ∧ final = config :=
  .found rfl (Nat.le_refl _) ⟨rfl, rfl, rfl⟩

/-- A lexeme that is there is taken. -/
private theorem follows_advance {next : Config} (hFront : queue.peek? = some lexeme)
    (hNext : config.next? lexeme = some next) :
    Follows advance config queue 1 fun _ _ final => final = next := by
  obtain ⟨last, lexemes⟩ := queue
  cases lexemes with
  | nil => cases hFront
  | cons first rest =>
      cases hFront
      exact .found (readOn_of_next hNext) (Nat.le_refl _) rfl

private theorem follows_front (hDue : queue.rest = [] → config.state.due = some expected) :
    Follows (front expected) config queue 0 fun lexeme left final =>
      queue.peek? = some lexeme ∧ left = queue ∧ final = config := by
  obtain ⟨last, lexemes⟩ := queue
  cases lexemes with
  | nil => exact .failed (readOn_of_due (hDue rfl))
  | cons lexeme rest => exact .found rfl (Nat.le_refl _) ⟨rfl, rfl, rfl⟩

private theorem on_expect_of_mem (hKind : lexeme.kind ∈ kinds) :
    on (expect kinds expected) ⟨last, lexeme :: rest⟩ = some (.ok lexeme, ⟨some lexeme, rest⟩) := by
  have hFront : on (front expected) ⟨last, lexeme :: rest⟩ =
      some (.ok lexeme, ⟨last, lexeme :: rest⟩) := rfl
  rw [expect, on_bind_of_ok hFront, if_pos hKind]
  rfl

private theorem on_expect_of_notMem (hKind : lexeme.kind ∉ kinds) :
    on (expect kinds expected) ⟨last, lexeme :: rest⟩ =
      some (.error (.diagnostic ⟨.unexpectedLexeme expected.text lexeme.describe, lexeme.span⟩),
        ⟨last, lexeme :: rest⟩) := by
  have hFront : on (front expected) ⟨last, lexeme :: rest⟩ =
      some (.ok lexeme, ⟨last, lexeme :: rest⟩) := rfl
  rw [expect, on_bind_of_ok hFront, if_neg hKind]
  rfl

private theorem follows_expect (next : Lexeme → Config)
    (hDue : queue.rest = [] → config.state.due = some expected)
    (hNext : ∀ lexeme, queue.peek? = some lexeme → lexeme.kind ∈ kinds →
      config.next? lexeme = some (next lexeme))
    (hElse : ∀ lexeme, queue.peek? = some lexeme → lexeme.kind ∉ kinds →
      Refuses lexeme config.state.point ⟨.unexpectedLexeme expected.text lexeme.describe, false⟩) :
    Follows (expect kinds expected) config queue 1 fun lexeme _ final => final = next lexeme := by
  obtain ⟨last, lexemes⟩ := queue
  unfold Follows
  cases lexemes with
  | nil => exact .failed (readOn_of_due (hDue rfl))
  | cons lexeme rest =>
      by_cases hKind : lexeme.kind ∈ kinds
      · rw [on_expect_of_mem hKind]
        exact .found (readOn_of_next (hNext lexeme rfl hKind)) (Nat.le_refl _) rfl
      · rw [on_expect_of_notMem hKind]
        exact .failed (readOn_of_refuses (hElse lexeme rfl hKind))

/-- A lexeme that is known to be there, and to be of the right kind. -/
private theorem follows_expect_front {next : Config} (hFront : queue.peek? = some lexeme)
    (hKind : lexeme.kind ∈ kinds) (hNext : config.next? lexeme = some next) :
    Follows (expect kinds expected) config queue 1 fun found _ final =>
      found = lexeme ∧ final = next := by
  obtain ⟨last, lexemes⟩ := queue
  cases lexemes with
  | nil => cases hFront
  | cons first rest =>
      cases hFront
      unfold Follows
      rw [on_expect_of_mem hKind]
      exact .found (readOn_of_next hNext) (Nat.le_refl _) ⟨rfl, rfl⟩

/-- A lexeme that is missing because the input has ended. -/
private theorem follows_expect_nil {least : Nat} {leads : Lexeme → Queue → Config → Prop}
    (hRest : queue.rest = []) (hDue : config.state.due = some expected) :
    Follows (expect kinds expected) config queue least leads := by
  obtain ⟨last, lexemes⟩ := queue
  cases hRest
  exact .failed (readOn_of_due hDue)

/-- A lexeme at a point at which nothing else may come. -/
private theorem follows_expect_only {done : List (Stmt Span)} {frames : List (Frame Span)}
    (point : Point Span) (next : Lexeme → State Span) (hPoint : point ≠ .between)
    (hProblem : ∀ lexeme, point.problem lexeme = .unexpectedLexeme point.due.text lexeme.describe)
    (hNext : ∀ lexeme, lexeme.kind ∈ point.accepts →
      Consumes lexeme lexeme.span ⟨frames, point⟩ (.shift (next lexeme))) :
    Follows (expect point.accepts point.due) ⟨done, ⟨frames, point⟩⟩ queue 1 fun lexeme _ final =>
      final = ⟨done, next lexeme⟩ := by
  refine follows_expect _ (fun _ => due_of_point hPoint) ?_ ?_
  · intro lexeme _ hKind
    exact next?_of_shift (hNext lexeme hKind) done
  · intro lexeme _ hElse
    rw [← hProblem]
    exact .kind hElse

/-- A type is taken at once by the machine, but here in two steps, between which it may
turn out that an identifier is no type. -/
private theorem follows_type (next : PrimType → Lexeme → Config)
    (hDue : queue.rest = [] → config.state.due = some expected)
    (hReads : config.state.point.readsType = true)
    (hNext : ∀ lexeme (type : PrimType), lexeme.kind = .identifier → lexeme.text = type.spelling →
      config.next? lexeme = some (next type lexeme))
    (hElse : ∀ lexeme, queue.peek? = some lexeme → lexeme.kind ≠ .identifier →
      Refuses lexeme config.state.point ⟨.unexpectedLexeme expected.text lexeme.describe, false⟩) :
    Follows (type expected) config queue 1 fun type _ final =>
      ∃ lexeme, queue.peek? = some lexeme ∧ final = next type lexeme := by
  obtain ⟨last, lexemes⟩ := queue
  unfold Follows
  cases lexemes with
  | nil => exact .failed (readOn_of_due (hDue rfl))
  | cons lexeme rest =>
      by_cases hKind : lexeme.kind = .identifier
      · rw [type, on_bind_of_ok (on_expect_of_mem (List.mem_singleton.2 hKind))]
        cases hSpelled : PrimType.ofSpelling? lexeme.text with
        | some type =>
            have hLeads := hNext lexeme type hKind (PrimType.ofSpelling?_eq_some_iff.1 hSpelled)
            exact .found (readOn_of_next hLeads) (Nat.le_refl _) ⟨lexeme, rfl, rfl⟩
        | none => exact .failed (readOn_of_refuses (.type hReads hKind hSpelled))
      · rw [type, on_bind_of_error (on_expect_of_notMem (mt List.mem_singleton.1 hKind))]
        exact .failed (readOn_of_refuses (hElse lexeme rfl hKind))

end Lexemes

private theorem exists_peek_of_startsWith {queue : Queue} {kind : Kind}
    (hStarts : queue.startsWith kind = true) :
    ∃ lexeme, queue.peek? = some lexeme ∧ lexeme.kind = kind := by
  obtain ⟨last, lexemes⟩ := queue
  cases lexemes with
  | nil => cases hStarts
  | cons lexeme rest => exact ⟨lexeme, rfl, of_decide_eq_true hStarts⟩

private theorem kind_ne_of_startsWith {queue : Queue} {kind : Kind} {lexeme : Lexeme}
    (hStarts : queue.startsWith kind = false) (hFront : queue.peek? = some lexeme) :
    lexeme.kind ≠ kind := by
  obtain ⟨last, lexemes⟩ := queue
  cases lexemes with
  | nil => cases hFront
  | cons first rest =>
      cases hFront
      exact of_decide_eq_false hStarts

private theorem rest_ne_nil_of_peek {queue : Queue} {lexeme : Lexeme}
    (hFront : queue.peek? = some lexeme) :
    queue.rest ≠ [] := by
  intro hRest
  rw [Queue.peek?, hRest] at hFront
  cases hFront

section Procedures

variable {done : List (Stmt Span)} {frames : List (Frame Span)} {queue : Queue}

private theorem follows_skipLineBreaks {bound : Nat} (hBound : queue.rest.length < bound) :
    Follows (skipLineBreaks bound) ⟨done, ⟨frames, .between⟩⟩ queue 0 fun _ left final =>
      left.startsWith .lineBreak = false ∧ final = ⟨done, ⟨frames, .between⟩⟩ := by
  induction bound generalizing queue with
  | zero => exact absurd hBound (Nat.not_lt_zero _)
  | succ bound ih =>
      refine (follows_check _ _ _).bind 0 (Nat.le_refl 0) ?_
      rintro holds left final ⟨rfl, rfl, rfl⟩ _
      split
      case isTrue hBreak =>
        obtain ⟨lexeme, hFront, hKind⟩ := exists_peek_of_startsWith hBreak
        refine (follows_advance hFront (next?_of_shift (.lineBreak hKind) done)).bind 0
          (Nat.zero_le _) ?_
        rintro _ shorter _ rfl hShorter
        exact ih (by omega)
      case isFalse hMore => exact follows_pure ⟨by simpa using hMore, rfl⟩

/-- A lexeme that is refused without being taken. -/
private theorem follows_mistake {config : Config} {lexeme : Lexeme} {problem : Problem}
    {least : Nat}
    {leads : α → Queue → Config → Prop} (hFront : queue.peek? = some lexeme)
    (hRefuses : Refuses lexeme config.state.point ⟨problem, false⟩) :
    Follows (mistake problem lexeme.span) config queue least leads := by
  obtain ⟨last, lexemes⟩ := queue
  cases lexemes with
  | nil => cases hFront
  | cons first rest =>
      cases hFront
      exact .failed (readOn_of_refuses hRefuses)

/-! ## Returns -/

private theorem follows_expression {mark : Span} {lexeme : Lexeme}
    (hFront : queue.peek? = some lexeme)
    (hMore : lexeme.isTerminator = false) :
    Follows expression ⟨done, ⟨frames, .value mark⟩⟩ queue 1 fun literal _ final =>
      final = ⟨done, ⟨frames, .terminator mark literal⟩⟩ := by
  have hRest := rest_ne_nil_of_peek hFront
  refine (follows_front fun hNil => absurd hNil hRest).bind 1 (Nat.le_refl 1) ?_
  rintro first left final ⟨hFirst, rfl, rfl⟩ _
  cases hFront.symm.trans hFirst
  split
  case isTrue hKind =>
    refine (follows_advance hFront (next?_of_shift (.value hKind) done)).bind 0 (Nat.le_refl 1) ?_
    rintro _ left _ rfl _
    exact follows_pure rfl
  case isFalse hKind =>
    have hEnds : ¬(lexeme.kind = .lineBreak ∨ lexeme.kind = .semicolon) := by
      rw [← isTerminator_iff, hMore]
      exact Bool.false_ne_true
    exact follows_mistake hFront (.kind (by simp_all [Point.accepts]))

/-- After the value of a return, or before its end if it has none. -/
inductive ValueRead (done : List (Stmt Span)) (frames : List (Frame Span)) (mark : Span) :
    Option (IntLit Span) → Queue → Config → Prop where
  | none {left : Queue} {lexeme : Lexeme} (hFront : left.peek? = some lexeme)
      (hEnd : lexeme.isTerminator = true) :
      ValueRead done frames mark none left ⟨done, ⟨frames, .value mark⟩⟩
  | some {left : Queue} {literal : IntLit Span} :
      ValueRead done frames mark (some literal) left ⟨done, ⟨frames, .terminator mark literal⟩⟩

private theorem follows_returnValue (mark : Span) :
    Follows returnValue ⟨done, ⟨frames, .value mark⟩⟩ queue 0 (ValueRead done frames mark) := by
  refine (follows_front fun _ => due_of_point (by simp)).bind 0 (Nat.le_refl 0) ?_
  rintro lexeme left final ⟨hFront, rfl, rfl⟩ _
  split
  case isTrue hEnd => exact follows_pure (.none hFront hEnd)
  case isFalse hMore =>
    have hMore : lexeme.isTerminator = false := by simpa using hMore
    refine (follows_expression hFront hMore).bind 0 (Nat.zero_le _) ?_
    rintro literal left _ rfl _
    exact follows_pure .some

/-- The end of a return completes it. -/
private theorem follows_returnEnd {mark : Span} {value : Option (IntLit Span)} {config : Config}
    (hRead : ValueRead done frames mark value queue config) :
    Follows (expect [.lineBreak, .semicolon] .endOfStatement) config queue 1 fun _ _ final =>
      final = add done frames [.ret value mark] := by
  cases hRead with
  | none hFront hEnd =>
      have hKind := isTerminator_iff.1 hEnd
      exact (follows_expect_front hFront (by simpa using hKind)
        (next?_of_place (.bareEnd hKind) done)).mono fun _ _ _ hFound => hFound.2
  | some =>
      refine follows_expect _ (fun _ => due_of_point (by simp)) ?_ ?_
      · intro lexeme _ hKind
        exact next?_of_place (.valueEnd (by simpa using hKind)) done
      · intro lexeme _ hElse
        exact .kind hElse

private theorem follows_returnStatement {lexeme : Lexeme} (hFront : queue.peek? = some lexeme)
    (hKind : lexeme.kind = .ret) :
    Follows returnStatement ⟨done, ⟨frames, .between⟩⟩ queue 1 fun statement _ final =>
      final = add done frames [statement] := by
  refine (follows_expect_front hFront (List.mem_singleton.2 hKind)
    (next?_of_shift (.ret hKind) done)).bind 0 (Nat.le_refl 1) ?_
  rintro _ left _ ⟨rfl, rfl⟩ _
  refine (follows_returnValue _).bind 0 (Nat.zero_le _) fun value left final hRead _ => ?_
  refine (follows_returnEnd hRead).bind 0 (Nat.zero_le _) ?_
  rintro _ left _ rfl _
  exact follows_pure rfl

/-! ## Parameters -/

/-- At a point where a parameter may follow, and no parenthesis does instead. -/
inductive ParamDue (signature : Signature Span) (queue : Queue) : Point Span → Prop where
  | first (hOpen : queue.startsWith .closeParen = false) :
      ParamDue signature queue (.firstParam signature)
  | next : ParamDue signature queue (.nextParam signature)

/-- At a point where the parameters are over, or the input is. -/
inductive ParamsOver (signature : Signature Span) (queue : Queue) : Point Span → Prop where
  | none (hClose : queue.startsWith .closeParen = true) :
      ParamsOver signature queue (.firstParam signature)
  | some (hMore : queue.startsWith .comma = false) :
      ParamsOver signature queue (.afterParam signature)
  | cutShort {point : Point Span} (hRest : queue.rest = [])
      (hDue : ParamDue signature queue point) : ParamsOver signature queue point

/-- A parameter is taken where one may follow, if there is anything left. -/
private theorem follows_parameter {signature : Signature Span} {point : Point Span}
    (hDue : ParamDue signature queue point) (hRest : queue.rest ≠ []) :
    Follows parameter ⟨done, ⟨frames, point⟩⟩ queue 1 fun param _ final =>
      final = ⟨done, ⟨frames, .afterParam (addParam signature param)⟩⟩ := by
  refine (follows_front fun hNil => absurd hNil hRest).bind 1 (Nat.le_refl 1) ?_
  rintro first left final ⟨hFront, rfl, rfl⟩ _
  refine (follows_type
    (fun type lexeme => ⟨done, ⟨frames, .paramName signature type lexeme.span⟩⟩)
    (fun hNil => absurd hNil hRest) ?_ ?_ ?_).bind 0 (Nat.le_refl 1) ?_
  · cases hDue <;> rfl
  · intro lexeme type hKind hText
    cases hDue with
    | first => exact next?_of_shift (.firstType hKind hText) done
    | next => exact next?_of_shift (.nextType hKind hText) done
  · intro lexeme hPeek hKind
    cases hDue with
    | first hOpen =>
        have hClose := kind_ne_of_startsWith hOpen hPeek
        exact .kind (by simp [Point.accepts, hKind, hClose])
    | next => exact .kind (by simpa [Point.accepts] using hKind)
  · -- The mark of the parameter is the lexeme seen first, which is the one read as a type.
    rintro type left _ ⟨lexeme, hPeek, rfl⟩ _
    cases hFront.symm.trans hPeek
    refine (follows_expect_only (.paramName signature type first.span)
      (fun name => ⟨frames, .afterParam (addParam signature ⟨type, name.text, first.span⟩)⟩)
      (by simp) (fun _ => rfl) ?_).bind 0 (Nat.zero_le _) ?_
    · intro name hKind
      exact .paramName (List.mem_singleton.1 hKind)
    · rintro name left _ rfl _
      exact follows_pure rfl

private theorem follows_moreParameters {bound : Nat} {signature : Signature Span}
    {point : Point Span}
    (hDue : ParamDue signature queue point) (hBound : queue.rest.length < bound) :
    Follows (moreParameters bound signature.params) ⟨done, ⟨frames, point⟩⟩ queue 0
      fun params left final => ∃ point, final = ⟨done, ⟨frames, point⟩⟩ ∧
        ParamsOver { signature with params := params } left point := by
  induction bound generalizing queue signature point with
  | zero => exact absurd hBound (Nat.not_lt_zero _)
  | succ bound ih =>
      refine (follows_get _ _).bind 0 (Nat.le_refl 0) ?_
      rintro seen left final ⟨rfl, rfl, rfl⟩ _
      split
      case isTrue hEmpty =>
        exact follows_pure ⟨point, rfl, .cutShort (List.isEmpty_iff.1 hEmpty) hDue⟩
      case isFalse hRest =>
        rw [List.isEmpty_iff] at hRest
        refine (follows_parameter hDue hRest).bind 0 (Nat.zero_le _) ?_
        rintro param left _ rfl hLeft
        refine (follows_check _ _ _).bind 0 (Nat.le_refl 0) ?_
        rintro holds left final ⟨rfl, rfl, rfl⟩ _
        split
        case isTrue hComma =>
          obtain ⟨lexeme, hFront, hKind⟩ := exists_peek_of_startsWith hComma
          refine (follows_advance hFront (next?_of_shift (.comma hKind) done)).bind 0
            (Nat.zero_le _) ?_
          rintro _ shorter _ rfl hShorter
          exact ih .next (by omega)
        case isFalse hMore => exact follows_pure ⟨_, rfl, .some (by simpa using hMore)⟩

private theorem follows_parameters {bound : Nat} {signature : Signature Span}
    (hParams : signature.params = []) (hBound : queue.rest.length < bound) :
    Follows (parameters bound) ⟨done, ⟨frames, .firstParam signature⟩⟩ queue 0
      fun params left final => ∃ point, final = ⟨done, ⟨frames, point⟩⟩ ∧
        ParamsOver { signature with params := params } left point := by
  refine (follows_check _ _ _).bind 0 (Nat.le_refl 0) ?_
  rintro holds left final ⟨rfl, rfl, rfl⟩ _
  obtain ⟨result, name, params, mark⟩ := signature
  cases hParams
  split
  case isTrue hClose => exact follows_pure ⟨_, rfl, .none hClose⟩
  case isFalse hOpen => exact follows_moreParameters (.first (by simpa using hOpen)) hBound

/-- The parenthesis behind the parameters, whether there are any or not. -/
private theorem follows_closeParen {signature : Signature Span} {point : Point Span}
    (hOver : ParamsOver signature queue point) :
    Follows (expect [.closeParen] .closeParen) ⟨done, ⟨frames, point⟩⟩ queue 1 fun _ _ final =>
      final = ⟨done, ⟨frames, .openBrace signature⟩⟩ := by
  cases hOver with
  | none hClose =>
      obtain ⟨lexeme, hFront, hKind⟩ := exists_peek_of_startsWith hClose
      exact (follows_expect_front hFront (List.mem_singleton.2 hKind)
        (next?_of_shift (.noParams hKind) done)).mono fun _ _ _ hFound => hFound.2
  | some hMore =>
      refine follows_expect _ (fun _ => due_of_point (by simp)) ?_ ?_
      · intro lexeme _ hKind
        exact next?_of_shift (.closeParen (List.mem_singleton.1 hKind)) done
      · intro lexeme hFront hElse
        have hComma := kind_ne_of_startsWith hMore hFront
        exact .kind (by simp_all [Point.accepts])
  | cutShort hRest hDue =>
      refine follows_expect_nil hRest ?_
      cases hDue <;> exact due_of_point (by simp)

/-! ## Statements -/

/-- At the end of the statements in a body or in a program. -/
def StatementsOver (queue : Queue) : Prop :=
  ∀ lexeme ∈ queue.peek?, lexeme.kind = .closeBrace

private theorem statementsOver_iff :
    StatementsOver queue ↔ (queue.rest.isEmpty || queue.startsWith .closeBrace) = true := by
  obtain ⟨last, lexemes⟩ := queue
  cases lexemes <;> simp [StatementsOver, Queue.peek?, Queue.startsWith]

/-- The brace behind a body closes the function. -/
private theorem follows_closeBrace {frame : Frame Span} (hOver : StatementsOver queue) :
    Follows (expect [.closeBrace] .closeBrace) ⟨done, ⟨frame :: frames, .between⟩⟩ queue 1
      fun _ _ final => final = add done frames [.fn frame.signature frame.brace frame.body] := by
  cases hPeek : queue.peek? with
  | none => exact follows_expect_nil (List.head?_eq_none_iff.1 hPeek) rfl
  | some lexeme =>
      have hKind := hOver lexeme hPeek
      exact (follows_expect_front hPeek (List.mem_singleton.2 hKind)
        (next?_of_place (.close hKind) done)).mono fun _ _ _ hFound => hFound.2

/-- A procedure takes a statement, where one may begin, and it is added where it
belongs.  This is said of queues up to a length, since the statements in a body are
shorter than the function. -/
def TakesStatement (nested : Descent (Stmt Span)) (bound : Nat) : Prop :=
  ∀ (done : List (Stmt Span)) (frames : List (Frame Span)) (queue : Queue),
    queue.rest.length < bound → queue.startsWith .lineBreak = false → ¬StatementsOver queue →
      Follows nested ⟨done, ⟨frames, .between⟩⟩ queue 1 fun statement _ final =>
        final = add done frames [statement]

section Nested

variable {nested : Descent (Stmt Span)} {bound : Nat} (hNested : TakesStatement nested bound)

include hNested

private theorem follows_moreStatements (done : List (Stmt Span)) (frames : List (Frame Span))
    (statements : List (Stmt Span)) {rounds : Nat} (hRounds : queue.rest.length < rounds)
    (hBound : queue.rest.length < bound) :
    Follows (moreStatements nested rounds statements) (add done frames statements) queue 0
      fun all left final => StatementsOver left ∧ final = add done frames all := by
  induction rounds generalizing queue statements with
  | zero => exact absurd hRounds (Nat.not_lt_zero _)
  | succ rounds ih =>
      -- In a body and at the top alike, what is added leaves the machine between two
      -- statements.
      have hBetween : add done frames statements = ⟨(add done frames statements).done,
          ⟨(add done frames statements).state.frames, .between⟩⟩ := by cases frames <;> rfl
      rw [moreStatements, hBetween]
      refine (follows_skipLineBreaks hRounds).bind 0 (Nat.le_refl 0) ?_
      rintro _ left _ ⟨hMore, rfl⟩ hLeft
      refine (follows_get _ left).bind 0 (Nat.le_refl 0) ?_
      rintro _ _ _ ⟨rfl, rfl, rfl⟩ _
      refine (follows_check _ _ _).bind 0 (Nat.le_refl 0) ?_
      rintro _ _ _ ⟨rfl, rfl, rfl⟩ _
      split
      case isTrue hOver => exact follows_pure ⟨statementsOver_iff.2 hOver, hBetween.symm⟩
      case isFalse hBegins =>
        have hBegins := mt statementsOver_iff.1 hBegins
        refine (hNested _ _ _ (by omega) hMore hBegins).bind 0 (Nat.zero_le _) ?_
        rintro next shorter _ rfl hShorter
        rw [add_add]
        exact ih (statements ++ [next]) (by omega) (by omega)

private theorem follows_block (signature : Signature Span) (hBound : queue.rest.length < bound) :
    Follows (block nested bound) ⟨done, ⟨frames, .openBrace signature⟩⟩ queue 0 fun body _ final =>
      final = add done frames [.fn signature body.mark body.statements] := by
  rw [block]
  refine (follows_expect_only (.openBrace signature)
    (fun brace => ⟨⟨signature, brace.span, []⟩ :: frames, .between⟩)
    (by simp) (fun _ => rfl) ?_).bind 0 (Nat.zero_le _) ?_
  · intro brace hKind
    exact .openBrace (List.mem_singleton.1 hKind)
  rintro brace left _ rfl hTaken
  have hLeft : left.rest.length < bound := by omega
  have hBody := follows_moreStatements hNested done (⟨signature, brace.span, []⟩ :: frames) []
    hLeft hLeft
  refine hBody.bind 0 (Nat.zero_le _) ?_
  rintro statements left _ ⟨hOver, rfl⟩ _
  refine (follows_closeBrace hOver).bind 0 (Nat.zero_le _) ?_
  rintro _ left _ rfl _
  exact follows_pure rfl

private theorem follows_function {lexeme : Lexeme} (hFront : queue.peek? = some lexeme)
    (hKind : lexeme.kind = .fn) (hBound : queue.rest.length < bound + 1) :
    Follows (function nested bound) ⟨done, ⟨frames, .between⟩⟩ queue 1 fun statement _ final =>
      final = add done frames [statement] := by
  rw [function]
  refine (follows_expect_front hFront (List.mem_singleton.2 hKind)
    (next?_of_shift (.fn hKind) done)).bind 0 (Nat.le_refl 1) ?_
  rintro keyword left _ ⟨rfl, rfl⟩ _
  refine (follows_type (fun result _ => ⟨done, ⟨frames, .name keyword.span result⟩⟩)
    ?_ rfl ?_ ?_).bind 0 (Nat.zero_le _) ?_
  · exact fun _ => due_of_point (by simp)
  · intro typeName result hName hText
    exact next?_of_shift (.result hName hText) done
  · intro typeName _ hElse
    exact .kind (mt List.mem_singleton.1 hElse)
  rintro result left _ ⟨_, _, rfl⟩ _
  refine (follows_expect_only (.name keyword.span result)
    (fun name => ⟨frames, .openParen ⟨result, name.text, [], keyword.span⟩⟩)
    (by simp) (fun _ => rfl) ?_).bind 0 (Nat.zero_le _) ?_
  · intro name hName
    exact .name (List.mem_singleton.1 hName)
  rintro name left _ rfl _
  refine (follows_expect_only (.openParen ⟨result, name.text, [], keyword.span⟩)
    (fun _ => ⟨frames, .firstParam ⟨result, name.text, [], keyword.span⟩⟩)
    (by simp) (fun _ => rfl) ?_).bind 0 (Nat.zero_le _) ?_
  · intro paren hParen
    exact .openParen (List.mem_singleton.1 hParen)
  rintro _ left _ rfl _
  refine (follows_parameters rfl (by omega)).bind 0 (Nat.zero_le _) ?_
  rintro params left _ ⟨point, rfl, hOver⟩ _
  refine (follows_closeParen hOver).bind 0 (Nat.zero_le _) ?_
  rintro _ left _ rfl _
  refine (follows_block hNested _ (by omega)).bind 0 (Nat.zero_le _) ?_
  rintro body left _ rfl _
  exact follows_pure rfl

end Nested

/-- **A statement** follows the machine, however deep the functions in it are nested. -/
theorem takesStatement (bound : Nat) : TakesStatement (statement bound) bound := by
  induction bound with
  | zero => exact fun _ _ _ hBound => absurd hBound (Nat.not_lt_zero _)
  | succ bound ih =>
      intro done frames queue hBound hMore hBegins
      rw [statementsOver_iff, Bool.not_eq_true, Bool.or_eq_false_iff] at hBegins
      obtain ⟨hRest, hClose⟩ := hBegins
      have hRest : queue.rest ≠ [] := List.isEmpty_eq_false_iff.1 hRest
      refine (follows_front fun hNil => absurd hNil hRest).bind 1 (Nat.le_refl 1) ?_
      rintro first _ _ ⟨hFront, rfl, rfl⟩ _
      split
      case isTrue hFn => exact follows_function ih hFront hFn hBound
      case isFalse hFn =>
        split
        case isTrue hRet => exact follows_returnStatement hFront hRet
        case isFalse hRet =>
          -- The machine takes line breaks and closing braces here; the loop around has
          -- seen to both.
          have hBreak := kind_ne_of_startsWith hMore hFront
          have hBrace := kind_ne_of_startsWith hClose hFront
          exact follows_mistake hFront (.kind (by simp_all [Point.accepts]))

end Procedures

/-! ## Programs -/

/-- **Recursive descent** comes to what the machine comes to, whatever the bound is that
it does not reach: it ends, with the same outcome and the same queue left, and never at
a fault. -/
theorem on_program {queue : Queue} {bound : Nat} (hBound : queue.rest.length < bound) :
    on (program bound) queue =
      some (queue.program.outcome.mapError Failure.diagnostic, queue.program.queue) := by
  have hAll := follows_moreStatements (takesStatement bound) [] [] [] hBound hBound
  have hProgram : queue.program = ((add [] [] []).readOn queue).map Program.mk := rfl
  unfold Follows at hAll
  generalize hOn : on (moreStatements (statement bound) bound []) queue = outcome at hAll
  rw [program, hProgram]
  cases hAll with
  | @found statements left final hReads hTaken hLeads =>
      obtain ⟨hOver, rfl⟩ := hLeads
      have hStop : (add [] [] statements).readOn left = ⟨.ok statements, left⟩ :=
        programFrom_of_stop hOver
      rw [on_bind_of_ok hOn, hReads, hStop]
      rfl
  | failed hReads =>
      rw [on_bind_of_error hOn, hReads]
      rfl

/-- Only because no procedure asks for it: a lexeme of an empty queue is a fault. -/
example : on advance ⟨none, []⟩ = some (.error (.fault .queueExhausted), ⟨none, []⟩) := rfl

end Descent

end Frontend.Parsing
