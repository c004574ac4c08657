import Frontend.Program.Machine

/-!
# Moves of the parsing machine

`State.step` is a match on the point of the grammar, with a check of the lexeme in most
branches.  This module says once what it can do.  `Consumes` lists the moves, each with
what it requires of the lexeme, and `Refuses` lists the refusals; `step_eq_ok_iff` and
`step_eq_error_iff` say that the two lists are exact.  Later modules reason by cases on
these lists and do not open `State.step`.

Two refusals are specific to one point: a lexeme that begins no statement and one that
is no expression.  The rest have two shapes.  A lexeme of a wrong kind is refused by
name of what the point requires, and an identifier that spells no type is refused only
after it was read.
-/

namespace Frontend.Parsing

variable {α : Type}

/-! ## Checks that are made in sequence -/

/-- Two checks in sequence succeed when the first does and the second does on its
result. -/
theorem bind_eq_ok_iff {ε β γ : Type} {first : Except ε β} {next : β → Except ε γ} {found : γ} :
    (first >>= next) = .ok found ↔ ∃ middle, first = .ok middle ∧ next middle = .ok found := by
  cases first with
  | ok middle =>
      constructor
      · intro h
        exact ⟨middle, rfl, h⟩
      · rintro ⟨_, hFirst, h⟩
        cases hFirst
        exact h
  | error reason =>
      constructor
      · intro h
        cases h
      · rintro ⟨_, hFirst, _⟩
        cases hFirst

/-- Two checks in sequence fail when the first does, or when the second does on its
result. -/
theorem bind_eq_error_iff {ε β γ : Type} {first : Except ε β} {next : β → Except ε γ}
    {reason : ε} : (first >>= next) = .error reason ↔
      first = .error reason ∨ ∃ middle, first = .ok middle ∧ next middle = .error reason := by
  cases first with
  | ok middle =>
      constructor
      · intro h
        exact Or.inr ⟨middle, rfl, h⟩
      · rintro (hFirst | ⟨_, hFirst, h⟩)
        · cases hFirst
        · cases hFirst
          exact h
  | error other =>
      constructor
      · intro h
        cases h
        exact Or.inl rfl
      · rintro (hFirst | ⟨_, hFirst, _⟩)
        · cases hFirst
          rfl
        · cases hFirst

theorem expect_eq_error_iff {expected : String} {kinds : List Kind} {lexeme : Lexeme}
    {refusal : Refusal} : lexeme.expect expected kinds = .error refusal ↔
      lexeme.kind ∉ kinds ∧ refusal = ⟨.unexpectedLexeme expected lexeme.describe, false⟩ := by
  unfold Lexeme.expect
  by_cases hKind : lexeme.kind ∈ kinds
  · simp [hKind]
  · simp [hKind, eq_comm]

theorem readName_eq_error_iff {expected : String} {lexeme : Lexeme} {refusal : Refusal} :
    lexeme.readName expected = .error refusal ↔
      lexeme.kind ≠ .identifier ∧
        refusal = ⟨.unexpectedLexeme expected lexeme.describe, false⟩ := by
  unfold Lexeme.readName
  rw [bind_eq_error_iff, expect_eq_error_iff, List.mem_singleton]
  constructor
  · rintro (hKind | ⟨_, _, hPure⟩)
    · exact hKind
    · cases hPure
  · exact Or.inl

/-- A lexeme is not read as a type when it is no identifier, or when it spells no
type. -/
theorem readType_eq_error_iff {expected : String} {lexeme : Lexeme} {refusal : Refusal} :
    lexeme.readType expected = .error refusal ↔
      (lexeme.kind ≠ .identifier ∧
          refusal = ⟨.unexpectedLexeme expected lexeme.describe, false⟩) ∨
        (lexeme.kind = .identifier ∧ PrimType.ofSpelling? lexeme.text = none ∧
          refusal = ⟨.unknownType lexeme.text, true⟩) := by
  unfold Lexeme.readType
  rw [bind_eq_error_iff, readName_eq_error_iff]
  constructor
  · rintro (hKind | ⟨name, hName, hType⟩)
    · exact Or.inl hKind
    · obtain ⟨hKind, rfl⟩ := Lexeme.readName_eq_ok_iff.1 hName
      cases hSpelled : PrimType.ofSpelling? lexeme.text with
      | some type => simp [hSpelled] at hType
      | none => exact Or.inr ⟨hKind, rfl, by simpa [hSpelled, eq_comm] using hType⟩
  · rintro (hKind | ⟨hKind, hSpelled, rfl⟩)
    · exact Or.inl hKind
    · refine Or.inr ⟨lexeme.text, Lexeme.readName_eq_ok_iff.2 ⟨hKind, rfl⟩, ?_⟩
      simp [hSpelled]

theorem readInteger_eq_error_iff {lexeme : Lexeme} {refusal : Refusal} :
    lexeme.readInteger = .error refusal ↔ lexeme.kind ≠ .integer ∧
      refusal = ⟨.unsupportedSyntax ("the non-literal expression " ++ lexeme.describe), false⟩ := by
  unfold Lexeme.readInteger
  by_cases hKind : lexeme.kind = .integer
  · simp [hKind]
  · simp [hKind, eq_comm]

theorem isTerminator_iff {lexeme : Lexeme} :
    lexeme.isTerminator = true ↔ lexeme.kind = .lineBreak ∨ lexeme.kind = .semicolon := by
  simp [Lexeme.isTerminator]

/-! ## What is consumed -/

/-- The moves of the machine: what a lexeme that is not refused leads to from a
state. -/
inductive Consumes (lexeme : Lexeme) (mark : α) : State α → Move α → Prop where
  | lineBreak {frames : List (Frame α)} (hKind : lexeme.kind = .lineBreak) :
      Consumes lexeme mark ⟨frames, .between⟩ (.shift ⟨frames, .between⟩)
  | fn {frames : List (Frame α)} (hKind : lexeme.kind = .fn) :
      Consumes lexeme mark ⟨frames, .between⟩ (.shift ⟨frames, .result mark⟩)
  | ret {frames : List (Frame α)} (hKind : lexeme.kind = .ret) :
      Consumes lexeme mark ⟨frames, .between⟩ (.shift ⟨frames, .value mark⟩)
  | stop (hKind : lexeme.kind = .closeBrace) :
      Consumes lexeme mark ⟨[], .between⟩ .stop
  | close {frame : Frame α} {frames : List (Frame α)} (hKind : lexeme.kind = .closeBrace) :
      Consumes lexeme mark ⟨frame :: frames, .between⟩
        (place (.fn frame.signature frame.brace frame.body) frames)
  | bareEnd {frames : List (Frame α)} {ret : α}
      (hKind : lexeme.kind = .lineBreak ∨ lexeme.kind = .semicolon) :
      Consumes lexeme mark ⟨frames, .value ret⟩ (place (.ret none ret) frames)
  | value {frames : List (Frame α)} {ret : α} (hKind : lexeme.kind = .integer) :
      Consumes lexeme mark ⟨frames, .value ret⟩
        (.shift ⟨frames, .terminator ret ⟨lexeme.value, mark⟩⟩)
  | valueEnd {frames : List (Frame α)} {ret : α} {value : IntLit α}
      (hKind : lexeme.kind = .lineBreak ∨ lexeme.kind = .semicolon) :
      Consumes lexeme mark ⟨frames, .terminator ret value⟩ (place (.ret (some value) ret) frames)
  | result {frames : List (Frame α)} {fn : α} {type : PrimType}
      (hKind : lexeme.kind = .identifier) (hText : lexeme.text = type.spelling) :
      Consumes lexeme mark ⟨frames, .result fn⟩ (.shift ⟨frames, .name fn type⟩)
  | name {frames : List (Frame α)} {fn : α} {type : PrimType}
      (hKind : lexeme.kind = .identifier) :
      Consumes lexeme mark ⟨frames, .name fn type⟩
        (.shift ⟨frames, .openParen ⟨type, lexeme.text, [], fn⟩⟩)
  | openParen {frames : List (Frame α)} {signature : Signature α}
      (hKind : lexeme.kind = .openParen) :
      Consumes lexeme mark ⟨frames, .openParen signature⟩ (.shift ⟨frames, .firstParam signature⟩)
  | noParams {frames : List (Frame α)} {signature : Signature α}
      (hKind : lexeme.kind = .closeParen) :
      Consumes lexeme mark ⟨frames, .firstParam signature⟩ (.shift ⟨frames, .openBrace signature⟩)
  | firstType {frames : List (Frame α)} {signature : Signature α} {type : PrimType}
      (hKind : lexeme.kind = .identifier) (hText : lexeme.text = type.spelling) :
      Consumes lexeme mark ⟨frames, .firstParam signature⟩
        (.shift ⟨frames, .paramName signature type mark⟩)
  | nextType {frames : List (Frame α)} {signature : Signature α} {type : PrimType}
      (hKind : lexeme.kind = .identifier) (hText : lexeme.text = type.spelling) :
      Consumes lexeme mark ⟨frames, .nextParam signature⟩
        (.shift ⟨frames, .paramName signature type mark⟩)
  | paramName {frames : List (Frame α)} {signature : Signature α} {type : PrimType} {param : α}
      (hKind : lexeme.kind = .identifier) :
      Consumes lexeme mark ⟨frames, .paramName signature type param⟩
        (.shift ⟨frames, .afterParam (addParam signature ⟨type, lexeme.text, param⟩)⟩)
  | comma {frames : List (Frame α)} {signature : Signature α} (hKind : lexeme.kind = .comma) :
      Consumes lexeme mark ⟨frames, .afterParam signature⟩ (.shift ⟨frames, .nextParam signature⟩)
  | closeParen {frames : List (Frame α)} {signature : Signature α}
      (hKind : lexeme.kind = .closeParen) :
      Consumes lexeme mark ⟨frames, .afterParam signature⟩ (.shift ⟨frames, .openBrace signature⟩)
  | openBrace {frames : List (Frame α)} {signature : Signature α}
      (hKind : lexeme.kind = .openBrace) :
      Consumes lexeme mark ⟨frames, .openBrace signature⟩
        (.shift ⟨⟨signature, mark, []⟩ :: frames, .between⟩)

/-- A listed move is what the machine does. -/
theorem Consumes.step_eq {state : State α} {lexeme : Lexeme} {mark : α} {move : Move α}
    (hMove : Consumes lexeme mark state move) : state.step lexeme mark = .ok move := by
  cases hMove with
  | lineBreak hKind => simp [State.step, readBetween, hKind]
  | fn hKind => simp [State.step, readBetween, hKind]
  | ret hKind => simp [State.step, readBetween, hKind]
  | stop hKind => simp [State.step, readBetween, hKind]
  | close hKind => simp [State.step, readBetween, hKind]
  | bareEnd hKind =>
      rw [← isTerminator_iff] at hKind
      simp [State.step, hKind]
  | value hKind =>
      have hMore : lexeme.isTerminator = false := by simp [Lexeme.isTerminator, hKind]
      have hValue := Lexeme.readInteger_eq_ok_iff.2 ⟨hKind, rfl⟩
      simp only [State.step, hMore, hValue]
      rfl
  | valueEnd hKind =>
      have hCheck : lexeme.expect Expectation.endOfStatement.text [.lineBreak, .semicolon]
          = .ok () := Lexeme.expect_eq_ok_iff.2 (by simpa using hKind)
      simp only [State.step, hCheck]
      rfl
  | result hKind hText | firstType hKind hText | nextType hKind hText =>
      have hType (expected : String) : lexeme.readType expected = .ok _ :=
        Lexeme.readType_eq_ok_iff.2 ⟨hKind, hText⟩
      simp only [State.step, readParamType, hKind, hType]
      rfl
  | name hKind | paramName hKind =>
      have hName (expected : String) : lexeme.readName expected = .ok lexeme.text :=
        Lexeme.readName_eq_ok_iff.2 ⟨hKind, rfl⟩
      simp only [State.step, hName]
      rfl
  | noParams hKind | comma hKind => simp [State.step, hKind]
  | openParen hKind | closeParen hKind | openBrace hKind =>
      simp only [State.step, Lexeme.expect, hKind]
      rfl

/-- Between statements the kind of the lexeme decides. -/
private theorem consumes_of_readBetween {frames : List (Frame α)} {lexeme : Lexeme} {mark : α}
    {move : Move α} (hStep : readBetween frames lexeme mark = .ok move) :
    Consumes lexeme mark ⟨frames, .between⟩ move := by
  unfold readBetween at hStep
  split at hStep
  case h_1 hKind => cases hStep; exact .lineBreak hKind
  case h_2 hKind => cases hStep; exact .fn hKind
  case h_3 hKind => cases hStep; exact .ret hKind
  case h_4 hKind =>
    cases frames with
    | nil => cases hStep; exact .stop hKind
    | cons frame frames => cases hStep; exact .close hKind
  case h_5 => cases hStep

/-- After `return` a terminator is tried before a value. -/
private theorem consumes_of_readValue {frames : List (Frame α)} {ret mark : α} {lexeme : Lexeme}
    {move : Move α} (hStep : State.step ⟨frames, .value ret⟩ lexeme mark = .ok move) :
    Consumes lexeme mark ⟨frames, .value ret⟩ move := by
  simp only [State.step] at hStep
  split at hStep
  case isTrue hEnd =>
    cases hStep
    exact .bareEnd (isTerminator_iff.1 hEnd)
  case isFalse =>
    obtain ⟨value, hValue, hMove⟩ := bind_eq_ok_iff.1 hStep
    obtain ⟨hKind, rfl⟩ := Lexeme.readInteger_eq_ok_iff.1 hValue
    cases hMove
    exact .value hKind

/-- The type of a parameter is read at two points, in the same way. -/
private theorem eq_paramName_of_readParamType {frames : List (Frame α)}
    {signature : Signature α} {lexeme : Lexeme} {mark : α} {move : Move α}
    (hStep : readParamType frames signature lexeme mark = .ok move) :
    ∃ type : PrimType, lexeme.kind = .identifier ∧ lexeme.text = type.spelling ∧
      move = .shift ⟨frames, .paramName signature type mark⟩ := by
  obtain ⟨type, hType, hMove⟩ := bind_eq_ok_iff.1 hStep
  obtain ⟨hKind, hText⟩ := Lexeme.readType_eq_ok_iff.1 hType
  cases hMove
  exact ⟨type, hKind, hText, rfl⟩

/-- What the machine does is a listed move. -/
theorem consumes_of_step {state : State α} {lexeme : Lexeme} {mark : α} {move : Move α}
    (hStep : state.step lexeme mark = .ok move) : Consumes lexeme mark state move := by
  obtain ⟨frames, point⟩ := state
  cases point with
  | between => exact consumes_of_readBetween hStep
  | value ret => exact consumes_of_readValue hStep
  | terminator ret value =>
      obtain ⟨_, hKind, hMove⟩ := bind_eq_ok_iff.1 hStep
      cases hMove
      exact .valueEnd (by simpa using Lexeme.expect_eq_ok_iff.1 hKind)
  | result fn =>
      obtain ⟨type, hType, hMove⟩ := bind_eq_ok_iff.1 hStep
      obtain ⟨hKind, hText⟩ := Lexeme.readType_eq_ok_iff.1 hType
      cases hMove
      exact .result hKind hText
  | name fn type =>
      obtain ⟨name, hName, hMove⟩ := bind_eq_ok_iff.1 hStep
      obtain ⟨hKind, rfl⟩ := Lexeme.readName_eq_ok_iff.1 hName
      cases hMove
      exact .name hKind
  | openParen signature =>
      obtain ⟨_, hKind, hMove⟩ := bind_eq_ok_iff.1 hStep
      cases hMove
      exact .openParen (by simpa using Lexeme.expect_eq_ok_iff.1 hKind)
  | firstParam signature =>
      simp only [State.step] at hStep
      split at hStep
      case isTrue hClose =>
        cases hStep
        exact .noParams hClose
      case isFalse =>
        obtain ⟨type, hKind, hText, rfl⟩ := eq_paramName_of_readParamType hStep
        exact .firstType hKind hText
  | paramName signature type param =>
      obtain ⟨name, hName, hMove⟩ := bind_eq_ok_iff.1 hStep
      obtain ⟨hKind, rfl⟩ := Lexeme.readName_eq_ok_iff.1 hName
      cases hMove
      exact .paramName hKind
  | afterParam signature =>
      simp only [State.step] at hStep
      split at hStep
      case isTrue hComma =>
        cases hStep
        exact .comma hComma
      case isFalse =>
        obtain ⟨_, hKind, hMove⟩ := bind_eq_ok_iff.1 hStep
        cases hMove
        exact .closeParen (by simpa using Lexeme.expect_eq_ok_iff.1 hKind)
  | nextParam signature =>
      obtain ⟨type, hKind, hText, rfl⟩ := eq_paramName_of_readParamType hStep
      exact .nextType hKind hText
  | openBrace signature =>
      obtain ⟨_, hKind, hMove⟩ := bind_eq_ok_iff.1 hStep
      cases hMove
      exact .openBrace (by simpa using Lexeme.expect_eq_ok_iff.1 hKind)

/-- **What is consumed.**  A lexeme is consumed exactly by one of the listed moves. -/
theorem step_eq_ok_iff {state : State α} {lexeme : Lexeme} {mark : α} {move : Move α} :
    state.step lexeme mark = .ok move ↔ Consumes lexeme mark state move :=
  ⟨consumes_of_step, Consumes.step_eq⟩

/-! ## What is refused -/

/-- The kinds of lexemes that may come at a point. -/
def Point.accepts : Point α → List Kind
  | .between => [.lineBreak, .fn, .ret, .closeBrace]
  | .value _ => [.lineBreak, .semicolon, .integer]
  | .terminator _ _ => [.lineBreak, .semicolon]
  | .result _ | .name _ _ | .paramName _ _ _ | .nextParam _ => [.identifier]
  | .openParen _ => [.openParen]
  | .firstParam _ => [.closeParen, .identifier]
  | .afterParam _ => [.comma, .closeParen]
  | .openBrace _ => [.openBrace]

/-- What a lexeme of another kind is refused for not being.  At the first parameter that
is a type, at the end of the input it would be the parenthesis. -/
def Point.wants : Point α → Expectation
  | .firstParam _ | .nextParam _ => .parameterType
  | point => point.due

/-- The problem with a lexeme of a kind that may not come at a point. -/
def Point.problem : Point α → Lexeme → Problem
  | .between, lexeme => .unsupportedSyntax ("a statement starting with " ++ lexeme.describe)
  | .value _, lexeme => .unsupportedSyntax ("the non-literal expression " ++ lexeme.describe)
  | point, lexeme => .unexpectedLexeme point.wants.text lexeme.describe

/-- Whether an identifier at a point is read as a type. -/
def Point.readsType : Point α → Bool
  | .result _ | .firstParam _ | .nextParam _ => true
  | _ => false

/-- The refusals of the machine: a wrong kind, or an identifier that spells no type. -/
inductive Refuses (lexeme : Lexeme) (point : Point α) : Refusal → Prop where
  | kind (hKind : lexeme.kind ∉ point.accepts) : Refuses lexeme point ⟨point.problem lexeme, false⟩
  | type (hType : point.readsType = true) (hKind : lexeme.kind = .identifier)
      (hText : PrimType.ofSpelling? lexeme.text = none) :
      Refuses lexeme point ⟨.unknownType lexeme.text, true⟩

private theorem refuses_of_expect {point : Point α} {lexeme : Lexeme} {refusal : Refusal}
    {kinds : List Kind} {next : Unit → Except Refusal (Move α)}
    (hStep : (lexeme.expect point.wants.text kinds >>= next) = .error refusal)
    (hNext : ∀ found, next found ≠ .error refusal)
    (hKinds : lexeme.kind ∉ kinds → lexeme.kind ∉ point.accepts)
    (hProblem : point.problem lexeme = .unexpectedLexeme point.wants.text lexeme.describe) :
    Refuses lexeme point refusal := by
  rcases bind_eq_error_iff.1 hStep with hCheck | ⟨found, _, hDone⟩
  · obtain ⟨hKind, rfl⟩ := expect_eq_error_iff.1 hCheck
    rw [← hProblem]
    exact .kind (hKinds hKind)
  · exact absurd hDone (hNext found)

private theorem refuses_of_readName {point : Point α} {lexeme : Lexeme} {refusal : Refusal}
    {next : String → Except Refusal (Move α)}
    (hStep : (lexeme.readName point.wants.text >>= next) = .error refusal)
    (hNext : ∀ found, next found ≠ .error refusal) (hAccepts : point.accepts = [.identifier])
    (hProblem : point.problem lexeme = .unexpectedLexeme point.wants.text lexeme.describe) :
    Refuses lexeme point refusal := by
  rcases bind_eq_error_iff.1 hStep with hCheck | ⟨found, _, hDone⟩
  · obtain ⟨hKind, rfl⟩ := readName_eq_error_iff.1 hCheck
    rw [← hProblem]
    exact .kind (by simpa [hAccepts] using hKind)
  · exact absurd hDone (hNext found)

/-- A type refuses as the point says, or because it spells no type. -/
private theorem refuses_of_readType {point : Point α} {lexeme : Lexeme} {refusal : Refusal}
    {next : PrimType → Except Refusal (Move α)}
    (hStep : (lexeme.readType point.wants.text >>= next) = .error refusal)
    (hNext : ∀ found, next found ≠ .error refusal)
    (hKinds : lexeme.kind ≠ .identifier → lexeme.kind ∉ point.accepts)
    (hReads : point.readsType = true)
    (hProblem : point.problem lexeme = .unexpectedLexeme point.wants.text lexeme.describe) :
    Refuses lexeme point refusal := by
  rcases bind_eq_error_iff.1 hStep with hCheck | ⟨found, _, hDone⟩
  · rcases readType_eq_error_iff.1 hCheck with ⟨hKind, rfl⟩ | ⟨hKind, hText, rfl⟩
    · rw [← hProblem]
      exact .kind (hKinds hKind)
    · exact .type hReads hKind hText
  · exact absurd hDone (hNext found)

/-- What the machine refuses is a listed refusal. -/
theorem refuses_of_step {state : State α} {lexeme : Lexeme} {mark : α} {refusal : Refusal}
    (hStep : state.step lexeme mark = .error refusal) : Refuses lexeme state.point refusal := by
  obtain ⟨frames, point⟩ := state
  cases point with
  | between =>
      simp only [State.step, readBetween] at hStep
      split at hStep
      case h_4 => cases frames <;> cases hStep
      case h_5 hBreak hFn hRet hClose =>
        cases hStep
        exact .kind (by simpa [Point.accepts] using ⟨hBreak, hFn, hRet, hClose⟩)
      all_goals cases hStep
  | value ret =>
      simp only [State.step] at hStep
      split at hStep
      case isTrue => cases hStep
      case isFalse hEnd =>
        rcases bind_eq_error_iff.1 hStep with hValue | ⟨_, _, hDone⟩
        · obtain ⟨hKind, rfl⟩ := readInteger_eq_error_iff.1 hValue
          rw [isTerminator_iff, not_or] at hEnd
          exact .kind (by simp [Point.accepts, hKind, hEnd])
        · cases hDone
  | terminator ret value => exact refuses_of_expect hStep nofun id rfl
  | result fn => exact refuses_of_readType hStep nofun (by simp [Point.accepts]) rfl rfl
  | name fn type => exact refuses_of_readName hStep nofun rfl rfl
  | openParen signature => exact refuses_of_expect hStep nofun id rfl
  | firstParam signature =>
      simp only [State.step] at hStep
      split at hStep
      case isTrue => cases hStep
      case isFalse hClose =>
        exact refuses_of_readType hStep nofun (by simp [Point.accepts, hClose]) rfl rfl
  | paramName signature type param => exact refuses_of_readName hStep nofun rfl rfl
  | afterParam signature =>
      simp only [State.step] at hStep
      split at hStep
      case isTrue => cases hStep
      case isFalse hComma =>
        exact refuses_of_expect hStep nofun (by simp [Point.accepts, hComma]) rfl
  | nextParam signature => exact refuses_of_readType hStep nofun (by simp [Point.accepts]) rfl rfl
  | openBrace signature => exact refuses_of_expect hStep nofun id rfl

theorem Consumes.kind_mem {state : State α} {lexeme : Lexeme} {mark : α} {move : Move α}
    (hMove : Consumes lexeme mark state move) : lexeme.kind ∈ state.point.accepts := by
  cases hMove with
  | bareEnd hKind | valueEnd hKind =>
      rcases hKind with hKind | hKind <;> simp [Point.accepts, hKind]
  | _ => simp_all [Point.accepts]

/-- A lexeme that is consumed as a type spells one. -/
private theorem Consumes.spells_type {state : State α} {lexeme : Lexeme} {mark : α} {move : Move α}
    (hMove : Consumes lexeme mark state move) (hReads : state.point.readsType = true)
    (hKind : lexeme.kind = .identifier) : PrimType.ofSpelling? lexeme.text ≠ none := by
  cases hMove with
  | result _ hText | firstType _ hText | nextType _ hText =>
      rw [PrimType.ofSpelling?_eq_some_iff.2 hText]
      exact Option.some_ne_none _
  | noParams hParen => rw [hKind] at hParen; cases hParen
  | _ => cases hReads

/-- An identifier may come where a type is read. -/
theorem Point.identifier_mem_accepts {point : Point α} (hReads : point.readsType = true) :
    Kind.identifier ∈ point.accepts := by
  cases point <;> simp_all [Point.accepts, Point.readsType]

/-- **What is refused.**  A lexeme is refused exactly for one of the listed reasons. -/
theorem step_eq_error_iff {state : State α} {lexeme : Lexeme} {mark : α} {refusal : Refusal} :
    state.step lexeme mark = .error refusal ↔ Refuses lexeme state.point refusal := by
  refine ⟨refuses_of_step, fun hRefuses => ?_⟩
  cases hStep : state.step lexeme mark with
  | ok move =>
      have hMove := consumes_of_step hStep
      cases hRefuses with
      | kind hKind => exact absurd hMove.kind_mem hKind
      | type hReads hKind hText => exact absurd hText (hMove.spells_type hReads hKind)
  | error other =>
      -- The two reasons exclude each other, so there is only one refusal of a lexeme at
      -- a point.
      cases refuses_of_step hStep with
      | kind hKind =>
          cases hRefuses with
          | kind => rfl
          | type hReads hName => exact absurd (hName ▸ Point.identifier_mem_accepts hReads) hKind
      | type hReads hName =>
          cases hRefuses with
          | kind hKind => exact absurd (hName ▸ Point.identifier_mem_accepts hReads) hKind
          | type => rfl

end Frontend.Parsing
