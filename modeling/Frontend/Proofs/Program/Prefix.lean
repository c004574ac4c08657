import Frontend.Program.Grammar
import Frontend.Proofs.Program.Runs

/-!
# What a prefix of a program derives

Whatever the machine has read, it knows how to take it apart: complete statements
outside all functions, then for every open function a header and the statements of its
body so far, then the beginning of one more statement.  `Accounts` is this relation
between the lexemes read and the configuration reached, in terms of the grammar alone.

It holds at the start, every consumed lexeme preserves it, and so every run does
(`accounts_of_run`).  Where the input may end, nothing is open and nothing is begun, and
the relation says that the lexemes derive the statements.
-/

namespace Frontend.Grammar

/-- One more parameter behind those that each follow a comma. -/
theorem DerivesMoreParams.snoc {more last : List Lexeme} {comma : Lexeme}
    {params : List (Param Span)} {param : Param Span} (hMore : DerivesMoreParams more params)
    (hComma : comma.kind = .comma) (hLast : DerivesParam last param) :
    DerivesMoreParams (more ++ comma :: last) (params ++ [param]) := by
  induction hMore with
  | nil =>
      rw [← List.append_nil last]
      exact .cons hComma hLast .nil
  | cons hFirstComma hParam _ ih =>
      rw [List.cons_append, List.append_assoc]
      exact .cons hFirstComma hParam ih

/-- One more parameter behind at least one. -/
theorem DerivesParams.snoc {between last : List Lexeme} {comma : Lexeme}
    {params : List (Param Span)} {param : Param Span} (hParams : DerivesParams between params)
    (hSome : params ≠ []) (hComma : comma.kind = .comma) (hLast : DerivesParam last param) :
    DerivesParams (between ++ comma :: last) (params ++ [param]) := by
  cases hParams with
  | nil => exact absurd rfl hSome
  | cons hParam hMore =>
      rw [List.append_assoc]
      exact .cons hParam (hMore.snoc hComma hLast)

theorem DerivesParams.single {first : List Lexeme} {param : Param Span}
    (hParam : DerivesParam first param) : DerivesParams first [param] := by
  rw [← List.append_nil first]
  exact .cons hParam .nil

theorem DerivesParams.eq_nil {between : List Lexeme} (hParams : DerivesParams between []) :
    between = [] := by
  cases hParams
  rfl

/-- Statements after statements are statements. -/
theorem DerivesStatements.append {before after : List Lexeme} {first second : List (Stmt Span)} :
    DerivesStatements before first → DerivesStatements after second →
      DerivesStatements (before ++ after) (first ++ second)
  | .nil, hAfter => hAfter
  | .lineBreak hKind hRest, hAfter => .lineBreak hKind (hRest.append hAfter)
  | .statement hFirst hRest, hAfter => by
      rw [List.append_assoc]
      exact .statement hFirst (hRest.append hAfter)

theorem DerivesStatement.single {lexemes : List Lexeme} {statement : Stmt Span}
    (hStatement : DerivesStatement lexemes statement) : DerivesStatements lexemes [statement] := by
  rw [← List.append_nil lexemes]
  exact .statement hStatement .nil

end Frontend.Grammar

namespace Frontend.Parsing

open Grammar

/-! ## The relation -/

/-- A function's header up to and with its parameters so far. -/
inductive Listed : List Lexeme → Signature Span → Prop where
  | params {keyword typeName name openParen : Lexeme} {between : List Lexeme} {result : PrimType}
      {params : List (Param Span)} (hKeyword : keyword.kind = .fn) (hType : IsType typeName result)
      (hName : name.kind = .identifier) (hOpenParen : openParen.kind = .openParen)
      (hParams : DerivesParams between params) :
      Listed (keyword :: typeName :: name :: openParen :: between)
        ⟨result, name.text, params, keyword.span⟩

/-- A function's header up to where a parameter must follow or, at first, may. -/
inductive ParamDue : List Lexeme → Signature Span → Prop where
  | first {header : List Lexeme} {signature : Signature Span} (hListed : Listed header signature)
      (hNone : signature.params = []) : ParamDue header signature
  | next {header : List Lexeme} {comma : Lexeme} {signature : Signature Span}
      (hListed : Listed header signature) (hSome : signature.params ≠ [])
      (hComma : comma.kind = .comma) : ParamDue (header ++ [comma]) signature

/-- The beginning of a statement that leads to a point of the grammar. -/
inductive Begun : List Lexeme → Point Span → Prop where
  | between : Begun [] .between
  | value {keyword : Lexeme} (hKeyword : keyword.kind = .ret) :
      Begun [keyword] (.value keyword.span)
  | terminator {keyword value : Lexeme} (hKeyword : keyword.kind = .ret)
      (hValue : value.kind = .integer) :
      Begun [keyword, value] (.terminator keyword.span ⟨value.value, value.span⟩)
  | result {keyword : Lexeme} (hKeyword : keyword.kind = .fn) :
      Begun [keyword] (.result keyword.span)
  | name {keyword typeName : Lexeme} {result : PrimType} (hKeyword : keyword.kind = .fn)
      (hType : IsType typeName result) : Begun [keyword, typeName] (.name keyword.span result)
  | openParen {keyword typeName name : Lexeme} {result : PrimType} (hKeyword : keyword.kind = .fn)
      (hType : IsType typeName result) (hName : name.kind = .identifier) :
      Begun [keyword, typeName, name] (.openParen ⟨result, name.text, [], keyword.span⟩)
  | firstParam {header : List Lexeme} {signature : Signature Span}
      (hListed : Listed header signature) (hNone : signature.params = []) :
      Begun header (.firstParam signature)
  | paramName {header : List Lexeme} {typeName : Lexeme} {signature : Signature Span}
      {type : PrimType} (hDue : ParamDue header signature) (hType : IsType typeName type) :
      Begun (header ++ [typeName]) (.paramName signature type typeName.span)
  | afterParam {header : List Lexeme} {signature : Signature Span}
      (hListed : Listed header signature) (hSome : signature.params ≠ []) :
      Begun header (.afterParam signature)
  | nextParam {header : List Lexeme} {comma : Lexeme} {signature : Signature Span}
      (hListed : Listed header signature) (hSome : signature.params ≠ [])
      (hComma : comma.kind = .comma) : Begun (header ++ [comma]) (.nextParam signature)
  | openBrace {header : List Lexeme} {closeParen : Lexeme} {signature : Signature Span}
      (hListed : Listed header signature) (hCloseParen : closeParen.kind = .closeParen) :
      Begun (header ++ [closeParen]) (.openBrace signature)

/-- The open functions, outermost first: a header, a brace, and statements. -/
inductive Opened : List Lexeme → List (Frame Span) → Prop where
  | nil : Opened [] []
  | cons {outer header inside : List Lexeme} {closeParen brace : Lexeme}
      {signature : Signature Span} {body : List (Stmt Span)} {frames : List (Frame Span)}
      (hOuter : Opened outer frames) (hListed : Listed header signature)
      (hCloseParen : closeParen.kind = .closeParen) (hBrace : brace.kind = .openBrace)
      (hInside : DerivesStatements inside body) :
      Opened (outer ++ (header ++ closeParen :: brace :: inside))
        (⟨signature, brace.span, body⟩ :: frames)

/-- What was read and what the machine has made of it. -/
inductive Accounts : List Lexeme → Config → Prop where
  | parts {outer opened begun : List Lexeme} {done : List (Stmt Span)}
      {frames : List (Frame Span)} {point : Point Span} (hDone : DerivesStatements outer done)
      (hOpened : Opened opened frames) (hBegun : Begun begun point) :
      Accounts (outer ++ (opened ++ begun)) ⟨done, ⟨frames, point⟩⟩

/-! ## What one lexeme preserves -/

/-- The name of a parameter completes it. -/
theorem ParamDue.addParam {header : List Lexeme} {typeName name : Lexeme}
    {signature : Signature Span} {type : PrimType} (hDue : ParamDue header signature)
    (hType : IsType typeName type) (hName : name.kind = .identifier) :
    Listed (header ++ [typeName, name])
      (addParam signature ⟨type, name.text, typeName.span⟩) := by
  have hParam := DerivesParam.param hType hName
  cases hDue with
  | first hListed hNone =>
      obtain ⟨hKeyword, hResult, hNamed, hOpen, hParams⟩ := hListed
      cases hNone
      cases hParams.eq_nil
      exact .params hKeyword hResult hNamed hOpen (.single hParam)
  | next hListed hSome hComma =>
      obtain ⟨hKeyword, hResult, hNamed, hOpen, hParams⟩ := hListed
      rw [List.append_assoc]
      exact .params hKeyword hResult hNamed hOpen (hParams.snoc hSome hComma hParam)

theorem Listed.statement {header inside : List Lexeme} {closeParen brace closeBrace : Lexeme}
    {signature : Signature Span} {body : List (Stmt Span)} (hListed : Listed header signature)
    (hCloseParen : closeParen.kind = .closeParen) (hBrace : brace.kind = .openBrace)
    (hInside : DerivesStatements inside body) (hCloseBrace : closeBrace.kind = .closeBrace) :
    DerivesStatement (header ++ closeParen :: brace :: (inside ++ [closeBrace]))
      (.fn signature brace.span body) := by
  obtain ⟨hKeyword, hResult, hNamed, hOpen, hParams⟩ := hListed
  exact .fn hKeyword hResult hNamed hOpen hParams hCloseParen hBrace hInside hCloseBrace

/-- More statements go to the innermost open body, or to the program. -/
private theorem accounts_add {outer opened lexemes : List Lexeme} {done more : List (Stmt Span)}
    {frames : List (Frame Span)} (hDone : DerivesStatements outer done)
    (hOpened : Opened opened frames) (hMore : DerivesStatements lexemes more) :
    Accounts (outer ++ (opened ++ lexemes)) (Config.add done frames more) := by
  cases hOpened with
  | nil =>
      have hAll := Accounts.parts (hDone.append hMore) .nil .between
      rwa [List.append_nil, List.append_nil] at hAll
  | cons hOuter hListed hCloseParen hBrace hInside =>
      have hFrame := Opened.cons hOuter hListed hCloseParen hBrace (hInside.append hMore)
      have hAll := Accounts.parts hDone hFrame .between
      simpa only [Config.add, List.append_nil, List.append_assoc, List.cons_append] using hAll

/-- One more lexeme of the statement at hand. -/
private theorem accounts_of_begun {outer opened begun : List Lexeme} {lexeme : Lexeme}
    {done : List (Stmt Span)} {frames : List (Frame Span)} {point : Point Span}
    (hDone : DerivesStatements outer done) (hOpened : Opened opened frames)
    (hBegun : Begun (begun ++ [lexeme]) point) :
    Accounts (outer ++ (opened ++ begun) ++ [lexeme]) ⟨done, ⟨frames, point⟩⟩ := by
  rw [List.append_assoc, List.append_assoc]
  exact .parts hDone hOpened hBegun

/-- A lexeme that completes the statement at hand. -/
private theorem accounts_of_complete {outer opened begun : List Lexeme} {lexeme : Lexeme}
    {done : List (Stmt Span)} {frames : List (Frame Span)} {statement : Stmt Span} {next : Config}
    (hDone : DerivesStatements outer done) (hOpened : Opened opened frames)
    (hStatement : DerivesStatement (begun ++ [lexeme]) statement)
    (hNext : Config.after? done (place statement frames) = some next) :
    Accounts (outer ++ (opened ++ begun) ++ [lexeme]) next := by
  rw [Config.after?_place] at hNext
  cases hNext
  rw [List.append_assoc, List.append_assoc]
  exact accounts_add hDone hOpened hStatement.single

/-- **Step.**  A consumed lexeme joins what was read. -/
theorem Accounts.next {lexemes : List Lexeme} {config next : Config} {lexeme : Lexeme}
    (hAccounts : Accounts lexemes config) (hNext : config.next? lexeme = some next) :
    Accounts (lexemes ++ [lexeme]) next := by
  obtain ⟨move, hMove, hAfter⟩ := Config.consumes_of_next? hNext
  obtain ⟨hDone, hOpened, hBegun⟩ := hAccounts
  cases hMove with
  | lineBreak hKind =>
      -- A line break counts as no statements, wherever it stands.
      cases hBegun
      cases hAfter
      rw [← Config.add_nil, List.append_nil, List.append_assoc]
      exact accounts_add hDone hOpened (.lineBreak hKind .nil)
  | fn hKind =>
      cases hBegun
      cases hAfter
      exact accounts_of_begun hDone hOpened (.result hKind)
  | ret hKind =>
      cases hBegun
      cases hAfter
      exact accounts_of_begun hDone hOpened (.value hKind)
  | stop => cases hAfter
  | close hKind =>
      cases hBegun
      cases hOpened with
      | cons hOuter hListed hCloseParen hBrace hInside =>
          have hFn := hListed.statement hCloseParen hBrace hInside hKind
          rw [Config.after?_place] at hAfter
          cases hAfter
          have hAll := accounts_add hDone hOuter hFn.single
          simpa only [List.append_nil, List.append_assoc, List.cons_append] using hAll
  | bareEnd hKind =>
      cases hBegun with
      | value hKeyword => exact accounts_of_complete hDone hOpened (.ret hKeyword hKind) hAfter
  | value hKind =>
      cases hBegun with
      | value hKeyword =>
          cases hAfter
          exact accounts_of_begun hDone hOpened (.terminator hKeyword hKind)
  | valueEnd hKind =>
      cases hBegun with
      | terminator hKeyword hValue =>
          exact accounts_of_complete hDone hOpened (.retValue hKeyword hValue hKind) hAfter
  | result hKind hText =>
      cases hBegun with
      | result hKeyword =>
          cases hAfter
          exact accounts_of_begun hDone hOpened (.name hKeyword ⟨hKind, hText⟩)
  | name hKind =>
      cases hBegun with
      | name hKeyword hType =>
          cases hAfter
          exact accounts_of_begun hDone hOpened (.openParen hKeyword hType hKind)
  | openParen hKind =>
      cases hBegun with
      | openParen hKeyword hType hName =>
          cases hAfter
          exact accounts_of_begun hDone hOpened
            (.firstParam (.params hKeyword hType hName hKind .nil) rfl)
  | noParams hKind =>
      cases hBegun with
      | firstParam hListed =>
          cases hAfter
          exact accounts_of_begun hDone hOpened (.openBrace hListed hKind)
  | firstType hKind hText =>
      cases hBegun with
      | firstParam hListed hNone =>
          cases hAfter
          exact accounts_of_begun hDone hOpened
            (.paramName (.first hListed hNone) ⟨hKind, hText⟩)
  | nextType hKind hText =>
      cases hBegun with
      | nextParam hListed hSome hComma =>
          cases hAfter
          exact accounts_of_begun hDone hOpened
            (.paramName (.next hListed hSome hComma) ⟨hKind, hText⟩)
  | paramName hKind =>
      cases hBegun with
      | paramName hDue hType =>
          cases hAfter
          have hListed := hDue.addParam hType hKind
          refine accounts_of_begun hDone hOpened (.afterParam ?_ (by simp [addParam]))
          simpa only [List.append_assoc, List.cons_append, List.nil_append] using hListed
  | comma hKind =>
      cases hBegun with
      | afterParam hListed hSome =>
          cases hAfter
          exact accounts_of_begun hDone hOpened (.nextParam hListed hSome hKind)
  | closeParen hKind =>
      cases hBegun with
      | afterParam hListed =>
          cases hAfter
          exact accounts_of_begun hDone hOpened (.openBrace hListed hKind)
  | openBrace hKind =>
      cases hBegun with
      | openBrace hListed hCloseParen =>
          cases hAfter
          have hFrame := Opened.cons hOpened hListed hCloseParen hKind .nil
          have hAll := Accounts.parts hDone hFrame .between
          simpa only [List.append_nil, List.append_assoc, List.cons_append, List.nil_append]
            using hAll

/-! ## What a run preserves -/

/-- **Run.**  Consumed lexemes join what was read before them. -/
theorem Accounts.run {before lexemes : List Lexeme} {config final : Config}
    (hAccounts : Accounts before config) (hRun : config.run? lexemes = some final) :
    Accounts (before ++ lexemes) final := by
  induction lexemes generalizing before config with
  | nil =>
      cases hRun
      rw [List.append_nil]
      exact hAccounts
  | cons lexeme lexemes ih =>
      obtain ⟨next, hNext, hRest⟩ := Option.bind_eq_some_iff.1 hRun
      have hAll := ih (hAccounts.next hNext) hRest
      rwa [List.append_assoc, List.singleton_append] at hAll

/-- What was read from the start is accounted for. -/
theorem accounts_of_run {lexemes : List Lexeme} {final : Config}
    (hRun : Config.start.run? lexemes = some final) : Accounts lexemes final :=
  (Accounts.parts .nil .nil .between).run hRun

/-- Between the statements of a program, all that was read is complete. -/
theorem Accounts.derives {lexemes : List Lexeme} {config : Config}
    (hAccounts : Accounts lexemes config) (hStart : config.state = .start) :
    DerivesStatements lexemes config.done := by
  obtain ⟨hDone, hOpened, hBegun⟩ := hAccounts
  cases hStart
  cases hOpened
  cases hBegun
  simpa only [List.append_nil] using hDone

end Frontend.Parsing
