import Frontend.Program.Printer
import Frontend.Proofs.Lexeme.Written
import Frontend.Proofs.Program.Prefix

/-!
# Printed programs

The text of a well-formed program is written text in the sense of `Scan.Writes`: every
name and every number in it is followed by a mark.  Its lexemes derive a program that
differs from the printed one at most in its marks (`derives_of_print`).

The argument follows the printer.  A header is written from right to left, because a
word can be put in front only of a text that begins with a mark; statements are then put
one after the other, by induction on the program.
-/

namespace Frontend

open Grammar
open Scan (Writes One Then IsMark)

variable {α : Type}

/-- Forgets the mark. -/
def Param.erase (param : Param α) : Param Unit := param.map fun _ => ()

/-- Forgets the marks. -/
def Stmt.erase (statement : Stmt α) : Stmt Unit := statement.map fun _ => ()

/-- Forgets the marks of several statements. -/
def Stmt.eraseAll (statements : List (Stmt α)) : List (Stmt Unit) :=
  Stmt.mapAll (fun _ => ()) statements

/-! ## Names and values -/

/-- A name is a run of letters that is read as an identifier. -/
theorem IsName.reading {name : String} (hName : IsName name) :
    IsPiece name.toList ∧ Reading.of name.toList = .lexeme .identifier (.name name) := by
  obtain ⟨hNonempty, hLetters, hKeyword⟩ := hName
  have hChars : name.toList ≠ [] := String.toList_eq_nil_iff.ne.2 hNonempty
  refine ⟨.word hChars hLetters, ?_⟩
  rw [Reading.of_word hChars hLetters, String.ofList_toList, Reading.ofWord, hKeyword]

private theorem isName_spelling (type : PrimType) : IsName type.spelling := by
  cases type with
  | void => exact ⟨by decide, List.all_eq_true.1 rfl, rfl⟩
  | int => exact ⟨by decide, List.all_eq_true.1 rfl, rfl⟩

/-- A value is a run of digits that is read as that value. -/
theorem IsValue.reading {value : Value} (hValue : IsValue value) :
    IsPiece value.dump.toList ∧ Reading.of value.dump.toList = .lexeme .integer value := by
  obtain ⟨number, rfl, hSign, hBound⟩ := hValue
  obtain ⟨n, rfl⟩ := Int.eq_ofNat_of_zero_le hSign
  have hFits : n ≤ int64Max := Int.ofNat_le.1 hBound
  have hRepr : (Value.integer (n : Int)).dump.toList = Nat.toDigits 10 n := Nat.toList_repr
  have hNonempty : Nat.toDigits 10 n ≠ [] := List.ne_nil_of_length_pos Nat.length_toDigits_pos
  have hDigits : ∀ c ∈ Nat.toDigits 10 n, c.isDigit = true := fun c hMem =>
    Nat.isDigit_of_mem_toDigits (by decide) (by decide) hMem
  have hShort : (Nat.toDigits 10 n).length ≤ 20 := by
    rw [Nat.length_toDigits_le_iff (by decide) (by decide)]
    exact Nat.lt_of_le_of_lt hFits (by decide)
  have hConverted : ¬digitLimit < (Nat.toDigits 10 n).length :=
    Nat.not_lt.2 (Nat.le_trans hShort (by decide))
  rw [hRepr]
  refine ⟨.digits hNonempty hDigits, ?_⟩
  rw [Reading.of_digits hNonempty hDigits, Reading.ofDigits, Nat.ofDigitChars_ten_toDigits,
    if_neg hConverted, if_neg (Nat.not_lt.2 hFits)]

section Runs

variable {c : Char} {text : List Char} {shape : List Lexeme → Prop}

private theorem writes_name {name : String} (hName : IsName name) (hMark : IsMark c)
    (hText : Writes (c :: text) shape) :
    Writes (name.toList ++ c :: text) (Then (One .identifier name (.name name)) shape) := by
  obtain ⟨hPiece, hReading⟩ := hName.reading
  have hRun := Writes.run hPiece hReading hMark hText
  rwa [String.ofList_toList] at hRun

private theorem writes_value {value : Value} (hValue : IsValue value) (hMark : IsMark c)
    (hText : Writes (c :: text) shape) :
    Writes (value.dump.toList ++ c :: text) (Then (One .integer value.dump value) shape) := by
  obtain ⟨hPiece, hReading⟩ := hValue.reading
  have hRun := Writes.run hPiece hReading hMark hText
  rwa [String.ofList_toList] at hRun

private theorem writes_spaced (hText : Writes text shape) : Writes (' ' :: text) shape := by
  apply (Writes.space.append hText).imp
  rintro _ ⟨_, lexemes, rfl, rfl, hShape⟩
  exact hShape

end Runs

/-! ## Headers -/

/-- Lexemes of parameters, derived up to marks, and of the parenthesis after them. -/
def Closes (derives : List Lexeme → List (Param Span) → Prop) (params : List (Param α))
    (lexemes : List Lexeme) : Prop :=
  ∃ between closeParen found, lexemes = between ++ [closeParen] ∧
    closeParen.kind = .closeParen ∧ derives between found ∧
    found.map Param.erase = params.map Param.erase

/-- A parenthesis closes no parameters. -/
private theorem writes_closeParen {derives : List Lexeme → List (Param Span) → Prop}
    (hNone : derives [] []) : Writes [')'] (Closes derives ([] : List (Param α))) := by
  have hMark : Writes [')'] (One .closeParen ")" .absent) := Writes.mark ⟨rfl, rfl⟩ rfl
  apply hMark.imp
  rintro _ ⟨closeParen, rfl, hKind, -⟩
  exact ⟨[], closeParen, [], rfl, hKind, hNone, rfl⟩

/-- The text of parameters that each follow a comma, and of the parenthesis after
them. -/
def closingText : List (Param α) → List Char
  | [] => [')']
  | param :: params => ',' :: ' ' :: (param.print.toList ++ closingText params)

private theorem closingText_head (params : List (Param α)) :
    ∃ c text, closingText params = c :: text ∧ IsMark c := by
  cases params with
  | nil => exact ⟨')', [], rfl, rfl, rfl⟩
  | cons param params => exact ⟨',', _, rfl, rfl, rfl⟩

/-- A parameter in front of a mark. -/
private theorem writes_param {param : Param α} (hName : IsName param.name) {c : Char}
    {text : List Char}
    {shape : List Lexeme → Prop} (hMark : IsMark c) (hText : Writes (c :: text) shape) :
    Writes (param.print.toList ++ c :: text)
      (Then (fun lexemes => ∃ found, DerivesParam lexemes found ∧ found.erase = param.erase)
        shape) := by
  have hWritten := writes_name (isName_spelling param.type) ⟨rfl, rfl⟩
    (writes_spaced (writes_name hName hMark hText))
  have hPrint : param.print.toList ++ c :: text =
      param.type.spelling.toList ++ ' ' :: (param.name.toList ++ c :: text) := by
    simp [Param.print]
  rw [hPrint]
  apply hWritten.imp
  rintro _ ⟨_, _, rfl, ⟨typeName, rfl, hTypeKind, hTypeText, -⟩,
    _, rest, rfl, ⟨name, rfl, hNameKind, hNameText, -⟩, hRest⟩
  refine ⟨[typeName, name], rest, rfl, ⟨_, .param ⟨hTypeKind, hTypeText⟩ hNameKind, ?_⟩, hRest⟩
  rw [hNameText]
  rfl

/-- Parameters that each follow a comma. -/
private theorem writes_closingText {params : List (Param α)}
    (hNames : ∀ param ∈ params, IsName param.name) :
    Writes (closingText params) (Closes DerivesMoreParams params) := by
  induction params with
  | nil => exact writes_closeParen .nil
  | cons param params ih =>
      obtain ⟨c, text, hHead, hMark⟩ := closingText_head params
      have hMore := ih fun other hMem => hNames other (List.mem_cons_of_mem _ hMem)
      rw [hHead] at hMore
      have hParam := writes_param (hNames param List.mem_cons_self) hMark hMore
      have hComma : Writes [','] (One .comma "," .absent) := Writes.mark ⟨rfl, rfl⟩ rfl
      rw [closingText, hHead]
      apply (hComma.append (writes_spaced hParam)).imp
      rintro _ ⟨_, _, rfl, ⟨comma, rfl, hKind, -⟩, first, _, rfl, ⟨found, hFound, hSame⟩,
        between, closeParen, others, rfl, hClose, hOthers, hSame'⟩
      refine ⟨comma :: (first ++ between), closeParen, found :: others, ?_, hClose,
        .cons hKind hFound hOthers, ?_⟩
      · simp
      · rw [List.map_cons, List.map_cons, hSame, hSame']

/-- Parameters with commas between them are the first, and then those that follow a
comma. -/
private theorem intercalate_append_close (param : Param α) (params : List (Param α)) :
    (", ".intercalate ((param :: params).map Param.print)).toList ++ [')'] =
      param.print.toList ++ closingText params := by
  induction params generalizing param with
  | nil => simp [closingText]
  | cons next params ih =>
      have hRest := ih next
      rw [List.map_cons] at hRest
      rw [List.map_cons, List.map_cons, String.intercalate_cons_cons, String.toList_append,
        List.append_assoc, hRest, closingText, String.toList_append, List.append_assoc]
      rfl

/-- Parameters with commas between them, and the parenthesis after them. -/
private theorem writes_params {params : List (Param α)}
    (hNames : ∀ param ∈ params, IsName param.name) :
    Writes ((", ".intercalate (params.map Param.print)).toList ++ [')'])
      (Closes DerivesParams params) := by
  cases params with
  | nil => exact writes_closeParen .nil
  | cons param params =>
      obtain ⟨c, text, hHead, hMark⟩ := closingText_head params
      have hMore := writes_closingText fun other hMem => hNames other (List.mem_cons_of_mem _ hMem)
      rw [hHead] at hMore
      have hParam := writes_param (hNames param List.mem_cons_self) hMark hMore
      rw [intercalate_append_close, hHead]
      apply hParam.imp
      rintro _ ⟨first, _, rfl, ⟨found, hFound, hSame⟩,
        between, closeParen, others, rfl, hClose, hOthers, hSame'⟩
      refine ⟨first ++ between, closeParen, found :: others, ?_, hClose, .cons hFound hOthers, ?_⟩
      · rw [List.append_assoc]
      · rw [List.map_cons, List.map_cons, hSame, hSame']

/-- The lexemes of a header, which denote the same signature up to marks. -/
inductive Heads (signature : Signature α) : List Lexeme → Prop where
  | header {keyword typeName name openParen closeParen : Lexeme} {between : List Lexeme}
      {params : List (Param Span)} (hKeyword : keyword.kind = .fn)
      (hType : IsType typeName signature.result) (hName : name.kind = .identifier)
      (hText : name.text = signature.name) (hOpen : openParen.kind = .openParen)
      (hParams : DerivesParams between params)
      (hSame : params.map Param.erase = signature.params.map Param.erase)
      (hClose : closeParen.kind = .closeParen) :
      Heads signature (keyword :: typeName :: name :: openParen :: (between ++ [closeParen]))

/-- **A header** is written, from its parenthesis back to its keyword. -/
theorem writes_signature {signature : Signature α} (hFormed : signature.WellFormed) :
    Writes signature.print.toList (Heads signature) := by
  have hOpen : Writes ['('] (One .openParen "(" .absent) := Writes.mark ⟨rfl, rfl⟩ rfl
  have hName := writes_name hFormed.1 ⟨rfl, rfl⟩ (hOpen.append (writes_params hFormed.2))
  have hType := writes_name (isName_spelling signature.result) ⟨rfl, rfl⟩ (writes_spaced hName)
  have hFn : IsPiece ['f', 'n'] := .word (by decide) (List.all_eq_true.1 rfl)
  have hHeader := Writes.run hFn (rfl : _ = Reading.lexeme .fn .absent) ⟨rfl, rfl⟩
    (writes_spaced hType)
  have hPrint : signature.print.toList =
      ['f', 'n'] ++ ' ' :: (signature.result.spelling.toList ++ ' ' :: (signature.name.toList ++
        (['('] ++ ((", ".intercalate (signature.params.map Param.print)).toList ++ [')'])))) := by
    simp [Signature.print]
  rw [hPrint]
  apply hHeader.imp
  rintro _ ⟨_, _, rfl, ⟨keyword, rfl, hKeyword, -⟩,
    _, _, rfl, ⟨typeName, rfl, hTypeKind, hTypeText, -⟩,
    _, _, rfl, ⟨name, rfl, hNameKind, hNameText, -⟩,
    _, _, rfl, ⟨openParen, rfl, hOpenKind, -⟩,
    between, closeParen, params, rfl, hClose, hParams, hSame⟩
  exact .header hKeyword ⟨hTypeKind, hTypeText⟩ hNameKind hNameText hOpenKind hParams hSame hClose

/-! ## Statements -/

private theorem derivesStatements_of_lineBreaks {lexemes : List Lexeme}
    (hBreaks : ∀ lexeme ∈ lexemes, lexeme.kind = .lineBreak) : DerivesStatements lexemes [] := by
  induction lexemes with
  | nil => exact .nil
  | cons lexeme rest ih =>
      exact .lineBreak (hBreaks lexeme List.mem_cons_self)
        (ih fun other hMem => hBreaks other (List.mem_cons_of_mem _ hMem))

/-- A gap derives no statement. -/
private theorem writes_gap (gap : Gap) :
    Writes gap.text.toList fun lexemes => DerivesStatements lexemes [] := by
  cases gap with
  | space =>
      apply Writes.space.imp
      rintro _ rfl
      exact .nil
  | line => exact Writes.lineFeed.imp fun _ => derivesStatements_of_lineBreaks

/-- Lexemes that derive one statement, up to marks. -/
def DerivesLike (statement : Stmt α) (lexemes : List Lexeme) : Prop :=
  ∃ found, DerivesStatements lexemes [found] ∧ found.erase = statement.erase

/-- Lexemes that derive several statements, up to marks. -/
def DerivesAllLike (statements : List (Stmt α)) (lexemes : List Lexeme) : Prop :=
  ∃ found, DerivesStatements lexemes found ∧ Stmt.eraseAll found = Stmt.eraseAll statements

/-- A return is written. -/
private theorem writes_return {value : Option (IntLit Gap)} {gap : Gap}
    (hFormed : (Stmt.ret value gap).WellFormed) :
    Writes (Stmt.ret value gap).print.toList (DerivesLike (Stmt.ret value gap)) := by
  have hRet : IsPiece "return".toList := .word (by decide) (List.all_eq_true.1 rfl)
  have hReading : Reading.of "return".toList = .lexeme .ret .absent := rfl
  have hEnd : Writes [';'] (One .semicolon ";" .absent) := Writes.mark ⟨rfl, rfl⟩ rfl
  cases value with
  | none =>
      have hPrint : (Stmt.ret none gap).print.toList = "return".toList ++ [';'] := by
        rw [Stmt.print]
        rfl
      rw [hPrint]
      refine (Writes.run hRet hReading ⟨rfl, rfl⟩ hEnd).imp ?_
      rintro _ ⟨_, _, rfl, ⟨keyword, rfl, hKeyword, -⟩, semicolon, rfl, hSemicolon, -⟩
      exact ⟨_, (DerivesStatement.ret hKeyword (Or.inr hSemicolon)).single, rfl⟩
  | some literal =>
      have hValue : IsValue literal.value := hFormed literal rfl
      have hPrint : (Stmt.ret (some literal) gap).print.toList =
          "return".toList ++ ' ' :: (literal.value.dump.toList ++ [';']) := by
        simp [Stmt.print]
      rw [hPrint]
      refine (Writes.run hRet hReading ⟨rfl, rfl⟩
        (writes_spaced (writes_value hValue ⟨rfl, rfl⟩ hEnd))).imp ?_
      rintro _ ⟨_, _, rfl, ⟨keyword, rfl, hKeyword, -⟩, _, _, rfl,
        ⟨number, rfl, hNumber, -, hRead⟩, semicolon, rfl, hSemicolon, -⟩
      refine ⟨_, (DerivesStatement.retValue hKeyword hNumber (Or.inr hSemicolon)).single, ?_⟩
      show Stmt.ret (some ⟨number.value, ()⟩) () = Stmt.ret (some ⟨literal.value, ()⟩) ()
      rw [hRead]

/-- A function is written when its body is. -/
private theorem writes_function {signature : Signature Gap} {brace : Gap} {body : List (Stmt Gap)}
    (hFormed : signature.WellFormed)
    (hBody : Writes (Stmt.printBody body).toList (DerivesAllLike body)) :
    Writes (Stmt.fn signature brace body).print.toList
      (DerivesLike (Stmt.fn signature brace body)) := by
  have hOpen : Writes ['\x7b'] (One .openBrace "\x7b" .absent) := Writes.mark ⟨rfl, rfl⟩ rfl
  have hClose : Writes ['\x7d'] (One .closeBrace "\x7d" .absent) := Writes.mark ⟨rfl, rfl⟩ rfl
  have hInside := (writes_gap brace).append (hBody.append hClose)
  have hWritten := (writes_signature hFormed).append (writes_spaced (hOpen.append hInside))
  have hPrint : (Stmt.fn signature brace body).print.toList =
      signature.print.toList ++ ' ' :: (['\x7b'] ++ (brace.text.toList ++
        ((Stmt.printBody body).toList ++ ['\x7d']))) := by
    simp [Stmt.print]
  rw [hPrint]
  apply hWritten.imp
  rintro _ ⟨_, _, rfl, hHeads, _, _, rfl, ⟨openBrace, rfl, hOpenBrace, -⟩,
    breaks, _, rfl, hBreaks, inside, _, rfl, ⟨found, hFound, hSame⟩,
    closeBrace, rfl, hCloseBrace, -⟩
  obtain @⟨keyword, typeName, name, openParen, closeParen, between, params, hKeyword, hType, hName,
    hText, hOpenParen, hParams, hSameParams, hCloseParen⟩ := hHeads
  -- The gap after the opening brace is read as the beginning of the body.
  have hFunction := DerivesStatement.fn hKeyword hType hName hOpenParen hParams hCloseParen
    hOpenBrace (hBreaks.append hFound) hCloseBrace
  refine ⟨_, by simpa using hFunction.single, ?_⟩
  show Stmt.fn ⟨signature.result, name.text, params.map Param.erase, ()⟩ () (Stmt.eraseAll found) =
    Stmt.fn ⟨signature.result, signature.name, signature.params.map Param.erase, ()⟩ ()
      (Stmt.eraseAll body)
  rw [hText, hSameParams, hSame]

/-! ## Several statements -/

/-- No statements are written as nothing. -/
private theorem writes_none : Writes [] (DerivesAllLike ([] : List (Stmt Gap))) := by
  apply Writes.nil.imp
  rintro _ rfl
  exact ⟨[], .nil, rfl⟩

/-- A statement in front of others, with its gap between them. -/
private theorem writes_separated {statement : Stmt Gap} {statements : List (Stmt Gap)}
    {rest : String}
    (hFirst : Writes statement.print.toList (DerivesLike statement))
    (hRest : Writes rest.toList (DerivesAllLike statements)) :
    Writes (statement.print ++ statement.gap.text ++ rest).toList
      (DerivesAllLike (statement :: statements)) := by
  have hGap := writes_gap statement.gap
  rw [String.toList_append, String.toList_append, List.append_assoc]
  apply (hFirst.append (hGap.append hRest)).imp
  rintro _ ⟨_, _, rfl, ⟨found, hFound, hSame⟩, breaks, _, rfl, hBreaks, others, hOthers, hSame'⟩
  refine ⟨found :: others, hFound.append (hBreaks.append hOthers), ?_⟩
  show found.erase :: Stmt.eraseAll others = statement.erase :: Stmt.eraseAll statements
  rw [hSame, hSame']

mutual

/-- A well-formed statement is written. -/
private theorem writes_statement : ∀ statement : Stmt Gap, statement.WellFormed →
    Writes statement.print.toList (DerivesLike statement)
  | .ret _ _, hFormed => writes_return hFormed
  | .fn _ _ body, hFormed => writes_function hFormed.1 (writes_body body hFormed.2)

/-- A well-formed body is written, with a gap behind each of its statements. -/
private theorem writes_body : ∀ statements : List (Stmt Gap), Stmt.AllWellFormed statements →
    Writes (Stmt.printBody statements).toList (DerivesAllLike statements)
  | [], _ => writes_none
  | statement :: statements, hFormed =>
      writes_separated (writes_statement statement hFormed.1) (writes_body statements hFormed.2)

end

/-- Well-formed statements are written, with gaps only between them. -/
private theorem writes_statements : ∀ statements : List (Stmt Gap), Stmt.AllWellFormed statements →
    Writes (Stmt.printAll statements).toList (DerivesAllLike statements)
  | [], _ => writes_none
  | [statement], hFormed => by
      apply (writes_statement statement hFormed.1).imp
      rintro lexemes ⟨found, hFound, hSame⟩
      exact ⟨[found], hFound, congrArg (List.cons · []) hSame⟩
  | statement :: next :: statements, hFormed =>
      writes_separated (writes_statement statement hFormed.1)
        (writes_statements (next :: statements) hFormed.2)

/-- **A printed program** has lexemes, which derive it up to marks. -/
theorem derives_of_print {layout : Program Gap} (hFormed : layout.WellFormed) :
    ∃ lexemes found, lex layout.print = .ok lexemes ∧ DerivesStatements lexemes found ∧
      Stmt.eraseAll found = Stmt.eraseAll layout.statements := by
  obtain ⟨lexemes, hLex, found, hFound, hSame⟩ :=
    (writes_statements layout.statements hFormed).lex_eq_ok
  exact ⟨lexemes, found, hLex, hFound, hSame⟩

end Frontend
