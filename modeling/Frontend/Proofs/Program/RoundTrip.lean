import Frontend.Program.Node
import Frontend.Proofs.Lexeme.Cuts
import Frontend.Proofs.Program.Acceptance
import Frontend.Proofs.Program.Printed

/-!
# Round trip

Printing a well-formed program and reading the text back gives the program, up to marks.
In the other direction every program that can be read is well-formed, and all its marks
are spans of lexemes; so it can be printed again, and reading that gives it back up to
marks.  The programs that can be read are therefore exactly those that can be printed
(`ofSource_print`).

That a program which was read is well-formed is shown along its derivation, from one
fact about lexemes: kind, text and value of a lexeme that comes from a source agree with
each other.
-/

namespace Frontend

open Grammar

variable {α β γ : Type}

/-! ## Marks do not matter -/

/-- Whether a header is well-formed does not depend on marks. -/
theorem Signature.wellFormed_map (f : α → β) (signature : Signature α) :
    (signature.map f).WellFormed ↔ signature.WellFormed := by
  unfold WellFormed Signature.map
  simp [Param.map]

mutual

/-- Whether a statement is well-formed does not depend on marks. -/
theorem Stmt.wellFormed_map (f : α → β) : ∀ statement : Stmt α,
    (statement.map f).WellFormed ↔ statement.WellFormed
  | .ret value mark => by
      cases value with
      | none => simp [Stmt.map, Stmt.WellFormed]
      | some literal => simp [Stmt.map, Stmt.WellFormed, IntLit.map]
  | .fn signature brace body => by
      rw [Stmt.map, Stmt.WellFormed, Stmt.WellFormed, signature.wellFormed_map f,
        Stmt.allWellFormed_mapAll f body]

private theorem Stmt.allWellFormed_mapAll (f : α → β) : ∀ statements : List (Stmt α),
    Stmt.AllWellFormed (Stmt.mapAll f statements) ↔ Stmt.AllWellFormed statements
  | [] => Iff.rfl
  | statement :: statements => by
      rw [Stmt.mapAll, Stmt.AllWellFormed, Stmt.AllWellFormed, statement.wellFormed_map f,
        Stmt.allWellFormed_mapAll f statements]

end

mutual

/-- Marks that are changed twice are changed once. -/
theorem Stmt.map_map (f : α → β) (g : β → γ) : ∀ statement : Stmt α,
    (statement.map f).map g = statement.map fun mark => g (f mark)
  | .ret value mark => by
      cases value with
      | none => rfl
      | some literal => rfl
  | .fn signature brace body => by
      rw [Stmt.map, Stmt.map, Stmt.map, Stmt.mapAll_mapAll f g body]
      simp [Signature.map, Param.map]

private theorem Stmt.mapAll_mapAll (f : α → β) (g : β → γ) : ∀ statements : List (Stmt α),
    Stmt.mapAll g (Stmt.mapAll f statements) = Stmt.mapAll (fun mark => g (f mark)) statements
  | [] => rfl
  | statement :: statements => by
      rw [Stmt.mapAll, Stmt.mapAll, Stmt.mapAll, statement.map_map f g,
        Stmt.mapAll_mapAll f g statements]

end

private theorem Program.statements_erase (program : Program α) :
    program.erase.statements = Stmt.eraseAll program.statements :=
  (Stmt.mapAll_eq_map _ _).symm

/-- Programs are equal up to marks exactly if their statements are. -/
theorem Program.erase_eq_iff {program : Program α} {other : Program β} :
    program.erase = other.erase ↔
      Stmt.eraseAll program.statements = Stmt.eraseAll other.statements := by
  rw [← Program.statements_erase, ← Program.statements_erase]
  constructor
  · intro hSame
    rw [hSame]
  · intro hSame
    exact congrArg Program.mk hSame

/-- Changed marks are forgotten like any others. -/
theorem Program.erase_map (f : α → β) (program : Program α) :
    (program.map f).erase = program.erase := by
  rw [Program.erase_eq_iff]
  show Stmt.eraseAll (program.statements.map (Stmt.map f)) = _
  rw [← Stmt.mapAll_eq_map]
  exact Stmt.mapAll_mapAll f _ program.statements

/-- A program is well-formed if it equals a well-formed one up to marks. -/
theorem Program.WellFormed.of_erase_eq {program : Program α} {other : Program β}
    (hFormed : program.WellFormed) (hSame : other.erase = program.erase) : other.WellFormed := by
  have hErased : Stmt.AllWellFormed (Stmt.eraseAll other.statements) := by
    rw [Program.erase_eq_iff.1 hSame]
    exact (Stmt.allWellFormed_mapAll _ _).2 hFormed
  exact (Stmt.allWellFormed_mapAll _ _).1 hErased

/-! ## Programs that are read are well-formed -/

/-- Kind, text and value of a lexeme agree. -/
def Lexeme.IsSpelled (lexeme : Lexeme) : Prop :=
  Spelling lexeme.text lexeme.kind lexeme.value

theorem Spelling.isName {text : String} {value : Value}
    (hSpelling : Spelling text .identifier value) : IsName text := by
  cases hSpelling with
  | identifier hNonempty hLetters hFn hRet =>
      exact ⟨hNonempty, hLetters, by simp [List.lookup_eq_none_iff, Kind.keywords, hFn, hRet]⟩

theorem Spelling.isValue {text : String} {value : Value}
    (hSpelling : Spelling text .integer value) : IsValue value := by
  cases hSpelling with
  | integer _ _ hFits => exact ⟨_, rfl, Int.natCast_nonneg _, Int.ofNat_le.2 hFits⟩

namespace Lexeme.IsSpelled

variable {lexeme : Lexeme}

theorem isName (hSpelled : lexeme.IsSpelled) (hKind : lexeme.kind = .identifier) :
    IsName lexeme.text := by
  unfold IsSpelled at hSpelled
  rw [hKind] at hSpelled
  exact hSpelled.isName

theorem isValue (hSpelled : lexeme.IsSpelled) (hKind : lexeme.kind = .integer) :
    IsValue lexeme.value := by
  unfold IsSpelled at hSpelled
  rw [hKind] at hSpelled
  exact hSpelled.isValue

end Lexeme.IsSpelled

/-- The lexemes of a source are spelled. -/
theorem isSpelled_of_lex {source : String} {lexemes : List Lexeme}
    (hLex : lex source = .ok lexemes) : ∀ lexeme ∈ lexemes, lexeme.IsSpelled := by
  intro lexeme hMem
  obtain ⟨cut, after, hCut, hLexeme⟩ := Scan.isCut_of_mem_lex hLex hMem
  exact (Scan.spelling_of_lexeme? hCut.piece hLexeme).2.2

section Derivations

/-- Every parameter of those that follow a comma is derived from lexemes of its own. -/
private theorem derivesParam_of_mem_moreParams {lexemes : List Lexeme} {params : List (Param Span)}
    (hMore : DerivesMoreParams lexemes params) :
    ∀ param ∈ params, ∃ own, own ⊆ lexemes ∧ DerivesParam own param := by
  induction hMore with
  | nil => exact nofun
  | @cons comma first more _ _ _ hParam _ ih =>
      intro param hMem
      rcases List.mem_cons.1 hMem with rfl | hMem
      · exact ⟨first, List.subset_cons_of_subset _ (List.subset_append_left _ _), hParam⟩
      · obtain ⟨own, hSubset, hOwn⟩ := ih param hMem
        exact ⟨own,
          List.subset_cons_of_subset _ (List.subset_append_of_subset_right _ hSubset), hOwn⟩

/-- Every parameter is derived from lexemes of its own. -/
private theorem derivesParam_of_mem {lexemes : List Lexeme} {params : List (Param Span)}
    (hParams : DerivesParams lexemes params) :
    ∀ param ∈ params, ∃ own, own ⊆ lexemes ∧ DerivesParam own param := by
  cases hParams with
  | nil => exact nofun
  | @cons first more _ _ hParam hMore =>
      intro param hMem
      rcases List.mem_cons.1 hMem with rfl | hMem
      · exact ⟨first, List.subset_append_left _ _, hParam⟩
      · obtain ⟨own, hSubset, hOwn⟩ := derivesParam_of_mem_moreParams hMore param hMem
        exact ⟨own, List.subset_append_of_subset_right _ hSubset, hOwn⟩

/-- Derived parameters have names. -/
private theorem isName_of_params {lexemes : List Lexeme} {params : List (Param Span)}
    (hParams : DerivesParams lexemes params)
    (hSpelled : ∀ lexeme ∈ lexemes, lexeme.IsSpelled) : ∀ param ∈ params, IsName param.name := by
  intro param hMem
  obtain ⟨own, hSubset, hOwn⟩ := derivesParam_of_mem hParams param hMem
  obtain ⟨_, hName⟩ := hOwn
  exact (hSpelled _ (hSubset (List.mem_cons_of_mem _ List.mem_cons_self))).isName hName

mutual

/-- Derived statements are well-formed. -/
private theorem allWellFormed_of_derives {lexemes : List Lexeme} {statements : List (Stmt Span)} :
    DerivesStatements lexemes statements → (∀ lexeme ∈ lexemes, lexeme.IsSpelled) →
      Stmt.AllWellFormed statements
  | .nil, _ => trivial
  | .lineBreak _ hRest, hSpelled =>
      allWellFormed_of_derives hRest (List.forall_mem_cons.1 hSpelled).2
  | .statement hFirst hRest, hSpelled => by
      rw [List.forall_mem_append] at hSpelled
      exact ⟨wellFormed_of_derives hFirst hSpelled.1, allWellFormed_of_derives hRest hSpelled.2⟩

private theorem wellFormed_of_derives {lexemes : List Lexeme} {statement : Stmt Span} :
    DerivesStatement lexemes statement → (∀ lexeme ∈ lexemes, lexeme.IsSpelled) →
      statement.WellFormed
  | .ret _ _, _ => nofun
  | .retValue _ hValue _, hSpelled => by
      rintro _ ⟨⟩
      exact (hSpelled _ (by simp)).isValue hValue
  | .fn _ _ hName _ hParams _ _ hBody _, hSpelled => by
      simp only [List.forall_mem_cons, List.forall_mem_append] at hSpelled
      obtain ⟨_, _, hSpelledName, _, hSpelledParams, _, _, hSpelledBody, _⟩ := hSpelled
      exact ⟨⟨hSpelledName.isName hName, isName_of_params hParams hSpelledParams⟩,
        allWellFormed_of_derives hBody hSpelledBody⟩

end

/-- A mark is the span of one of the lexemes. -/
def MarkedBy (lexemes : List Lexeme) (mark : Span) : Prop :=
  ∃ lexeme ∈ lexemes, mark = lexeme.span

theorem MarkedBy.mono {lexemes more : List Lexeme} {mark : Span} (hMark : MarkedBy lexemes mark)
    (hSubset : lexemes ⊆ more) : MarkedBy more mark := by
  obtain ⟨lexeme, hMem, hSpan⟩ := hMark
  exact ⟨lexeme, hSubset hMem, hSpan⟩

/-- Derived parameters are marked by their lexemes. -/
private theorem markedBy_of_params {lexemes : List Lexeme} {params : List (Param Span)}
    (hParams : DerivesParams lexemes params) : ∀ param ∈ params, MarkedBy lexemes param.mark := by
  intro param hMem
  obtain ⟨own, hSubset, hOwn⟩ := derivesParam_of_mem hParams param hMem
  obtain ⟨_, _⟩ := hOwn
  exact ⟨_, hSubset List.mem_cons_self, rfl⟩

mutual

/-- Derived statements are marked by their lexemes. -/
private theorem markedBy_of_statements {lexemes : List Lexeme} {statements : List (Stmt Span)} :
    DerivesStatements lexemes statements →
      ∀ node ∈ Stmt.nodesAll statements, MarkedBy lexemes node.2
  | .nil => nofun
  | .lineBreak _ hRest => fun node hMem =>
      (markedBy_of_statements hRest node hMem).mono (List.subset_cons_self _ _)
  | .statement hFirst hRest => by
      intro node hMem
      rw [Stmt.nodesAll, List.mem_append] at hMem
      rcases hMem with hMem | hMem
      · exact (markedBy_of_statement hFirst node hMem).mono (List.subset_append_left _ _)
      · exact (markedBy_of_statements hRest node hMem).mono (List.subset_append_right _ _)

private theorem markedBy_of_statement {lexemes : List Lexeme} {statement : Stmt Span} :
    DerivesStatement lexemes statement → ∀ node ∈ statement.nodes, MarkedBy lexemes node.2
  | @DerivesStatement.ret keyword _ _ _ => by
      intro node hMem
      rw [List.mem_singleton.1 hMem]
      exact ⟨keyword, by simp, rfl⟩
  | @DerivesStatement.retValue keyword value _ _ _ _ => by
      intro node hMem
      rcases List.mem_cons.1 hMem with rfl | hMem
      · exact ⟨keyword, by simp, rfl⟩
      · rw [List.mem_singleton.1 hMem]
        exact ⟨value, by simp, rfl⟩
  | @DerivesStatement.fn keyword _ _ _ _ openBrace _ _ _ _ _ _ _ _ _ _ hParams _ _ hBody _ => by
      intro node hMem
      rw [Stmt.nodes, List.mem_cons, List.mem_append, List.mem_cons] at hMem
      rcases hMem with rfl | hMem | rfl | hMem
      · exact ⟨keyword, by simp, rfl⟩
      · obtain ⟨param, hParam, rfl⟩ := List.mem_map.1 hMem
        exact (markedBy_of_params hParams param hParam).mono (fun _ hIn => by simp [hIn])
      · exact ⟨openBrace, by simp, rfl⟩
      · exact (markedBy_of_statements hBody node hMem).mono (fun _ hIn => by simp [hIn])

end

end Derivations

/-! ## There and back -/

/-- **Reading what was printed** gives the program that was printed, up to marks. -/
theorem ofSource_of_print {layout : Program Gap} (hFormed : layout.WellFormed) :
    ∃ program, Program.ofSource layout.print = .ok program ∧ program.erase = layout.erase := by
  obtain ⟨lexemes, found, hLex, hFound, hSame⟩ := derives_of_print hFormed
  have hSplit : Split lexemes lexemes [] ⟨found⟩ :=
    ⟨(List.append_nil lexemes).symm, nofun, hFound⟩
  have hParse : parse lexemes = .ok ⟨found⟩ :=
    congrArg Parsing.Reply.outcome (Parsing.program_of_split hSplit)
  refine ⟨⟨found⟩, ?_, Program.erase_eq_iff.2 hSame⟩
  rw [Program.ofSource_of_lex_ok hLex, hParse]
  rfl

/-- **What was read** is what parsing makes of the lexemes of the source. -/
theorem split_of_ofSource {source : String} {program : Program Span}
    (hSource : Program.ofSource source = .ok program) :
    ∃ lexemes consumed rest, lex source = .ok lexemes ∧ Split lexemes consumed rest program := by
  cases hLex : lex source with
  | error failure =>
      rw [Program.ofSource_of_lex_error hLex] at hSource
      cases hSource
  | ok lexemes =>
      rw [Program.ofSource_of_lex_ok hLex] at hSource
      cases hParse : parse lexemes with
      | error diagnostic =>
          rw [hParse] at hSource
          cases hSource
      | ok found =>
          rw [hParse] at hSource
          cases hSource
          obtain ⟨consumed, hSplit⟩ := Parsing.split_of_parse hParse
          exact ⟨lexemes, consumed, _, rfl, hSplit⟩

private theorem derives_of_ofSource {source : String} {program : Program Span}
    (hSource : Program.ofSource source = .ok program) :
    ∃ lexemes consumed, lex source = .ok lexemes ∧ consumed ⊆ lexemes ∧
      DerivesStatements consumed program.statements := by
  obtain ⟨lexemes, consumed, rest, hLex, hSplit⟩ := split_of_ofSource hSource
  refine ⟨lexemes, consumed, hLex, ?_, hSplit.derives⟩
  rw [hSplit.parts]
  exact List.subset_append_left _ _

/-- **Round trip.**  A well-formed program can be laid out, and whatever layout is
printed is read back as that program up to marks.  A program that is read is
well-formed, its marks are spans of lexemes of its source, and so it can be printed and
read again. -/
theorem ofSource_print :
    (∀ (α : Type) (program : Program α), program.WellFormed →
      (∃ layout : Program Gap, layout.erase = program.erase) ∧
      ∀ layout : Program Gap, layout.erase = program.erase →
        ∃ again, Program.ofSource layout.print = .ok again ∧ again.erase = program.erase) ∧
    (∀ (source : String) (program : Program Span), Program.ofSource source = .ok program →
      program.WellFormed ∧
      (∃ lexemes, lex source = .ok lexemes ∧ ∀ node ∈ program.nodes, MarkedBy lexemes node.2) ∧
      ∀ layout : Program Gap, layout.erase = program.erase →
        ∃ again, Program.ofSource layout.print = .ok again ∧ again.erase = program.erase) := by
  have hPrinted : ∀ (α : Type) (program : Program α), program.WellFormed →
      ∀ layout : Program Gap, layout.erase = program.erase →
        ∃ again, Program.ofSource layout.print = .ok again ∧ again.erase = program.erase := by
    intro α program hFormed layout hSame
    obtain ⟨again, hSource, hAgain⟩ := ofSource_of_print (hFormed.of_erase_eq hSame)
    exact ⟨again, hSource, hAgain.trans hSame⟩
  constructor
  · intro α program hFormed
    exact ⟨⟨program.map fun _ => .space, program.erase_map _⟩, hPrinted α program hFormed⟩
  · intro source program hSource
    obtain ⟨lexemes, consumed, hLex, hSubset, hDerives⟩ := derives_of_ofSource hSource
    have hSpelled := isSpelled_of_lex hLex
    have hFormed : program.WellFormed :=
      allWellFormed_of_derives hDerives fun lexeme hMem => hSpelled lexeme (hSubset hMem)
    refine ⟨hFormed, ⟨lexemes, hLex, fun node hMem => ?_⟩, hPrinted Span program hFormed⟩
    exact (markedBy_of_statements hDerives node hMem).mono hSubset

/-- A source that is not in canonical form. -/
def compactSource : String := "fn int f(void a)\x7breturn 7\n\x7d"

def compactProgram : Program Span :=
  ⟨[.fn ⟨.int, "f", [⟨.void, "a", ⟨0, 9, 4⟩⟩], ⟨0, 0, 2⟩⟩ ⟨0, 16, 1⟩
    [.ret (some ⟨.integer 7, ⟨0, 24, 1⟩⟩) ⟨0, 17, 6⟩]]⟩

/-- A layout of that program on two lines. -/
def compactLayout : Program Gap :=
  ⟨[.fn ⟨.int, "f", [⟨.void, "a", .space⟩], .line⟩ .line [.ret (some ⟨.integer 7, .space⟩) .space]]⟩

/-- The program of the source is well-formed and comes back from its layout, whose text
ends with the brace. -/
theorem compactProgram_printed :
    (compactProgram.WellFormed ∧ compactLayout.erase = compactProgram.erase ∧
      compactLayout.print = "fn int f(void a) \x7b\nreturn 7; \x7d" ∧
      ∃ again, Program.ofSource compactLayout.print = .ok again ∧
        again.erase = compactProgram.erase) ∧
    Program.ofSource compactSource = .ok compactProgram ∧
      ∃ lexemes, lex compactSource = .ok lexemes ∧
        ∀ node ∈ compactProgram.nodes, MarkedBy lexemes node.2 := by
  have hFormed : compactProgram.WellFormed := by
    have hNames : IsName "f" ∧ IsName "a" :=
      ⟨⟨by decide, List.all_eq_true.1 rfl, rfl⟩, by decide, List.all_eq_true.1 rfl, rfl⟩
    have hParams : ∀ param ∈ [(⟨.void, "a", ⟨0, 9, 4⟩⟩ : Param Span)], IsName param.name := by
      intro param hMem
      rw [List.mem_singleton.1 hMem]
      exact hNames.2
    have hValue : ∀ literal ∈ some (⟨.integer 7, ⟨0, 24, 1⟩⟩ : IntLit Span),
        IsValue literal.value := by
      rintro _ ⟨⟩
      exact ⟨7, rfl, by decide, by decide⟩
    exact ⟨⟨⟨hNames.1, hParams⟩, hValue, trivial⟩, trivial⟩
  have hRead : Program.ofSource compactSource = .ok compactProgram := rfl
  have hAgain := (ofSource_print.1 Span compactProgram hFormed).2 compactLayout rfl
  exact ⟨⟨hFormed, rfl, by decide, hAgain⟩, hRead,
    (ofSource_print.2 compactSource compactProgram hRead).2.1⟩

end Frontend
