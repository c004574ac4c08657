import Frontend.Proofs.Diagnostic.Fit
import Frontend.Proofs.Lexeme.Tiling
import Frontend.Proofs.Program.RoundTrip
import Mathlib.Data.List.Forall2

/-!
# Placement

Every node of a program is marked where a reader would point to it.  A function is
marked at its keyword, a parameter at its type, a block at its brace, a return at its
keyword and a literal at its digits, and in the order in which the nodes are listed the
marks go forward through the source (`nodes_placed`).

Both follow from one fact about the grammar.  Every node is introduced by a lexeme of
its own, and the lexemes that introduce the nodes are among the lexemes of the program
in the same order (`introduced_of_statements`).  That lexemes go forward, and what they
show on their lines, is known from the source.
-/

namespace Frontend

open Grammar
open Source (lines)

/-! ## Lexemes that introduce nodes -/

/-- A lexeme introduces a node, which is marked by it. -/
inductive Introduces (lexeme : Lexeme) : Node × Span → Prop where
  | function (hKind : lexeme.kind = .fn) : Introduces lexeme (.function, lexeme.span)
  | param {type : PrimType} (hType : IsType lexeme type) :
      Introduces lexeme (.param type, lexeme.span)
  | block (hKind : lexeme.kind = .openBrace) : Introduces lexeme (.block, lexeme.span)
  | ret (hKind : lexeme.kind = .ret) : Introduces lexeme (.ret, lexeme.span)
  | literal (hKind : lexeme.kind = .integer) :
      Introduces lexeme (.literal lexeme.value, lexeme.span)

/-- Nodes are introduced, in order, by lexemes among those given. -/
def Introduced (lexemes : List Lexeme) (nodes : List (Node × Span)) : Prop :=
  ∃ own, own.Sublist lexemes ∧ List.Forall₂ Introduces own nodes

namespace Introduced

variable {lexemes more : List Lexeme} {lexeme : Lexeme} {nodes others : List (Node × Span)}
  {node : Node × Span}

theorem nil (lexemes : List Lexeme) : Introduced lexemes [] :=
  ⟨[], List.nil_sublist lexemes, .nil⟩

/-- A lexeme that introduces the first node. -/
theorem cons (hNode : Introduces lexeme node) (hNodes : Introduced lexemes nodes) :
    Introduced (lexeme :: lexemes) (node :: nodes) := by
  obtain ⟨own, hSublist, hOwn⟩ := hNodes
  exact ⟨lexeme :: own, hSublist.cons_cons lexeme, .cons hNode hOwn⟩

theorem mono (hNodes : Introduced lexemes nodes) (hMore : lexemes.Sublist more) :
    Introduced more nodes := by
  obtain ⟨own, hSublist, hOwn⟩ := hNodes
  exact ⟨own, hSublist.trans hMore, hOwn⟩

/-- A lexeme that introduces nothing. -/
theorem skip (lexeme : Lexeme) (hNodes : Introduced lexemes nodes) :
    Introduced (lexeme :: lexemes) nodes :=
  hNodes.mono (List.sublist_cons_self lexeme lexemes)

theorem append (hNodes : Introduced lexemes nodes) (hOthers : Introduced more others) :
    Introduced (lexemes ++ more) (nodes ++ others) := by
  obtain ⟨own, hSublist, hOwn⟩ := hNodes
  obtain ⟨own', hSublist', hOwn'⟩ := hOthers
  exact ⟨own ++ own', hSublist.append hSublist', List.rel_append hOwn hOwn'⟩

end Introduced

/-! ## The lexemes of a derivation -/

/-- The nodes of the parameters of a function. -/
def Param.nodes (params : List (Param Span)) : List (Node × Span) :=
  params.map fun param => (Node.param param.type, param.mark)

private theorem introduced_of_param {lexemes : List Lexeme} {param : Param Span}
    (hParam : DerivesParam lexemes param) : Introduced lexemes (Param.nodes [param]) := by
  obtain ⟨hType, _⟩ := hParam
  exact .cons (.param hType) (.nil _)

private theorem introduced_of_moreParams {lexemes : List Lexeme} {params : List (Param Span)}
    (hMore : DerivesMoreParams lexemes params) : Introduced lexemes (Param.nodes params) := by
  induction hMore with
  | nil => exact .nil _
  | cons _ hParam _ ih => exact .skip _ ((introduced_of_param hParam).append ih)

private theorem introduced_of_params {lexemes : List Lexeme} {params : List (Param Span)}
    (hParams : DerivesParams lexemes params) : Introduced lexemes (Param.nodes params) := by
  cases hParams with
  | nil => exact .nil _
  | cons hParam hMore => exact (introduced_of_param hParam).append (introduced_of_moreParams hMore)

mutual

/-- **The nodes of derived statements** are introduced by the lexemes they are derived
from. -/
theorem introduced_of_statements {lexemes : List Lexeme} {statements : List (Stmt Span)} :
    DerivesStatements lexemes statements → Introduced lexemes (Stmt.nodesAll statements)
  | .nil => .nil _
  | .lineBreak _ hRest => .skip _ (introduced_of_statements hRest)
  | .statement hFirst hRest =>
      (introduced_of_statement hFirst).append (introduced_of_statements hRest)

private theorem introduced_of_statement {lexemes : List Lexeme} {statement : Stmt Span} :
    DerivesStatement lexemes statement → Introduced lexemes statement.nodes
  | .ret hKeyword _ => .cons (.ret hKeyword) (.nil _)
  | .retValue hKeyword hValue _ => .cons (.ret hKeyword) (.cons (.literal hValue) (.nil _))
  | .fn hKeyword _ _ _ hParams _ hOpenBrace hBody _ => by
      refine .cons (.function hKeyword) (.skip _ (.skip _ (.skip _ ?_)))
      refine (introduced_of_params hParams).append (.skip _ (.cons (.block hOpenBrace) ?_))
      exact (introduced_of_statements hBody).mono (List.sublist_append_left _ _)

end

/-! ## What introduces a node is seen in the source -/

/-- The text that a node is marked at. -/
def Node.Shows (text : List Char) : Node → Prop
  | .function => text = "fn".toList
  | .param type => text = type.spelling.toList
  | .block => text = "\x7b".toList
  | .ret => text = "return".toList
  | .literal value => text ≠ [] ∧ (∀ c ∈ text, c.isDigit = true) ∧
      value = .integer (Nat.ofDigitChars 10 text 0)

private theorem Introduces.shows {lexeme : Lexeme} {node : Node × Span}
    (hNode : Introduces lexeme node)
    (hSpelled : lexeme.IsSpelled) : node.1.Shows lexeme.text.toList := by
  obtain ⟨kind, text, span, value⟩ := lexeme
  change Spelling text kind value at hSpelled
  cases hNode with
  | param hType => exact congrArg String.toList hType.text
  | function hKind | block hKind | ret hKind =>
      cases hKind
      cases hSpelled
      rfl
  | literal hKind =>
      cases hKind
      cases hSpelled with
      | integer hNonempty hDigits =>
          exact ⟨String.toList_eq_nil_iff.ne.2 hNonempty, hDigits, rfl⟩

private theorem Introduces.mark_eq {lexeme : Lexeme} {node : Node × Span}
    (hNode : Introduces lexeme node) : node.2 = lexeme.span := by
  cases hNode <;> rfl

private theorem Introduces.kind_ne {lexeme : Lexeme} {node : Node × Span}
    (hNode : Introduces lexeme node) : lexeme.kind ≠ .lineBreak := by
  cases hNode with
  | param hType =>
      rw [hType.kind]
      decide
  | function hKind | block hKind | ret hKind | literal hKind =>
      rw [hKind]
      decide

section Lexed

variable {source : String} {lexemes : List Lexeme}

/-- **What introduces a node** is marked on its line. -/
theorem exists_line_of_introduces {lexeme : Lexeme} {node : Node × Span}
    (hLex : lex source = .ok lexemes) (hMem : lexeme ∈ lexemes)
    (hNode : Introduces lexeme node) :
    ∃ line, (lines source.toList)[node.2.line]? = some line ∧
      node.1.Shows (node.2.marked line) := by
  obtain ⟨line, hFits, hMarks⟩ := fitsOn_of_mem_lex hLex hMem
  rw [Span.MarksLexeme, if_neg hNode.kind_ne] at hMarks
  refine ⟨line, ?_, ?_⟩
  · rw [hNode.mark_eq]
    exact hFits.found
  · rw [hNode.mark_eq, hMarks]
    exact hNode.shows (isSpelled_of_lex hLex lexeme hMem)

/-- The lexemes of a source go forward. -/
private theorem precedes_of_lex (hLex : lex source = .ok lexemes) :
    lexemes.Pairwise fun a b => a.span.Precedes b.span := by
  obtain ⟨kept, hKeeps, rfl⟩ := Scan.keeps_of_lex hLex
  exact precedes_of_kept hKeeps

/-- **Introduced nodes** go forward with the lexemes that introduce them. -/
theorem Introduced.precedes {nodes : List (Node × Span)} (hNodes : Introduced lexemes nodes)
    (hLexemes : lexemes.Pairwise fun a b => a.span.Precedes b.span) :
    (nodes.map Prod.snd).Pairwise Span.Precedes := by
  obtain ⟨own, hSublist, hOwn⟩ := hNodes
  have hMarks : nodes.map Prod.snd = own.map Lexeme.span := by
    clear hSublist
    induction hOwn with
    | nil => rfl
    | cons hNode _ ih => rw [List.map_cons, List.map_cons, hNode.mark_eq, ih]
  rw [hMarks, List.pairwise_map]
  exact hLexemes.sublist hSublist

private theorem Introduced.exists_lexeme {nodes : List (Node × Span)}
    (hNodes : Introduced lexemes nodes) {node : Node × Span} (hMem : node ∈ nodes) :
    ∃ lexeme ∈ lexemes, Introduces lexeme node := by
  obtain ⟨own, hSublist, hOwn⟩ := hNodes
  have hFound : ∃ lexeme ∈ own, Introduces lexeme node := by
    clear hSublist
    induction hOwn with
    | nil => cases hMem
    | cons hNode _ ih =>
        rcases List.mem_cons.1 hMem with rfl | hMem
        · exact ⟨_, List.mem_cons_self, hNode⟩
        · obtain ⟨lexeme, hOwn, hLexeme⟩ := ih hMem
          exact ⟨lexeme, List.mem_cons_of_mem _ hOwn, hLexeme⟩
  obtain ⟨lexeme, hOwn, hNode⟩ := hFound
  exact ⟨lexeme, hSublist.subset hOwn, hNode⟩

end Lexed

/-- **Placement.**  The marks of the nodes of a program, in the order in which the nodes
are listed, go forward through its source, and each marks on its line what introduces
its node. -/
theorem nodes_placed {source : String} {program : Program Span}
    (hSource : Program.ofSource source = .ok program) :
    (program.nodes.map Prod.snd).Pairwise Span.Precedes ∧
      ∀ node ∈ program.nodes, ∃ line, (lines source.toList)[node.2.line]? = some line ∧
        node.1.Shows (node.2.marked line) := by
  obtain ⟨lexemes, consumed, rest, hLex, hSplit⟩ := split_of_ofSource hSource
  have hConsumed : consumed.Sublist lexemes := by
    rw [hSplit.parts]
    exact List.sublist_append_left consumed rest
  have hNodes := (introduced_of_statements hSplit.derives).mono hConsumed
  refine ⟨hNodes.precedes (precedes_of_lex hLex), fun node hMem => ?_⟩
  obtain ⟨lexeme, hLexeme, hNode⟩ := hNodes.exists_lexeme hMem
  exact exists_line_of_introduces hLex hLexeme hNode

/-- Two functions, one inside the other, with blank lines and tabs between their
parts. -/
def nestedSource : String :=
  "fn void f(int a, void b) \x7b\n\n\tfn int g()\x7breturn 07;\x7d\n\n  return\n\x7d"

def nestedProgram : Program Span :=
  ⟨[.fn ⟨.void, "f", [⟨.int, "a", ⟨0, 10, 3⟩⟩, ⟨.void, "b", ⟨0, 17, 4⟩⟩], ⟨0, 0, 2⟩⟩ ⟨0, 25, 1⟩
    [.fn ⟨.int, "g", [], ⟨2, 1, 2⟩⟩ ⟨2, 11, 1⟩ [.ret (some ⟨.integer 7, ⟨2, 19, 2⟩⟩) ⟨2, 12, 6⟩],
      .ret none ⟨4, 2, 6⟩]]⟩

/-- The nodes of both functions are marked in the order of the text. -/
theorem nestedProgram_placed : Program.ofSource nestedSource = .ok nestedProgram ∧
    (nestedProgram.nodes.map Prod.snd).Pairwise Span.Precedes ∧
    ∀ node ∈ nestedProgram.nodes, ∃ line,
      (lines nestedSource.toList)[node.2.line]? = some line ∧
        node.1.Shows (node.2.marked line) :=
  ⟨rfl, nodes_placed rfl⟩

end Frontend
