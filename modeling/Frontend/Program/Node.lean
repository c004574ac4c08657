import Frontend.Program

/-!
# Nodes of a program

The marked parts of a program, in the order in which a reader meets them: a function,
its parameters, its block, the statements inside; a return, then its value.
-/

namespace Frontend

/-- A marked part of a program. -/
inductive Node where
  | function
  | param (type : PrimType)
  | block
  | ret
  | literal (value : Value)
  deriving DecidableEq, Repr

namespace Stmt

variable {α : Type}

mutual

/-- The nodes of a statement with their marks. -/
def nodes : Stmt α → List (Node × α)
  | .ret value mark =>
    (.ret, mark) :: value.toList.map fun literal => (.literal literal.value, literal.mark)
  | .fn signature brace body =>
    (.function, signature.mark) ::
      (signature.params.map (fun param => (Node.param param.type, param.mark))
        ++ (.block, brace) :: nodesAll body)

/-- The nodes of several statements with their marks. -/
def nodesAll : List (Stmt α) → List (Node × α)
  | [] => []
  | statement :: statements => nodes statement ++ nodesAll statements

end

end Stmt

/-- The nodes of a program with their marks. -/
def Program.nodes {α : Type} (program : Program α) : List (Node × α) :=
  Stmt.nodesAll program.statements

end Frontend
