import Frontend.Program
import Frontend.Source.Span

/-!
# Programs on one line

The parts of a program shown with their fields named, in full.  Marks are shown by a
function given from outside, since programs do not know what they are.
-/

namespace Frontend

variable {α : Type}

/-- A built-in type by its name and its spelling. -/
def PrimType.dump (type : PrimType) : String :=
  Text.member "PrimitiveType" type.name (Text.quote type.spelling)

/-- A literal with its fields named. -/
def IntLit.dump (mark : α → String) (literal : IntLit α) : String :=
  Text.record "IntLiteral" [("value", literal.value.dump), ("pos", mark literal.mark)]

/-- A parameter with its fields named. -/
def Param.dump (mark : α → String) (param : Param α) : String :=
  Text.record "ParameterNode"
    [("type", param.type.dump), ("name", Text.quote param.name), ("pos", mark param.mark)]

/-- Statements between braces, given the text of each. -/
def Block.dumpWith (statements : List String) (mark : String) : String :=
  Text.record "BlockNode" [("statements", Text.sequence statements), ("pos", mark)]

namespace Stmt

mutual

/-- A statement with its fields named. -/
def dump (mark : α → String) : Stmt α → String
  | .ret value position =>
    Text.record "ReturnNode"
      [("value", Text.optional (value.map (IntLit.dump mark))), ("pos", mark position)]
  | .fn signature brace body =>
    Text.record "FunctionNode"
      [("name", Text.quote signature.name), ("return_type", signature.result.dump),
        ("params", Text.sequence (signature.params.map (Param.dump mark))),
        ("body", Block.dumpWith (dumpAll mark body) (mark brace)), ("pos", mark signature.mark)]

/-- Several statements, each by itself. -/
def dumpAll (mark : α → String) : List (Stmt α) → List String
  | [] => []
  | statement :: statements => dump mark statement :: dumpAll mark statements

end

end Stmt

/-- A program with its fields named. -/
def Program.dump (program : Program Span) : String :=
  Text.record "RootNode" [("statements", Text.sequence (Stmt.dumpAll Span.dump program.statements))]

end Frontend
