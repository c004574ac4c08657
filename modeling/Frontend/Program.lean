import Frontend.Text.Record
import Frontend.Value

/-!
# Programs

A program is a list of statements; a statement returns, with or without a value, or
declares a function, whose body is again a list of statements.  Every part that can be
pointed at carries a *mark*.  The parser marks each part with the span of the lexeme
that introduces it, but nothing here depends on what marks are: `map` changes them all,
and `erase` forgets them, so that two programs are equal up to where they stand when
their erasures are equal.
-/

namespace Frontend

/-- The built-in types. -/
inductive PrimType where
  | void
  | int
  deriving DecidableEq, Repr

namespace PrimType

/-- All built-in types. -/
def all : List PrimType := [.void, .int]

/-- The name of a type. -/
def name : PrimType → String
  | .void => "VOID"
  | .int => "INT"

/-- How a type is written in a source. -/
def spelling : PrimType → String
  | .void => "void"
  | .int => "int"

/-- The type of what has no other. -/
def fallback : PrimType := .void

/-- The type with a given spelling. -/
def ofSpelling? (text : String) : Option PrimType :=
  all.find? fun type => type.spelling = text

/-- Exactly the spelling of a type denotes it. -/
theorem ofSpelling?_eq_some_iff {text : String} {type : PrimType} :
    ofSpelling? text = some type ↔ text = type.spelling := by
  constructor
  · intro hFound
    have hSame := List.find?_some hFound
    simpa using (of_decide_eq_true hSame).symm
  · rintro rfl
    cases type <;> decide

end PrimType

/-- An integer literal, with the value of its lexeme. -/
structure IntLit (α : Type) where
  value : Value
  mark : α
  deriving DecidableEq, Repr

namespace IntLit

variable {α β : Type}

/-- Changes the mark. -/
def map (f : α → β) (literal : IntLit α) : IntLit β := ⟨literal.value, f literal.mark⟩

/-- The type of the value. -/
def type (_ : IntLit α) : PrimType := .int

/-- The value that the literal denotes. -/
def fold (literal : IntLit α) : Value := literal.value

end IntLit

/-- A parameter of a function; the mark is that of its type. -/
structure Param (α : Type) where
  type : PrimType
  name : String
  mark : α
  deriving DecidableEq, Repr

/-- Changes the mark. -/
def Param.map {α β : Type} (f : α → β) (param : Param α) : Param β :=
  ⟨param.type, param.name, f param.mark⟩

/-- What a function declares before its body; the mark is that of its keyword. -/
structure Signature (α : Type) where
  result : PrimType
  name : String
  params : List (Param α)
  mark : α
  deriving DecidableEq, Repr

/-- Changes the marks. -/
def Signature.map {α β : Type} (f : α → β) (signature : Signature α) : Signature β :=
  ⟨signature.result, signature.name, signature.params.map (Param.map f), f signature.mark⟩

/-- A statement. -/
inductive Stmt (α : Type) where
  /-- Return, with or without a value; the mark is that of the keyword. -/
  | ret (value : Option (IntLit α)) (mark : α)
  /-- Declaration of a function; `brace` marks the brace that opens its body. -/
  | fn (signature : Signature α) (brace : α) (body : List (Stmt α))
  deriving Repr

/-- Statements between braces; the mark is that of the opening one. -/
structure Block (α : Type) where
  statements : List (Stmt α)
  mark : α
  deriving Repr

/-- A compilation unit. -/
structure Program (α : Type) where
  statements : List (Stmt α)
  deriving Repr

namespace Stmt

variable {α β γ : Type}

mutual

/-- Changes the marks. -/
def map (f : α → β) : Stmt α → Stmt β
  | .ret value mark => .ret (value.map (IntLit.map f)) (f mark)
  | .fn signature brace body => .fn (signature.map f) (f brace) (mapAll f body)

/-- Changes the marks of several statements. -/
def mapAll (f : α → β) : List (Stmt α) → List (Stmt β)
  | [] => []
  | statement :: statements => map f statement :: mapAll f statements

end

/-- Several statements change one by one. -/
theorem mapAll_eq_map (f : α → β) (statements : List (Stmt α)) :
    mapAll f statements = statements.map (map f) := by
  induction statements with
  | nil => rfl
  | cons statement statements ih => rw [mapAll, ih, List.map_cons]

mutual

/-- Equality of statements is decidable when that of marks is. -/
def decEq [DecidableEq α] : (a b : Stmt α) → Decidable (a = b)
  | .ret value mark, .ret value' mark' =>
    decidable_of_iff (value = value' ∧ mark = mark') (by simp)
  | .fn signature brace body, .fn signature' brace' body' =>
    match decEqAll body body' with
    | .isTrue hBody =>
      decidable_of_iff (signature = signature' ∧ brace = brace') (by simp [hBody])
    | .isFalse hBody => .isFalse (by simp [hBody])
  | .ret _ _, .fn _ _ _ => .isFalse nofun
  | .fn _ _ _, .ret _ _ => .isFalse nofun

/-- Equality of several statements is decidable when that of marks is. -/
def decEqAll [DecidableEq α] : (a b : List (Stmt α)) → Decidable (a = b)
  | [], [] => .isTrue rfl
  | a :: as, b :: bs =>
    match decEq a b, decEqAll as bs with
    | .isTrue hHead, .isTrue hTail => .isTrue (by simp [hHead, hTail])
    | .isFalse hHead, _ => .isFalse (by simp [hHead])
    | _, .isFalse hTail => .isFalse (by simp [hTail])
  | [], _ :: _ => .isFalse nofun
  | _ :: _, [] => .isFalse nofun

end

instance [DecidableEq α] : DecidableEq (Stmt α) := decEq

end Stmt

/-- Changes the marks. -/
def Block.map {α β : Type} (f : α → β) (block : Block α) : Block β :=
  ⟨block.statements.map (Stmt.map f), f block.mark⟩

namespace Program

variable {α β : Type}

instance [DecidableEq α] : DecidableEq (Program α)
  | ⟨a⟩, ⟨b⟩ => decidable_of_iff (a = b) (by simp)

/-- Changes the marks. -/
def map (f : α → β) (program : Program α) : Program β :=
  ⟨program.statements.map (Stmt.map f)⟩

/-- Forgets the marks. -/
def erase (program : Program α) : Program Unit :=
  program.map fun _ => ()

end Program

end Frontend
