import Frontend.Diagnostic

/-!
# Procedures

A procedure works step by step on a state and assumes nothing about it.  It can fail, at
a diagnostic or at a fault; and since it is not seen from its form that its loops and
its recursion end, their rounds are counted down from a bound, at which a procedure has
no outcome at all.
-/

namespace Frontend

/-- Work on a state that may fail, in which case the state is kept as it is, and that
may not end. -/
abbrev Procedure (σ : Type) := ExceptT Failure (StateT σ Option)

namespace Procedure

variable {σ α β : Type}

/-- What a procedure comes to on a state, and the state that it leaves, if it ends. -/
def on (procedure : Procedure σ α) (state : σ) : Option (Except Failure α × σ) :=
  procedure.run.run state

/-- Work that has gone on for too long. -/
def unended : Procedure σ α := ExceptT.mk fun _ => none

theorem on_bind_of_ok {first : Procedure σ α} {next : α → Procedure σ β}
    {state left : σ} {value : α}
    (hFirst : on first state = some (.ok value, left)) :
    on (first >>= next) state = on (next value) left := by
  show (on first state).bind _ = _
  rw [hFirst]
  rfl

theorem on_bind_of_error {first : Procedure σ α} {next : α → Procedure σ β}
    {state left : σ} {failure : Failure}
    (hFirst : on first state = some (.error failure, left)) :
    on (first >>= next) state = some (.error failure, left) := by
  show (on first state).bind _ = _
  rw [hFirst]
  rfl

end Procedure

end Frontend
