import Frontend.Fault
import Frontend.Source.Place

/-!
# Cursors

A cursor is what is left to read of a text together with the place where that begins.
Reading never goes back, so the text before the place need not be kept.
-/

namespace Frontend.Source

/-- What is left to read, and where it begins. -/
structure Cursor where
  place : Place
  rest : List Char
  deriving DecidableEq, Repr

namespace Cursor

/-- The cursor at the start of a text. -/
def ofText (text : String) : Cursor := ⟨.start, text.toList⟩

/-- The next character, if there is one. -/
def peek? (cursor : Cursor) : Option Char := cursor.rest.head?

/-- Whether everything is read. -/
def atEnd (cursor : Cursor) : Bool := cursor.rest.isEmpty

/-- Takes the next character. -/
def advance (cursor : Cursor) : Except Fault (Char × Cursor) :=
  match cursor.rest with
  | [] => .error .textExhausted
  | c :: rest => .ok (c, ⟨cursor.place.next c, rest⟩)

end Cursor

end Frontend.Source
