import Frontend.Text.Printable

/-!
# Quoted text

Source text inside a message is quoted so that it reads unambiguously on one line.  The
quotation mark is the apostrophe, or the double quote when the text holds an apostrophe
and no double quote.  Inside, the backslash and the chosen mark are escaped, and so is
every character that is not printable; all else stands for itself.
-/

namespace Frontend.Text

/-- The lower-case hexadecimal digit of a number below sixteen. -/
def hexDigit (n : Nat) : Char :=
  if n < 10 then Char.ofNat (48 + n) else Char.ofNat (87 + n)

/-- The last `width` hexadecimal digits of `n`, most significant first. -/
def hex : Nat → Nat → List Char
  | 0, _ => []
  | width + 1, n => hex width (n / 16) ++ [hexDigit (n % 16)]

/-- The numbered escape of a character: two, four or eight digits, the fewest that hold
it. -/
def codeEscape (c : Char) : List Char :=
  if c.toNat < 0x100 then '\\' :: 'x' :: hex 2 c.toNat
  else if c.toNat < 0x10000 then '\\' :: 'u' :: hex 4 c.toNat
  else '\\' :: 'U' :: hex 8 c.toNat

/-- How one character is written between two quotation marks `mark`. -/
def escape (mark c : Char) : List Char :=
  if c = mark ∨ c = '\\' then ['\\', c]
  else if c = '\t' then ['\\', 't']
  else if c = '\n' then ['\\', 'n']
  else if c = '\r' then ['\\', 'r']
  else if isPrintable c then [c]
  else codeEscape c

/-- The apostrophe, which is the preferred quotation mark. -/
def apostrophe : Char := '\x27'

/-- The quotation mark for a text: the apostrophe unless only the double quote needs no
escape. -/
def quotationMark (text : List Char) : Char :=
  if apostrophe ∈ text ∧ '"' ∉ text then '"' else apostrophe

/-- A text between quotation marks, on one line. -/
def quote (text : String) : String :=
  let mark := quotationMark text.toList
  String.ofList (mark :: (text.toList.flatMap (escape mark) ++ [mark]))

end Frontend.Text
