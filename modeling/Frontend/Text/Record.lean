/-!
# One-line text of structured values

A structured value is shown as its name with its fields in parentheses,
`Name(field=…, field=…)`.  Several values in order stand in parentheses too, and a
single one is followed by a comma so that it cannot be taken for the value itself.
-/

namespace Frontend.Text

/-- A named value with its fields in order. -/
def record (name : String) (fields : List (String × String)) : String :=
  name ++ "(" ++ ", ".intercalate (fields.map fun field => field.1 ++ "=" ++ field.2) ++ ")"

/-- A member of an enumeration, with the value that stands for it. -/
def member (enumeration name value : String) : String :=
  "<" ++ enumeration ++ "." ++ name ++ ": " ++ value ++ ">"

/-- Values in order. -/
def sequence : List String → String
  | [] => "()"
  | [only] => "(" ++ only ++ ",)"
  | several => "(" ++ ", ".intercalate several ++ ")"

/-- A value that may be missing. -/
def optional (value : Option String) : String :=
  value.getD "None"

end Frontend.Text
