/-!
# Version

The version of this front end, as it is shown to its users.
-/

namespace Frontend

/-- The version of the front end. -/
def version : String := "0.1.0"

end Frontend
