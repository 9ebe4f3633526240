/-!
Records: the rows of an input as named fields.
-/
namespace BulkLoad

/-- One row of an input: the line on which it was found (0 when it is from no file) and its fields
in the order of the header. -/
structure Record where
  line : Nat
  fields : List (String × String)
  deriving DecidableEq, Repr

namespace Record

/-- The value of the first field with a name. -/
def get? (r : Record) (name : String) : Option String :=
  (r.fields.find? (·.1 == name)).map (·.2)

end Record

end BulkLoad
