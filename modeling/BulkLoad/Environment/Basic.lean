/-!
The environment of a program: variables with their values.
-/
namespace BulkLoad

/-- Variables by name; of two with one name the first counts. -/
structure Environment where
  bindings : List (String × String)
  deriving DecidableEq, Repr

namespace Environment

def get? (e : Environment) (name : String) : Option String := e.bindings.lookup name

/-- Sets a variable unless it has a value. -/
def supply (e : Environment) (name value : String) : Environment :=
  match e.get? name with
  | some _ => e
  | none => ⟨e.bindings ++ [(name, value)]⟩

end Environment

end BulkLoad
