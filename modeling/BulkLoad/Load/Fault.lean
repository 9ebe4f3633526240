import BulkLoad.Definition.Basic
import BulkLoad.Engine.Basic
import BulkLoad.Source.Basic
import BulkLoad.Text.Search

/-!
What ends a load: the faults of its parts, each with the texts of the errors behind it.
-/
namespace BulkLoad

/-- Why a load ended before its time. -/
inductive LoadFault where
  | source (fault : SourceFault)
  | definition (fault : DefinitionFault)
  | createTable (fault : EngineFault)
  | engine (fault : EngineFault)
  | report (path message : String)
  | output (cause : String)
  deriving Repr

namespace LoadFault

def message : LoadFault → String
  | .source fault => "Source error: " ++ fault.message
  | .definition fault => "Schema error: " ++ fault.message
  | .createTable fault => "Cannot create table: " ++ fault.message
  | .engine fault => "Engine error: " ++ fault.message
  | .report path message => "Cannot write report '" ++ path ++ "': " ++ message
  | .output cause => "Cannot write output: " ++ cause

def causes : LoadFault → List String
  | .source fault => fault.message :: fault.cause?.toList
  | .definition fault => fault.message :: fault.cause?.toList
  | .createTable fault => [fault.message, fault.cause]
  | .engine fault => [fault.message, fault.cause]
  | .report _ _ => []
  | .output cause => [cause]

/-- Adds the text of a cause to a message that does not hold it yet. -/
def addCause (message cause : String) : String :=
  if Text.contains message cause then message else message ++ ": " ++ cause

def chain (f : LoadFault) : String := f.causes.foldl addCause f.message

end LoadFault

end BulkLoad
