import BulkLoad.Calendar
import BulkLoad.Json.Basic
import BulkLoad.Json.Writer
import BulkLoad.Query

/-!
The summary of a load: how many records fared how, and the first of those that did not load. The
report of a load is its summary with what was loaded, where and when, as indented JSON.
-/
namespace BulkLoad

inductive FailureKind where
  | missingField
  | unrepresentableValue
  | engineLaunch
  | engineExecution
  deriving DecidableEq, Repr

namespace FailureKind

def word : FailureKind → String
  | .missingField => "missing_field"
  | .unrepresentableValue => "unrepresentable_value"
  | .engineLaunch => "engine_launch"
  | .engineExecution => "engine_execution"

def name : FailureKind → String
  | .missingField => "MissingField"
  | .unrepresentableValue => "UnrepresentableValue"
  | .engineLaunch => "EngineLaunch"
  | .engineExecution => "EngineExecution"

def isRejection : FailureKind → Bool
  | .missingField | .unrepresentableValue => true
  | .engineLaunch | .engineExecution => false

def ofFault : QueryFault → FailureKind
  | .missingField _ => .missingField
  | .unrepresentable _ _ => .unrepresentableValue
  | .emptyValue _ => .unrepresentableValue

end FailureKind

/-- A record that did not load: its line, what its key column holds, and why. -/
structure RecordFailure where
  line : Nat
  key : Option String
  kind : FailureKind
  message : String
  deriving DecidableEq, Repr

namespace RecordFailure

def label (f : RecordFailure) : String :=
  f.key.getD ("line " ++ Decimal.text f.line)

def toJson (f : RecordFailure) : Json :=
  .object
    [("line", .nat f.line), ("key", .optional f.key), ("kind", .string f.kind.word),
      ("message", .string f.message)]

end RecordFailure

structure Summary where
  total : Nat
  succeeded : Nat
  rejected : Nat
  launchFailures : Nat
  executionFailures : Nat
  tableCreated : Bool
  failures : List RecordFailure
  /-- How many failures are counted but not listed. -/
  failuresOmitted : Nat
  deriving DecidableEq, Repr

namespace Summary

def start (tableCreated : Bool) : Summary := ⟨0, 0, 0, 0, 0, tableCreated, [], 0⟩

def failed (s : Summary) : Nat := s.rejected + s.launchFailures + s.executionFailures

def isClean (s : Summary) : Bool := s.failed == 0

def countRecord (s : Summary) : Summary := { s with total := s.total + 1 }

def countSuccess (s : Summary) : Summary := { s with succeeded := s.succeeded + 1 }

def countFailure (s : Summary) : FailureKind → Summary
  | .missingField | .unrepresentableValue => { s with rejected := s.rejected + 1 }
  | .engineLaunch => { s with launchFailures := s.launchFailures + 1 }
  | .engineExecution => { s with executionFailures := s.executionFailures + 1 }

/-- Lists a failure while there is room for it, or else counts it as left out. -/
def list (s : Summary) (room : Nat) (f : RecordFailure) : Summary :=
  if s.failures.length < room then { s with failures := s.failures ++ [f] }
  else { s with failuresOmitted := s.failuresOmitted + 1 }

def addFailure (s : Summary) (room : Nat) (f : RecordFailure) : Summary :=
  (s.countFailure f.kind).list room f

def line (s : Summary) : String :=
  Decimal.text s.total ++ " records: " ++ Decimal.text s.succeeded ++ " loaded, " ++
    Decimal.text s.failed ++ " failed (" ++ Decimal.text s.rejected ++ " rejected, " ++
    Decimal.text s.launchFailures ++ " launch, " ++ Decimal.text s.executionFailures ++ " engine)"

def toJson (s : Summary) : Json :=
  .object
    [("total", .nat s.total), ("succeeded", .nat s.succeeded), ("rejected", .nat s.rejected),
      ("launchFailures", .nat s.launchFailures), ("executionFailures", .nat s.executionFailures),
      ("tableCreated", .bool s.tableCreated),
      ("failures", .array (s.failures.map RecordFailure.toJson)),
      ("failuresOmitted", .nat s.failuresOmitted)]

end Summary

structure Report where
  runId : String
  startedAt : Instant
  finishedAt : Instant
  database : String
  table : String
  /-- The input's path, unless it was the standard input. -/
  input : Option String
  summary : Summary
  deriving DecidableEq, Repr

namespace Report

def toJson (r : Report) : Json :=
  .object
    [("runId", .string r.runId), ("startedAt", .string r.startedAt.text),
      ("finishedAt", .string r.finishedAt.text), ("database", .string r.database),
      ("table", .string r.table), ("input", .optional r.input), ("summary", r.summary.toJson)]

def text (r : Report) : String := r.toJson.pretty

end Report

end BulkLoad
