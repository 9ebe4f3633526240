import BulkLoad.Decimal.Basic
import BulkLoad.Json.Basic
import BulkLoad.Log.Event
import BulkLoad.Query
import BulkLoad.Text.Blank
import BulkLoad.Text.Lines

/-!
Engines: whatever executes queries, and what came of running one.

An engine answers one query after the other and is told when the last one was sent. It may keep a
state of any kind between the queries.
-/
namespace BulkLoad

/-- The end of a run of the engine: its exit status unless a signal ended it, all that it printed,
and whether that holds the mark of a failure. -/
structure Invocation where
  exitCode : Option Int
  output : String
  errors : String
  flagged : Bool
  deriving DecidableEq, Repr

namespace Invocation

def ok (output : String) : Invocation := ⟨some 0, output, "", false⟩

def succeeded (i : Invocation) : Bool := i.exitCode == some 0 && !i.flagged

def status (i : Invocation) : String :=
  match i.exitCode with
  | some code => "exit status " ++ Decimal.intText code
  | none => "terminated by signal"

/-- The last line of the errors, or of the output when there are none, blanks aside. -/
def detail (i : Invocation) : String :=
  match [Text.trim i.errors, Text.trim i.output].find? (!·.isEmpty) with
  | some text => ((Text.lines text).getLast?).getD ""
  | none => ""

def failureReason (i : Invocation) : String :=
  let headline :=
    if i.flagged then "engine reported an error (" ++ i.status ++ ")" else i.status
  if i.detail.isEmpty then headline else headline ++ ": " ++ i.detail

def toJson (i : Invocation) : Json :=
  .object
    [("exitCode", (i.exitCode.map fun code => Json.number (.whole code)).getD .null),
      ("output", .string i.output), ("errors", .string i.errors), ("flagged", .bool i.flagged)]

end Invocation

inductive EngineFault where
  | launch (binary cause : String)
  | script (path cause : String)
  deriving DecidableEq, Repr

namespace EngineFault

/-- The wording of a fault. -/
def message : EngineFault → String
  | .launch binary cause => "Failed to launch engine '" ++ binary ++ "': " ++ cause
  | .script path cause => "Failed to write query script '" ++ path ++ "': " ++ cause

def cause : EngineFault → String
  | .launch _ cause => cause
  | .script _ cause => cause

end EngineFault

structure Engine (σ : Type) where
  invoke : String → Query → σ → Except EngineFault Invocation × σ
  /-- Ends the work after the last query; the events tell what was done. -/
  finish : σ → Except EngineFault (List Event) × σ

end BulkLoad
