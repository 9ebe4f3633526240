import BulkLoad.CommandLine.Surroundings

/-!
The commands that run nothing: the queries of records are printed, or a table is shown.
-/
namespace BulkLoad.CommandLine

/-- The queries of records, and what kept records from being rendered. -/
structure Rendering where
  queries : List Query
  warnings : List Event
  skipped : Nat
  fault : Option SourceFault

namespace Rendering

def empty : Rendering := ⟨[], [], 0, none⟩

def cons (query : Query) (r : Rendering) : Rendering := { r with queries := query :: r.queries }

def skip (record : Record) (fault : QueryFault) (r : Rendering) : Rendering :=
  { r with
    warnings :=
      .warning ("line " ++ Decimal.text record.line ++ ": " ++ fault.message) :: r.warnings
    skipped := r.skipped + 1 }

/-- Renders records up to the first fault of the source. -/
def ofItems (target : Definition) : List (Except SourceFault Record) → Rendering
  | [] => empty
  | .error fault :: _ => { empty with fault := some fault }
  | .ok record :: rest =>
    match Query.insert target.schema target.name record with
    | .ok query => (ofItems target rest).cons query
    | .error fault => (ofItems target rest).skip record fault

def text (queries : List Query) : String := String.join (queries.map (·.text ++ "\n"))

end Rendering

namespace RenderRequest

def queries (r : RenderRequest) (target : Definition) (rendering : Rendering) : List Query :=
  if r.createTable then .create target.schema target.name :: rendering.queries
  else rendering.queries

def closing (skipped : Nat) : List Event :=
  if skipped = 0 then [] else [.warning (Decimal.text skipped ++ " records skipped")]

def finish (r : RenderRequest) (target : Definition) (files : Workspace) (source : Source) :
    Ending :=
  let rendering := Rendering.ofItems target source.items
  let output := Rendering.text (r.queries target rendering)
  let events := r.input.opening :: Input.found source.info :: rendering.warnings
  match rendering.fault with
  | some fault => .failed (.source fault) output (events.map .event) files
  | none => ⟨Ending.success, output, (events ++ closing rendering.skipped).map .event, files⟩

variable [Encoding.EastAsian.Decoders]

/-- Prints the queries of records. There is no end if the input goes on after so many reads. -/
def run (r : RenderRequest) (s : Surroundings) (reads : Nat) : Option Ending :=
  match r.target.resolve s.files with
  | .error fault => some (.failed fault "" [] s.files)
  | .ok target =>
    let files := r.target.filesAfter s.files
    match r.input.openSource r.source files reads with
    | none => none
    | some (.error fault) =>
      some (.failed (.source fault) "" [.event r.input.opening] files)
    | some (.ok (input, source)) =>
      (source.readOut (files.block input) reads []).map (r.finish target files)

end RenderRequest

def TargetChoice.show (t : TargetChoice) (s : Surroundings) : Ending :=
  match t.resolve s.files with
  | .error fault => .failed fault "" [] s.files
  | .ok target =>
    let query := Query.create target.schema target.name
    ⟨Ending.success, target.toText ++ "\n\n" ++ query.text ++ "\n", [], s.files⟩

end BulkLoad.CommandLine
