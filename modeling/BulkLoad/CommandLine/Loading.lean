import BulkLoad.CommandLine.Surroundings

/-!
The command that loads records.

The table is settled first, then the source is opened, and only then the engine is set up. A
report is written after a load that came to its end. A load that a fault ended has the exit status
1; else a strict load in which records did not load has the exit status 2.
-/
namespace BulkLoad.CommandLine

structure Delivery where
  outcome : Except LoadFault Summary
  told : List Told
  files : Workspace

namespace LoadRequest

def job (r : LoadRequest) (target : Definition) : Job :=
  ⟨r.database, target, ⟨r.createTable, r.limit, r.maxFailures⟩⟩

/-- The program that runs queries: the one that was named, or that of the environment. -/
def programEngine (binary marker : Option String) (environment : Environment) : ProgramEngine :=
  let engine : ProgramEngine :=
    ⟨binary.getD (ProgramEngine.binaryOf (environment.get? "ELENA_BIN")), none⟩
  match marker with
  | some marker => engine.withMarker marker
  | none => engine

/-- The delivery of a run into a script. What the script holds back goes out when it is closed,
before that is told. -/
def scriptDelivery (path : String) (files : Workspace) (run : Run ScriptFile) : Delivery :=
  let opening := Event.info ("📝 Writing queries to " ++ path)
  let script := run.session.engine
  let left := script.leave files
  let (before, after) := run.events.span (· ≠ Script.closing script.label script.count)
  let told := (opening :: before).map .event ++ Told.between files left :: after.map .event
  ⟨run.outcome, told, left⟩

variable [Encoding.EastAsian.Decoders]

def toScript (path : String) (job : Job) (input : Handle) (source : OpenSource)
    (files : Workspace) (reads : Nat) : Option Delivery :=
  match ScriptFile.create files path with
  | .error fault =>
    let opening := Event.info ("📝 Writing queries to " ++ path)
    some ⟨.error (.engine fault), [.event opening], files⟩
  | .ok (script, files) =>
    (job.loadOpen ScriptFile.engine script (ScriptFile.block files input) reads source).map
      (scriptDelivery path files)

def toProgram (engine : ProgramEngine) (launch : Launcher Workspace) (job : Job) (input : Handle)
    (source : OpenSource) (files : Workspace) (reads : Nat) : Option Delivery :=
  let read (w : Workspace) (position : Nat) : Stream.Answer := w.block input position
  let opening := Event.info ("🚀 Engine: " ++ engine.binary)
  (job.loadOpen (engine.engine launch) files read reads source).map fun run =>
    ⟨run.outcome, (opening :: run.events).map .event, run.session.engine⟩

def deliver (r : LoadRequest) (target : Definition) (input : Handle) (source : OpenSource)
    (files : Workspace) (s : Surroundings) (reads : Nat) : Option Delivery :=
  match r.engine with
  | .script path => toScript path (r.job target) input source files reads
  | .program binary marker =>
    toProgram (programEngine binary marker s.environment) (s.launch s.environment) (r.job target)
      input source files reads

def told (summary : Summary) : List Event :=
  .info ("📊 " ++ summary.line) ::
    if summary.failuresOmitted = 0 then []
    else
      [.warning (Decimal.text summary.failuresOmitted ++ " failures beyond the first " ++
        Decimal.text summary.failures.length ++ " were not itemised")]

def status (r : LoadRequest) (summary : Summary) : Nat :=
  if r.strict && !summary.isClean then Ending.partially else Ending.success

def reportOf (r : LoadRequest) (target : Definition) (summary : Summary) (s : Surroundings) :
    Report :=
  ⟨s.runId, s.startedAt, s.finishedAt, r.database, target.name, r.input.path?, summary⟩

/-- The end of a load that is through: the report is written if one is asked for. -/
def conclude (r : LoadRequest) (target : Definition) (summary : Summary) (before : List Told)
    (files : Workspace) (s : Surroundings) : Ending :=
  let before := before ++ (told summary).map .event
  match r.report with
  | none => ⟨r.status summary, "", before, files⟩
  | some path =>
    match (r.reportOf target summary s).save files path with
    | .error fault => .failed fault "" before files
    | .ok saved =>
      let closing := Event.success ("Report written to " ++ path)
      ⟨r.status summary, "", before ++ [Told.between files saved, .event closing], saved⟩

def finish (r : LoadRequest) (target : Definition) (info : SourceInfo) (s : Surroundings)
    (d : Delivery) : Ending :=
  let told := .event r.input.opening :: .event (Input.found info) :: d.told
  match d.outcome with
  | .error fault => .failed fault "" told d.files
  | .ok summary => r.conclude target summary told d.files s

/-- Loads records. There is no end if the input goes on after so many reads. -/
def run (r : LoadRequest) (s : Surroundings) (reads : Nat) : Option Ending :=
  match r.target.resolve s.files with
  | .error fault => some (.failed fault "" [] s.files)
  | .ok target =>
    let files := r.target.filesAfter s.files
    match r.input.openSource r.source files reads with
    | none => none
    | some (.error fault) =>
      some (.failed (.source fault) "" [.event r.input.opening] files)
    | some (.ok (input, source)) =>
      (r.deliver target input source files s reads).map (r.finish target source.info s)

end LoadRequest

end BulkLoad.CommandLine
