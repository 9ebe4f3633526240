import BulkLoad.Load.Fault
import BulkLoad.Load.Summary
import BulkLoad.Source.Intake

/-!
The run of a load: the table is created, then each record is sent as a query of its own.

A create query that cannot be handed over ends the run. Whatever goes wrong with a single record
is counted, told and passed over. A fault of the source ends the run where it stands; else the
engine is told the end, and the run is done.
-/
namespace BulkLoad

structure LoadOptions where
  createTable : Bool
  limit : Option Nat
  maxFailures : Nat
  deriving DecidableEq, Repr

inductive LoadStage where
  | schemaPending
  | loadingRecords
  | done
  deriving DecidableEq, Repr

def LoadStage.word : LoadStage → String
  | .schemaPending => "schema_pending"
  | .loadingRecords => "loading_records"
  | .done => "done"

structure Job where
  database : String
  target : Definition
  options : LoadOptions
  deriving DecidableEq

/-- What outlives a run: the engine's state, and where the load stands. -/
structure Session (σ : Type) where
  engine : σ
  stage : LoadStage
  deriving DecidableEq, Repr

structure Run (σ : Type) where
  outcome : Except LoadFault Summary
  events : List Event
  session : Session σ

structure Progress (σ : Type) where
  engine : σ
  summary : Summary
  /-- What was told, the last first. -/
  events : List Event

namespace Progress

variable {σ : Type}

def tell (p : Progress σ) (e : Event) : Progress σ := { p with events := e :: p.events }

end Progress

namespace Job

variable {σ : Type}

def progressStep : Nat := 1000

/-- The key of a record: the name and value of the key column, if the record fills it. -/
def keyOf (job : Job) (r : Record) : Option String :=
  match job.target.schema.key? with
  | none => none
  | some column =>
    match r.get? column.name with
    | none => none
    | some value => if value.isEmpty then none else some (column.name ++ "=" ++ value)

def fail (job : Job) (r : Record) (kind : FailureKind) (message : String) (p : Progress σ) :
    Progress σ :=
  let failure : RecordFailure := ⟨r.line, job.keyOf r, kind, message⟩
  let event : Event := ⟨.warn, "record not loaded: " ++ message,
    [("record", .text failure.label), ("kind", .text kind.name)]⟩
  { p with
    summary := p.summary.addFailure job.options.maxFailures failure
    events := event :: p.events }

def settle (job : Job) (r : Record) (answer : Except EngineFault Invocation) (p : Progress σ) :
    Progress σ :=
  match answer with
  | .ok i =>
    if i.succeeded then
      { p with
        summary := p.summary.countSuccess
        events := ⟨.trace, "engine output",
          [("line", .number r.line), ("output", .text (Text.trimEnd i.output))]⟩ :: p.events }
    else job.fail r .engineExecution i.failureReason p
  | .error fault => job.fail r .engineLaunch fault.message p

def send (job : Job) (engine : Engine σ) (r : Record) (p : Progress σ) : Progress σ :=
  match Query.insert job.target.schema job.target.name r with
  | .error fault => job.fail r (.ofFault fault) fault.message p
  | .ok query =>
    let (answer, state) := engine.invoke job.database query p.engine
    job.settle r answer
      { p with
        engine := state
        events := ⟨.debug, "insert", [("line", .number r.line), ("query", .text query.text)]⟩ ::
          p.events }

def tellProgress (p : Progress σ) : Progress σ :=
  if p.summary.total % progressStep = 0 then
    p.tell ⟨.info, "progress",
      [("total", .number p.summary.total), ("failed", .number p.summary.failed)]⟩
  else p

def loadRecord (job : Job) (engine : Engine σ) (p : Progress σ) (r : Record) : Progress σ :=
  tellProgress (job.send engine r { p with summary := p.summary.countRecord })

def loadItems (job : Job) (engine : Engine σ) (p : Progress σ) :
    List (Except SourceFault Record) → Option SourceFault × Progress σ
  | [] => (none, p)
  | .error fault :: _ => (some fault, p)
  | .ok r :: rest => loadItems job engine (job.loadRecord engine p r) rest

def limited {α : Type} (limit : Option Nat) (items : List α) : List α :=
  match limit with
  | some n => items.take n
  | none => items

def createQuery (job : Job) : Query := .create job.target.schema job.target.name

/-- The step that creates the table: whether it was created, what was told, and the engine's state
after it. -/
def create (job : Job) (engine : Engine σ) (state : σ) :
    Except EngineFault Bool × List Event × σ :=
  if job.options.createTable then
    let before : List Event :=
      [.info ("🧱 Creating table '" ++ job.target.name ++ "'..."),
        ⟨.debug, "create table", [("query", .text job.createQuery.text)]⟩]
    match engine.invoke job.database job.createQuery state with
    | (.error fault, state) => (.error fault, before, state)
    | (.ok i, state) =>
      let output : Event := ⟨.trace, "engine output", [("output", .text (Text.trimEnd i.output))]⟩
      let verdict : Event :=
        if i.succeeded then .success ("Table '" ++ job.target.name ++ "' created")
        else .warning ("Create table failed (" ++ i.failureReason ++
          "); continuing, the table may already exist")
      (.ok i.succeeded, before ++ [output, verdict], state)
  else
    (.ok false, [.info ("Skipping create step for '" ++ job.target.name ++ "'")], state)

def closing (s : Summary) : Event :=
  if s.isClean then .success ("All " ++ Decimal.text s.total ++ " records loaded")
  else .warning s.line

def conclude (engine : Engine σ) (p : Progress σ) : Run σ :=
  match engine.finish p.engine with
  | (.error fault, state) =>
    ⟨.error (.engine fault), p.events.reverse, ⟨state, .loadingRecords⟩⟩
  | (.ok told, state) =>
    ⟨.ok p.summary, p.events.reverse ++ told ++ [closing p.summary], ⟨state, .done⟩⟩

/-- A run under way whose table is settled, or the run that ends there. -/
def begin? (job : Job) (engine : Engine σ) (session : Session σ) :
    Except (Run σ) (Progress σ) :=
  match job.create engine session.engine with
  | (.error fault, told, state) =>
    .error ⟨.error (.createTable fault), told, ⟨state, session.stage⟩⟩
  | (.ok created, told, state) =>
    let opening : Event :=
      .info ("📥 Loading records into '" ++ job.target.name ++ "' (" ++ job.database ++ ")...")
    .ok ⟨state, .start created, (told ++ [opening]).reverse⟩

def ended (engine : Engine σ) : Option SourceFault × Progress σ → Run σ
  | (some fault, p) => ⟨.error (.source fault), p.events.reverse, ⟨p.engine, .loadingRecords⟩⟩
  | (none, p) => conclude engine p

/-- Runs a load whose records are loaded in a given way. -/
def runWith (job : Job) (engine : Engine σ) (session : Session σ)
    (load : Progress σ → Option SourceFault × Progress σ) : Run σ :=
  match job.begin? engine session with
  | .error run => run
  | .ok start => ended engine (load start)

def run (job : Job) (engine : Engine σ) (session : Session σ)
    (items : List (Except SourceFault Record)) : Run σ :=
  job.runWith engine session fun p =>
    job.loadItems engine p (limited job.options.limit items)

def columnWarnings (missing : List String) : List Event :=
  if missing.isEmpty then []
  else
    [.warning ("Header row lacks schema columns: " ++ ", ".intercalate missing ++
      " (those rows will be rejected)")]

def warned (job : Job) (info : SourceInfo) (r : Run σ) : Run σ :=
  { r with events := columnWarnings (info.missingColumns job.target.schema) ++ r.events }

def loadSource (job : Job) (engine : Engine σ) (state : σ) (source : Source) : Run σ :=
  job.warned source.info (job.run engine ⟨state, .schemaPending⟩ source.items)

variable [Encoding.EastAsian.Decoders]

/-- Loads the records that are there and goes on with the input in the state that they leave, round
by round; `left` is how many records may still be read. There is no result if the input goes on
after so many rounds. -/
def loadRounds (job : Job) (engine : Engine σ) (read : σ → Nat → Stream.Answer) :
    Nat → Option Nat → OpenSource → Progress σ → Option (Option SourceFault × Progress σ)
  | rounds, left, source, p =>
    match job.loadItems engine p (limited left source.items) with
    | (some fault, p) => some (some fault, p)
    | (none, p) =>
      let left := left.map (· - source.rows.length)
      if left = some 0 || !source.intake.isRunning then some (none, p)
      else
        match rounds with
        | 0 => none
        | rounds + 1 =>
          loadRounds job engine read rounds left
            (source.advance (read p.engine source.intake.position)) p

def loadOpen (job : Job) (engine : Engine σ) (state : σ) (read : σ → Nat → Stream.Answer)
    (reads : Nat) (source : OpenSource) : Option (Run σ) :=
  let run := match job.begin? engine ⟨state, .schemaPending⟩ with
    | .error run => some run
    | .ok start =>
      (job.loadRounds engine read reads job.options.limit source start).map (ended engine)
  run.map (job.warned source.info)

end Job

end BulkLoad
