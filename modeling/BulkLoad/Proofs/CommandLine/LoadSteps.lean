import BulkLoad.CommandLine.Run
import BulkLoad.Proofs.CommandLine.Scripting
import BulkLoad.Proofs.Definition.Acceptance
import BulkLoad.Proofs.Load.Arrival
import BulkLoad.Proofs.Source.Delivery
import Mathlib.Logic.Relation

/-!
A load step by step.

A load goes from phase to phase, and a phase holds what was found so far. What lets a phase go on
and what stops it there is said of the files, the launcher and the source alone, with the files as
they are left. The command comes to where these steps lead, and tells the fault of the one that
stops it.
-/
namespace BulkLoad

namespace Report

variable {report : Report} {files saved : Workspace} {path : String}

theorem save_of_written
    (h : files.write path (Encoding.Utf8.encodeText report.text) = .ok saved) :
    report.save files path = .ok saved := by
  rw [save, h]

theorem save_of_refused {cause : FileFault}
    (h : files.write path (Encoding.Utf8.encodeText report.text) = .error cause) :
    report.save files path = .error (.report path cause.message) := by
  rw [save, h]

end Report

namespace CommandLine

open Relation (ReflTransGen)

/-- What takes the records: an engine, what is read of the input in each of its states, and the
files that it leaves. -/
structure Sink where
  State : Type
  engine : Engine State
  start : State
  block : State → Nat → Stream.Answer
  leave : State → Workspace

def Sink.script (path : String) (file : Handle) (files : Workspace) (input : Handle) : Sink :=
  ⟨ScriptFile, ScriptFile.engine, .empty path file, ScriptFile.block files input, (·.leave files)⟩

def Sink.program (engine : ProgramEngine) (launch : Launcher Workspace) (files : Workspace)
    (input : Handle) : Sink :=
  ⟨Workspace, engine.engine launch, files, fun files => files.block input, id⟩

structure Loaded where
  target : Definition
  created : Bool
  fates : List (Record × Fate)
  files : Workspace

namespace Loaded

def summary (r : LoadRequest) (l : Loaded) : Summary :=
  (r.job l.target).summaryOf l.created l.fates

def report (r : LoadRequest) (s : Surroundings) (l : Loaded) : Report :=
  ⟨s.runId, s.startedAt, s.finishedAt, r.database, l.target.name, r.input.path?, l.summary r⟩

theorem isClean_summary (r : LoadRequest) (l : Loaded) :
    (l.summary r).isClean = true ↔ ∀ x ∈ l.fates, x.2.isLoaded = true := by
  simp only [Summary.isClean, Summary.failed, summary, Job.summaryOf, beq_iff_eq,
    Nat.add_eq_zero_iff, List.countP_eq_zero, Fate.isLoaded, Bool.and_eq_true, Bool.not_eq_true,
    Bool.not_eq_true', forall₂_and]

theorem status_eq (r : LoadRequest) (l : Loaded) :
    r.status (l.summary r) =
      if r.strict = true ∧ ∃ x ∈ l.fates, x.2.isLoaded = false then 2 else 0 := by
  have hcondition : (r.strict && !(l.summary r).isClean) = true ↔
      r.strict = true ∧ ∃ x ∈ l.fates, x.2.isLoaded = false := by
    rw [Bool.and_eq_true, Bool.not_eq_true', ← Bool.not_eq_true, l.isClean_summary]
    simp
  unfold LoadRequest.status
  rw [if_congr hcondition rfl rfl]
  rfl

end Loaded

theorem TargetChoice.resolve_of_refused (t : TargetChoice) {files : Workspace}
    {fault : DefinitionFault} (h : t.chosen files = .error fault) :
    t.resolve files = .error (.definition fault) := by
  simp only [resolve, h]

variable [Encoding.EastAsian.Decoders]

structure Setup where
  target : Definition
  input : Handle
  source : OpenSource
  sink : Sink

inductive Phase where
  | start
  | chosen (d : Definition)
  | settled (target : Definition)
  | opened (target : Definition) (input : Handle) (source : OpenSource)
  | engaged (u : Setup)
  | begun (u : Setup) (created : Bool)
  | received (u : Setup) (created : Bool) (rs : List Record)
  | loaded (l : Loaded)
  | done (l : Loaded) (files : Workspace)

def Phase.isUnengaged : Phase → Bool
  | .start | .chosen _ | .settled _ => true
  | _ => false

def Phase.isUnloaded : Phase → Bool
  | .loaded _ | .done _ _ => false
  | _ => true

namespace LoadRequest

variable (r : LoadRequest) (s : Surroundings)

def begunWith (u : Setup) : u.sink.State := (r.job u.target).begun u.sink.engine u.sink.start

def passedWith (u : Setup) (rs : List Record) : u.sink.State :=
  (r.job u.target).passed u.sink.engine (r.begunWith u) rs

/-- The steps of a load in their order. -/
inductive Moves : Phase → Phase → Prop
  | builtIn (h : r.target.definition = none) : Moves .start (.chosen .canonical)
  | read {path text : String} {d : Definition} (hpath : r.target.definition = some path)
      (htext : s.files.readText path = .ok text) (h : Definition.ofText text = .ok d) :
      Moves .start (.chosen d)
  | unnamed {d : Definition} (h : r.target.table = none) : Moves (.chosen d) (.settled d)
  | named {d : Definition} {name : String} (hname : r.target.table = some name)
      (h : Identifier.fault? name = none) : Moves (.chosen d) (.settled ⟨name, d.schema, h⟩)
  | opened {target : Definition} {input : Handle} {source : OpenSource} {reads : Nat}
      (h : r.input.openSource r.source (r.target.filesAfter s.files) reads =
        some (.ok (input, source))) :
      Moves (.settled target) (.opened target input source)
  | script {target : Definition} {input : Handle} {source : OpenSource} {path : String}
      {file : Handle} {made : Workspace} (hengine : r.engine = .script path)
      (h : (r.target.filesAfter s.files).create path = .ok (file, made)) :
      Moves (.opened target input source)
        (.engaged ⟨target, input, source, .script path file (made.truncate file) input⟩)
  | program {target : Definition} {input : Handle} {source : OpenSource}
      {binary marker : Option String} (hengine : r.engine = .program binary marker) :
      Moves (.opened target input source)
        (.engaged ⟨target, input, source, .program (programEngine binary marker s.environment)
          (s.launch s.environment) (r.target.filesAfter s.files) input⟩)
  | uncreated {u : Setup} (h : r.createTable = false) : Moves (.engaged u) (.begun u false)
  | created {u : Setup} {answer : Invocation} (hcreate : r.createTable = true)
      (h : (u.sink.engine.invoke r.database (.create u.target.schema u.target.name)
        u.sink.start).1 = .ok answer) :
      Moves (.engaged u) (.begun u answer.succeeded)
  | received {u : Setup} {created : Bool} {rs : List Record}
      (h : (r.job u.target).Arrives u.sink.engine u.sink.block r.limit u.source (r.begunWith u) rs
        none) :
      Moves (.begun u created) (.received u created rs)
  | finished {u : Setup} {created : Bool} {rs : List Record} {told : List Event}
      (h : (u.sink.engine.finish (r.passedWith u rs)).1 = .ok told) :
      Moves (.received u created rs)
        (.loaded ⟨u.target, created, (r.job u.target).fates u.sink.engine (r.begunWith u) rs,
          u.sink.leave (u.sink.engine.finish (r.passedWith u rs)).2⟩)
  | unreported {l : Loaded} (h : r.report = none) : Moves (.loaded l) (.done l l.files)
  | reported {l : Loaded} {path : String} {files : Workspace} (hpath : r.report = some path)
      (h : l.files.write path (Encoding.Utf8.encodeText (l.report r s).text) = .ok files) :
      Moves (.loaded l) (.done l files)

/-- What stops a load in a phase, the fault that is told, and the files that are left. -/
inductive Stops : Phase → LoadFault → Workspace → Prop
  | unreadable {path : String} {cause : FileFault} (hpath : r.target.definition = some path)
      (h : s.files.readText path = .error cause) :
      Stops .start (.definition (.unreadable path cause.message)) s.files
  | refused {path text : String} {fault : DefinitionFault}
      (hpath : r.target.definition = some path) (htext : s.files.readText path = .ok text)
      (h : Definition.ofText text = .error fault) : Stops .start (.definition fault) s.files
  | misnamed {d : Definition} {name : String} {fault : SchemaFault}
      (hname : r.target.table = some name) (h : Identifier.fault? name = some fault) :
      Stops (.chosen d) (.definition (.invalid fault)) s.files
  | unopened {target : Definition} {path : String} {cause : FileFault}
      (hinput : r.input = .file path)
      (h : (r.target.filesAfter s.files).openFile path = .error cause) :
      Stops (.settled target) (.source (.unopened path cause.message))
        (r.target.filesAfter s.files)
  | unread {target : Definition} {input : Handle} {feed : Stream.Feed} {fault : SourceFault}
      (hinput : r.input.openHandle (r.target.filesAfter s.files) = .ok input)
      (hfeed : Stream.Gives ((r.target.filesAfter s.files).block input) 0 feed)
      (h : Source.ofFeed r.source feed = .error fault) :
      Stops (.settled target) (.source fault) (r.target.filesAfter s.files)
  | unscripted {target : Definition} {input : Handle} {source : OpenSource} {path : String}
      {cause : FileFault} (hengine : r.engine = .script path)
      (h : (r.target.filesAfter s.files).create path = .error cause) :
      Stops (.opened target input source) (.engine (.script path cause.message))
        (r.target.filesAfter s.files)
  | uncreatable {u : Setup} {fault : EngineFault} (hcreate : r.createTable = true)
      (h : (u.sink.engine.invoke r.database (.create u.target.schema u.target.name)
        u.sink.start).1 = .error fault) :
      Stops (.engaged u) (.createTable fault) (u.sink.leave (r.begunWith u))
  | unreceived {u : Setup} {created : Bool} {rs : List Record} {fault : SourceFault}
      (h : (r.job u.target).Arrives u.sink.engine u.sink.block r.limit u.source (r.begunWith u) rs
        (some fault)) :
      Stops (.begun u created) (.source fault) (u.sink.leave (r.passedWith u rs))
  | unfinished {u : Setup} {created : Bool} {rs : List Record} {fault : EngineFault}
      (h : (u.sink.engine.finish (r.passedWith u rs)).1 = .error fault) :
      Stops (.received u created rs) (.engine fault)
        (u.sink.leave (u.sink.engine.finish (r.passedWith u rs)).2)
  | unreported {l : Loaded} {path : String} {cause : FileFault} (hpath : r.report = some path)
      (h : l.files.write path (Encoding.Utf8.encodeText (l.report r s).text) = .error cause) :
      Stops (.loaded l) (.report path cause.message) l.files

def Reaches (phase : Phase) : Prop := ReflTransGen (r.Moves s) .start phase

/-! What a phase stands for in the command. -/

def Opens (target : Definition) (input : Handle) (source : OpenSource) : Prop :=
  r.target.resolve s.files = .ok target ∧
    ∃ reads, r.input.openSource r.source (r.target.filesAfter s.files) reads =
      some (.ok (input, source))

/-- The records are sent as they are to the sink. -/
def Engages (u : Setup) : Prop :=
  ∃ tell : Run u.sink.State → List Told, ∀ reads,
    r.deliver u.target u.input u.source (r.target.filesAfter s.files) s reads =
      ((r.job u.target).loadOpen u.sink.engine u.sink.start u.sink.block reads u.source).map
        fun run => ⟨run.outcome, tell run, u.sink.leave run.session.engine⟩

def Delivers (target : Definition) (info : SourceInfo) (delivery : Delivery) : Prop :=
  ∃ reads input source, source.info = info ∧ r.target.resolve s.files = .ok target ∧
    r.input.openSource r.source (r.target.filesAfter s.files) reads =
      some (.ok (input, source)) ∧
    r.deliver target input source (r.target.filesAfter s.files) s reads = some delivery

def Found : Phase → Prop
  | .start => True
  | .chosen d => r.target.chosen s.files = .ok d
  | .settled target => r.target.resolve s.files = .ok target
  | .opened target input source => r.Opens s target input source
  | .engaged u => r.Opens s u.target u.input u.source ∧ r.Engages s u
  | .begun u created => (r.Opens s u.target u.input u.source ∧ r.Engages s u) ∧
      ((r.job u.target).create u.sink.engine u.sink.start).1 = .ok created
  | .received u created rs => ((r.Opens s u.target u.input u.source ∧ r.Engages s u) ∧
      ((r.job u.target).create u.sink.engine u.sink.start).1 = .ok created) ∧
      (r.job u.target).Arrives u.sink.engine u.sink.block r.limit u.source (r.begunWith u) rs none
  | .loaded l => ∃ info told, r.Delivers s l.target info ⟨.ok (l.summary r), told, l.files⟩
  | .done l files => (∃ info told, r.Delivers s l.target info ⟨.ok (l.summary r), told, l.files⟩) ∧
      match r.report with
      | none => files = l.files
      | some path =>
          l.files.write path (Encoding.Utf8.encodeText (l.report r s).text) = .ok files

variable {r s}

theorem openSource_lasting (i : Input) (options : SourceOptions) (files : Workspace) :
    Lasting fun reads => i.openSource options files reads := by
  unfold Input.openSource
  cases i.openHandle files with
  | error fault => exact fun _ _ h => h
  | ok handle => exact (OpenSource.ofReads_lasting options).map _

theorem deliver_lasting (target : Definition) (input : Handle) (source : OpenSource)
    (files : Workspace) : Lasting fun reads => r.deliver target input source files s reads := by
  unfold deliver
  cases r.engine with
  | program binary marker => exact (Job.loadOpen_lasting _ _ _ _ _).map _
  | script path =>
      dsimp only
      unfold toScript
      cases ScriptFile.create files path with
      | error fault => exact fun _ _ h => h
      | ok made => exact (Job.loadOpen_lasting _ _ _ _ _).map _

/-- A load that has ended had no table, no source, or a delivery. -/
theorem run_eq_some {reads : Nat} {ending : Ending} (h : r.run s reads = some ending) :
    (∃ fault, r.target.resolve s.files = .error fault ∧ ending = .failed fault "" [] s.files) ∨
      ∃ target, r.target.resolve s.files = .ok target ∧
        ((∃ fault, r.input.openSource r.source (r.target.filesAfter s.files) reads =
            some (.error fault) ∧
          ending = .failed (.source fault) "" [.event r.input.opening]
            (r.target.filesAfter s.files)) ∨
        ∃ input source delivery,
          r.input.openSource r.source (r.target.filesAfter s.files) reads =
            some (.ok (input, source)) ∧
          r.deliver target input source (r.target.filesAfter s.files) s reads = some delivery ∧
          ending = r.finish target source.info s delivery) := by
  unfold run at h
  cases hresolve : r.target.resolve s.files with
  | error fault =>
      rw [hresolve] at h
      exact .inl ⟨fault, rfl, (Option.some.inj h).symm⟩
  | ok target =>
      simp only [hresolve] at h
      refine .inr ⟨target, rfl, ?_⟩
      rcases hopen : r.input.openSource r.source (r.target.filesAfter s.files) reads with
        _ | fault | ⟨input, source⟩
      · simp only [hopen, reduceCtorEq] at h
      · simp only [hopen, Option.some.injEq] at h
        exact .inl ⟨fault, rfl, h.symm⟩
      · simp only [hopen, Option.map_eq_some_iff] at h
        obtain ⟨delivery, hdeliver, rfl⟩ := h
        exact .inr ⟨input, source, delivery, rfl, hdeliver, rfl⟩

theorem run_of_unresolved {fault : LoadFault} (h : r.target.resolve s.files = .error fault)
    (reads : Nat) : r.run s reads = some (.failed fault "" [] s.files) := by
  simp only [run, h]

theorem run_of_unopened {target : Definition} {fault : SourceFault} {reads : Nat}
    (hresolve : r.target.resolve s.files = .ok target)
    (h : r.input.openSource r.source (r.target.filesAfter s.files) reads = some (.error fault)) :
    r.run s reads = some (.failed (.source fault) "" [.event r.input.opening]
      (r.target.filesAfter s.files)) := by
  simp only [run, hresolve, h]

theorem run_lasting (r : LoadRequest) (s : Surroundings) : Lasting (r.run s) := by
  intro reads ending h
  obtain ⟨fault, hresolve, rfl⟩ | ⟨target, hresolve, ⟨fault, hopen, rfl⟩ |
    ⟨input, source, delivery, hopen, hdeliver, rfl⟩⟩ := run_eq_some h
  · exact run_of_unresolved hresolve _
  · exact run_of_unopened hresolve (openSource_lasting _ _ _ _ _ hopen)
  · exact run_of_delivery hresolve (openSource_lasting _ _ _ _ _ hopen)
      (deliver_lasting _ _ _ _ _ _ hdeliver)

theorem delivers_of_run {u : Setup} (hopens : r.Opens s u.target u.input u.source)
    (hengages : r.Engages s u) {reads : Nat} {run : Run u.sink.State}
    (hrun : (r.job u.target).loadOpen u.sink.engine u.sink.start u.sink.block reads u.source =
      some run) :
    ∃ told, r.Delivers s u.target u.source.info
      ⟨run.outcome, told, u.sink.leave run.session.engine⟩ := by
  obtain ⟨hresolve, before, hopen⟩ := hopens
  obtain ⟨tell, htell⟩ := hengages
  refine ⟨tell run, before + reads, u.input, u.source, rfl, hresolve,
    (openSource_lasting _ _ _).add hopen reads, ?_⟩
  have hlater := (Job.loadOpen_lasting _ _ _ _ _).add hrun before
  rw [Nat.add_comm] at hlater
  rw [htell, hlater, Option.map_some]

theorem run_of_delivers {target : Definition} {info : SourceInfo} {delivery : Delivery}
    (h : r.Delivers s target info delivery) :
    ∃ reads, r.run s reads = some (r.finish target info s delivery) := by
  obtain ⟨reads, input, source, rfl, hresolve, hopen, hdeliver⟩ := h
  exact ⟨reads, run_of_delivery hresolve hopen hdeliver⟩

theorem engages_script {target : Definition} {input file : Handle} {source : OpenSource}
    {path : String} {made : Workspace} (hengine : r.engine = .script path)
    (h : (r.target.filesAfter s.files).create path = .ok (file, made)) :
    r.Engages s ⟨target, input, source, .script path file (made.truncate file) input⟩ := by
  refine ⟨fun run => (scriptDelivery path (made.truncate file) run).told, fun reads => ?_⟩
  simp only [deliver, hengine]
  exact toScript_of_created h

theorem engages_program {target : Definition} {input : Handle} {source : OpenSource}
    {binary marker : Option String} (hengine : r.engine = .program binary marker) :
    r.Engages s ⟨target, input, source, .program (programEngine binary marker s.environment)
      (s.launch s.environment) (r.target.filesAfter s.files) input⟩ := by
  let opening := Event.info ("🚀 Engine: " ++ (programEngine binary marker s.environment).binary)
  refine ⟨fun run => (opening :: run.events).map .event, fun reads => ?_⟩
  simp only [deliver, hengine]
  rfl

theorem create_of_skipped {u : Setup} (hcreate : r.createTable = false) :
    ((r.job u.target).create u.sink.engine u.sink.start).1 = .ok false :=
  (Job.create_answer _ _ _).trans (if_neg (by simp [job, hcreate]))

theorem create_of_answer {u : Setup} (hcreate : r.createTable = true) :
    ((r.job u.target).create u.sink.engine u.sink.start).1 =
      (u.sink.engine.invoke r.database (.create u.target.schema u.target.name)
        u.sink.start).1.map (·.succeeded) :=
  (Job.create_answer _ _ _).trans (if_pos hcreate)

/-- What arrives is delivered as a run over it ends. -/
theorem delivers_of_arrives {u : Setup} {created : Bool} {rs : List Record}
    {fault : Option SourceFault} (hfound : r.Found s (.begun u created))
    (h : (r.job u.target).Arrives u.sink.engine u.sink.block r.limit u.source (r.begunWith u) rs
      fault) :
    ∃ outcome ended told,
      (r.job u.target).Ends u.sink.engine ⟨u.sink.start, .schemaPending⟩ (Items.ofRecords rs fault)
        outcome ended ∧
      r.Delivers s u.target u.source.info ⟨outcome, told, u.sink.leave ended.engine⟩ := by
  obtain ⟨⟨hopens, hengages⟩, hcreate⟩ := hfound
  obtain ⟨reads, run, hrun, hends⟩ := Job.loadOpen_of_arrives hcreate h
  obtain ⟨told, hdelivers⟩ := delivers_of_run hopens hengages hrun
  exact ⟨run.outcome, run.session, told, hends, hdelivers⟩

/-- What a phase stands for is so after each step. -/
theorem Found.of_moves {phase next : Phase} (hfound : r.Found s phase)
    (h : r.Moves s phase next) : r.Found s next := by
  cases h with
  | builtIn h => simp only [Found, TargetChoice.chosen, h]
  | read hpath htext h => simp only [Found, TargetChoice.chosen, hpath, Definition.ofFile, htext, h]
  | unnamed h => simp only [Found, TargetChoice.resolve, show r.target.chosen _ = _ from hfound, h]
  | named hname h =>
      simp only [Found, TargetChoice.resolve, show r.target.chosen _ = _ from hfound, hname,
        Definition.renamed, Definition.ofParts_eq_ok _ h]
  | opened h => exact ⟨hfound, _, h⟩
  | script hengine h => exact ⟨hfound, engages_script hengine h⟩
  | program hengine => exact ⟨hfound, engages_program hengine⟩
  | uncreated h => exact ⟨hfound, create_of_skipped h⟩
  | created hcreate h => exact ⟨hfound, by rw [create_of_answer hcreate, h]; rfl⟩
  | received h => exact ⟨hfound, h⟩
  | finished h =>
      obtain ⟨hbegun, harrives⟩ := hfound
      obtain ⟨outcome, ended, told, hends, hdelivers⟩ := delivers_of_arrives hbegun harrives
      obtain ⟨hstate, -, houtcome⟩ := hends.of_sound hbegun.2
      rw [houtcome _ h, hstate] at hdelivers
      exact ⟨_, told, hdelivers⟩
  | unreported h =>
      refine ⟨hfound, ?_⟩
      rw [h]
  | reported hpath h =>
      refine ⟨hfound, ?_⟩
      rw [hpath]
      exact h

theorem Reaches.found {phase : Phase} (h : r.Reaches s phase) : r.Found s phase := by
  induction h with
  | refl => exact trivial
  | tail _ hmoves ih => exact ih.of_moves hmoves

theorem openSource_of_feed {input : Handle} {feed : Stream.Feed} {fault : SourceFault}
    {i : Input} {options : SourceOptions} {files : Workspace}
    (hinput : i.openHandle files = .ok input) (hfeed : Stream.Gives (files.block input) 0 feed)
    (h : Source.ofFeed options feed = .error fault) :
    i.openSource options files feed.pieces.length = some (.error fault) := by
  have hreads := OpenSource.ofReads_of_gives options hfeed (Nat.le_refl _)
  rw [h] at hreads
  simp only [Input.openSource, hinput, hreads, Option.map_some]

/-- What stops a load before an engine is set up is found by the command too. -/
theorem unopened_of_stops {phase : Phase} {fault : LoadFault} {files : Workspace}
    (hfound : r.Found s phase) (h : r.Stops s phase fault files)
    (hphase : phase.isUnengaged = true) :
    r.target.resolve s.files = .error fault ∧ files = s.files ∨
      ∃ target reads unread, fault = .source unread ∧ r.target.resolve s.files = .ok target ∧
        r.input.openSource r.source (r.target.filesAfter s.files) reads = some (.error unread) ∧
        files = r.target.filesAfter s.files := by
  cases h with
  | unreadable hpath h =>
      refine .inl ⟨r.target.resolve_of_refused ?_, rfl⟩
      simp only [TargetChoice.chosen, hpath, Definition.ofFile, h]
  | refused hpath htext h =>
      refine .inl ⟨r.target.resolve_of_refused ?_, rfl⟩
      simp only [TargetChoice.chosen, hpath, Definition.ofFile, htext, h]
  | misnamed hname h =>
      refine .inl ⟨?_, rfl⟩
      simp only [TargetChoice.resolve, show r.target.chosen _ = _ from hfound, hname,
        Definition.renamed, Definition.ofParts_eq_error _ h]
  | unopened hinput h =>
      refine .inr ⟨_, 0, _, rfl, hfound, ?_, rfl⟩
      simp only [Input.openSource, hinput, Input.openHandle, SourceFault.opening, h]
  | unread hinput hfeed h =>
      exact .inr ⟨_, _, _, rfl, hfound, openSource_of_feed hinput hfeed h, rfl⟩
  | unscripted | uncreatable | unreceived | unfinished | unreported => cases hphase

/-- The command tells the fault that stops a load, and leaves what is left there. -/
theorem run_of_stops {phase : Phase} {fault : LoadFault} {files : Workspace}
    (hfound : r.Found s phase) (h : r.Stops s phase fault files) :
    ∃ reads told, r.run s reads = some (.failed fault "" told files) := by
  have hunopened (hphase : phase.isUnengaged = true) :
      ∃ reads told, r.run s reads = some (.failed fault "" told files) := by
    obtain ⟨hresolve, rfl⟩ | ⟨target, reads, unread, rfl, hresolve, hopen, rfl⟩ :=
      unopened_of_stops hfound h hphase
    · exact ⟨0, _, run_of_unresolved hresolve 0⟩
    · exact ⟨reads, _, run_of_unopened hresolve hopen⟩
  have hdelivered {target : Definition} {info : SourceInfo} {fault : LoadFault}
      {told : List Told} {files : Workspace}
      (h : r.Delivers s target info ⟨.error fault, told, files⟩) :
      ∃ reads told, r.run s reads = some (.failed fault "" told files) := by
    obtain ⟨reads, hrun⟩ := run_of_delivers h
    exact ⟨reads, _, hrun⟩
  cases h with
  | unreadable | refused | misnamed | unopened | unread => exact hunopened rfl
  | @unscripted target input source path cause hengine h =>
      obtain ⟨hresolve, reads, hopen⟩ := hfound
      have hdeliver : r.deliver target input source (r.target.filesAfter s.files) s reads =
          some ⟨.error (.engine (.script path cause.message)),
            [.event (.info ("📝 Writing queries to " ++ path))], r.target.filesAfter s.files⟩ := by
        simp only [deliver, hengine, toScript, ScriptFile.create, h]
      exact hdelivered ⟨reads, input, source, rfl, hresolve, hopen, hdeliver⟩
  | @uncreatable u fault hcreate h =>
      obtain ⟨hopens, hengages⟩ := hfound
      have hrefused : ((r.job u.target).create u.sink.engine u.sink.start).1 = .error fault := by
        rw [create_of_answer hcreate, h]
        rfl
      have hrun :
          (r.job u.target).loadOpen u.sink.engine u.sink.start u.sink.block 0 u.source = _ :=
        Job.loadOpen_of_refused hrefused
      obtain ⟨told, hdelivers⟩ := delivers_of_run hopens hengages hrun
      exact hdelivered hdelivers
  | unreceived h =>
      obtain ⟨outcome, ended, told, hends, hdelivers⟩ := delivers_of_arrives hfound h
      obtain ⟨houtcome, hstate⟩ := hends.of_fault hfound.2
      rw [houtcome, hstate] at hdelivers
      exact hdelivered hdelivers
  | unfinished h =>
      obtain ⟨hbegun, harrives⟩ := hfound
      obtain ⟨outcome, ended, told, hends, hdelivers⟩ := delivers_of_arrives hbegun harrives
      obtain ⟨hstate, houtcome, -⟩ := hends.of_sound hbegun.2
      rw [houtcome _ h, hstate] at hdelivers
      exact hdelivered hdelivers
  | @unreported l path cause hpath h =>
      obtain ⟨info, told, hdelivers⟩ := hfound
      obtain ⟨reads, hrun⟩ := run_of_delivers hdelivers
      have hsave : (r.reportOf l.target (l.summary r) s).save l.files path =
          .error (.report path cause.message) := Report.save_of_refused h
      simp only [finish, conclude, hpath, hsave] at hrun
      exact ⟨reads, _, hrun⟩

/-- A load whose steps are done ends with the files that they leave. -/
theorem run_of_done {l : Loaded} {files : Workspace} (hfound : r.Found s (.done l files)) :
    ∃ reads ending, r.run s reads = some ending ∧ ending.files = files ∧
      ending.status = r.status (l.summary r) := by
  obtain ⟨⟨info, told, hdelivers⟩, hreport⟩ := hfound
  obtain ⟨reads, hrun⟩ := run_of_delivers hdelivers
  refine ⟨reads, _, hrun, ?_⟩
  simp only [finish, conclude]
  cases hasked : r.report with
  | none =>
      rw [hasked] at hreport
      exact ⟨hreport.symm, rfl⟩
  | some path =>
      rw [hasked] at hreport
      have hsave : (r.reportOf l.target (l.summary r) s).save l.files path = .ok files :=
        Report.save_of_written hreport
      simp only [hsave, and_self]

theorem moves_chosen {d : Definition} (h : r.target.chosen s.files = .ok d) :
    r.Moves s .start (.chosen d) := by
  unfold TargetChoice.chosen Definition.ofFile at h
  split at h
  · split at h
    · cases h
    · exact .read ‹_› ‹_› h
  · cases h
    exact .builtIn ‹_›

theorem stops_unchosen {fault : DefinitionFault} (h : r.target.chosen s.files = .error fault) :
    r.Stops s .start (.definition fault) s.files := by
  unfold TargetChoice.chosen Definition.ofFile at h
  split at h
  · split at h
    · cases h
      exact .unreadable ‹_› ‹_›
    · exact .refused ‹_› ‹_› h
  · cases h

theorem reaches_settled {target : Definition} (h : r.target.resolve s.files = .ok target) :
    r.Reaches s (.settled target) := by
  cases hchosen : r.target.chosen s.files with
  | error fault => cases h.symm.trans (r.target.resolve_of_refused hchosen)
  | ok d =>
      refine (ReflTransGen.single (moves_chosen hchosen)).tail ?_
      cases htable : r.target.table with
      | none =>
          simp only [TargetChoice.resolve, hchosen, htable, Except.ok.injEq] at h
          exact h ▸ .unnamed htable
      | some name =>
          simp only [TargetChoice.resolve, hchosen, htable, Definition.renamed] at h
          cases hname : Identifier.fault? name with
          | some fault => simp only [Definition.ofParts_eq_error _ hname, reduceCtorEq] at h
          | none =>
              simp only [Definition.ofParts_eq_ok _ hname, Except.ok.injEq] at h
              exact h ▸ .named htable hname

theorem stops_unresolved {fault : LoadFault} (h : r.target.resolve s.files = .error fault) :
    ∃ phase, r.Reaches s phase ∧ r.Stops s phase fault s.files := by
  cases hchosen : r.target.chosen s.files with
  | error unchosen =>
      cases h.symm.trans (r.target.resolve_of_refused hchosen)
      exact ⟨.start, .refl, stops_unchosen hchosen⟩
  | ok d =>
      refine ⟨.chosen d, .single (moves_chosen hchosen), ?_⟩
      cases htable : r.target.table with
      | none => simp only [TargetChoice.resolve, hchosen, htable, reduceCtorEq] at h
      | some name =>
          simp only [TargetChoice.resolve, hchosen, htable, Definition.renamed] at h
          cases hname : Identifier.fault? name with
          | none => simp only [Definition.ofParts_eq_ok _ hname, reduceCtorEq] at h
          | some misnamed =>
              simp only [Definition.ofParts_eq_error _ hname, Except.error.injEq] at h
              exact h ▸ .misnamed htable hname

theorem stops_unopened {fault : SourceFault} {reads : Nat} (target : Definition)
    (h : r.input.openSource r.source (r.target.filesAfter s.files) reads = some (.error fault)) :
    r.Stops s (.settled target) (.source fault) (r.target.filesAfter s.files) := by
  generalize hfiles : r.target.filesAfter s.files = files at h
  cases hinput : r.input.openHandle files with
  | error unopened =>
      simp only [Input.openSource, hinput, Option.some.injEq, Except.error.injEq] at h
      subst h hfiles
      unfold Input.openHandle SourceFault.opening at hinput
      split at hinput
      · cases hinput
      · split at hinput
        · cases hinput
          exact .unopened ‹_› ‹_›
        · cases hinput
  | ok input =>
      obtain ⟨feed, hfeed, -⟩ := Stream.Gives.exists_of_endsBy (files.endsBy_extent input) 0
      subst hfiles
      refine .unread hinput hfeed ?_
      have hreads := OpenSource.ofReads_of_gives r.source hfeed (Nat.le_refl _)
      cases hwhole : Source.ofFeed r.source feed with
      | error other =>
          have hother := openSource_of_feed hinput hfeed hwhole
          cases (openSource_lasting _ _ _).unique h hother
          rfl
      | ok whole =>
          rw [hwhole] at hreads
          obtain ⟨source, hsource, -⟩ := hreads
          have hopen : r.input.openSource r.source (r.target.filesAfter s.files)
              feed.pieces.length = some (.ok (input, source)) := by
            simp only [Input.openSource, hinput, hsource, Option.map_some]
          cases (openSource_lasting _ _ _).unique h hopen

theorem begun_of_create {u : Setup} {created : Bool}
    (h : ((r.job u.target).create u.sink.engine u.sink.start).1 = .ok created) :
    r.Moves s (.engaged u) (.begun u created) := by
  cases hcreate : r.createTable with
  | false =>
      cases h.symm.trans (create_of_skipped hcreate)
      exact .uncreated hcreate
  | true =>
      rw [create_of_answer hcreate] at h
      cases hanswer : (u.sink.engine.invoke r.database (.create u.target.schema u.target.name)
          u.sink.start).1 with
      | error fault =>
          rw [hanswer] at h
          cases h
      | ok answer =>
          rw [hanswer] at h
          cases h
          exact .created hcreate hanswer

theorem stops_uncreatable {u : Setup} {fault : EngineFault}
    (h : ((r.job u.target).create u.sink.engine u.sink.start).1 = .error fault) :
    r.Stops s (.engaged u) (.createTable fault) (u.sink.leave (r.begunWith u)) := by
  cases hcreate : r.createTable with
  | false =>
      cases h.symm.trans (create_of_skipped hcreate)
  | true =>
      rw [create_of_answer hcreate] at h
      cases hanswer : (u.sink.engine.invoke r.database (.create u.target.schema u.target.name)
          u.sink.start).1 with
      | ok answer =>
          rw [hanswer] at h
          cases h
      | error fault =>
          rw [hanswer] at h
          cases h
          exact .uncreatable hcreate hanswer

/-- A run stops in one of the phases after the engine was set up, or is through. -/
theorem reaches_of_loadOpen {u : Setup} (hreach : r.Reaches s (.engaged u)) {reads : Nat}
    {run : Run u.sink.State}
    (hrun : (r.job u.target).loadOpen u.sink.engine u.sink.start u.sink.block reads u.source =
      some run) :
    (∃ phase fault, r.Reaches s phase ∧
        r.Stops s phase fault (u.sink.leave run.session.engine) ∧ run.outcome = .error fault) ∨
      ∃ l, r.Reaches s (.loaded l) ∧ l.target = u.target ∧
        l.files = u.sink.leave run.session.engine ∧ run.outcome = .ok (l.summary r) := by
  obtain ⟨items, harriving, hends⟩ := Job.loadOpen_ends hrun
  have hgoes {created : Bool}
      (hcreate : ((r.job u.target).create u.sink.engine u.sink.start).1 = .ok created) :
      ∃ rs fault, items = Items.ofRecords rs fault ∧
        (r.job u.target).Arrives u.sink.engine u.sink.block r.limit u.source (r.begunWith u) rs
          fault ∧
        r.Reaches s (.begun u created) := by
    have hopened := (Job.isRefused_eq_false_iff _ _ _).mpr ⟨created, hcreate⟩
    obtain ⟨rs, fault, hitems, harrives⟩ := Job.arrives_of_arriving (harriving hopened)
    exact ⟨rs, fault, hitems, harrives, hreach.tail (begun_of_create hcreate)⟩
  generalize run.outcome = outcome, run.session = session at hends ⊢
  cases hends with
  | refused hcreate => exact .inl ⟨_, _, hreach, stops_uncreatable hcreate, rfl⟩
  | stopped hcreate hfault =>
      obtain ⟨rs, fault, rfl, harrives, hbegun⟩ := hgoes hcreate
      rw [Items.fault?_ofRecords] at hfault
      subst hfault
      rw [Items.records_ofRecords]
      exact .inl ⟨_, _, hbegun, .unreceived harrives, rfl⟩
  | unfinished hcreate hsound hfinish =>
      obtain ⟨rs, fault, rfl, harrives, hbegun⟩ := hgoes hcreate
      rw [Items.fault?_ofRecords] at hsound
      subst hsound
      rw [Items.records_ofRecords] at hfinish
      have hstop : (u.sink.engine.finish (r.passedWith u rs)).1 = _ := congrArg Prod.fst hfinish
      have hleft : (u.sink.engine.finish (r.passedWith u rs)).2 = _ := congrArg Prod.snd hfinish
      refine .inl ⟨_, _, hbegun.tail (.received harrives), ?_, rfl⟩
      exact congrArg u.sink.leave hleft ▸ .unfinished hstop
  | through hcreate hsound hfinish =>
      obtain ⟨rs, fault, rfl, harrives, hbegun⟩ := hgoes hcreate
      rw [Items.fault?_ofRecords] at hsound
      subst hsound
      rw [Items.records_ofRecords] at hfinish ⊢
      have hstop : (u.sink.engine.finish (r.passedWith u rs)).1 = _ := congrArg Prod.fst hfinish
      have hleft : (u.sink.engine.finish (r.passedWith u rs)).2 = _ := congrArg Prod.snd hfinish
      exact .inr ⟨_, (hbegun.tail (.received harrives)).tail (.finished hstop), rfl,
        congrArg u.sink.leave hleft, rfl⟩

theorem reaches_of_delivery {target : Definition} {input : Handle} {source : OpenSource}
    {reads : Nat} {delivery : Delivery} (hreach : r.Reaches s (.opened target input source))
    (h : r.deliver target input source (r.target.filesAfter s.files) s reads = some delivery) :
    (∃ phase fault, r.Reaches s phase ∧ r.Stops s phase fault delivery.files ∧
        delivery.outcome = .error fault) ∨
      ∃ l, r.Reaches s (.loaded l) ∧ l.target = target ∧ l.files = delivery.files ∧
        delivery.outcome = .ok (l.summary r) := by
  have hengaged {u : Setup} (hmoves : r.Moves s (.opened u.target u.input u.source) (.engaged u))
      (hreach : r.Reaches s (.opened u.target u.input u.source)) (hengages : r.Engages s u)
      (h : r.deliver u.target u.input u.source (r.target.filesAfter s.files) s reads =
        some delivery) :
      (∃ phase fault, r.Reaches s phase ∧ r.Stops s phase fault delivery.files ∧
          delivery.outcome = .error fault) ∨
        ∃ l, r.Reaches s (.loaded l) ∧ l.target = u.target ∧ l.files = delivery.files ∧
          delivery.outcome = .ok (l.summary r) := by
    obtain ⟨tell, htell⟩ := hengages
    rw [htell, Option.map_eq_some_iff] at h
    obtain ⟨run, hrun, rfl⟩ := h
    exact reaches_of_loadOpen (hreach.tail hmoves) hrun
  cases hengine : r.engine with
  | program binary marker =>
      exact hengaged (.program hengine) hreach (engages_program hengine) h
  | script path =>
      cases hfile : (r.target.filesAfter s.files).create path with
      | ok made => exact hengaged (.script hengine hfile) hreach (engages_script hengine hfile) h
      | error cause =>
          simp only [deliver, hengine, toScript, ScriptFile.create, hfile, Option.some.injEq] at h
          subst h
          exact .inl ⟨_, _, hreach, .unscripted hengine hfile, rfl⟩

/-- A load that has ended was stopped by one of its steps or came to their end. -/
theorem reaches_of_run {reads : Nat} {ending : Ending} (h : r.run s reads = some ending) :
    (∃ phase fault, r.Reaches s phase ∧ r.Stops s phase fault ending.files) ∨
      ∃ l, r.Reaches s (.done l ending.files) := by
  obtain ⟨fault, hresolve, rfl⟩ | ⟨target, hresolve, ⟨fault, hopen, rfl⟩ |
    ⟨input, source, delivery, hopen, hdeliver, rfl⟩⟩ := run_eq_some h
  · obtain ⟨phase, hreach, hstops⟩ := stops_unresolved hresolve
    exact .inl ⟨phase, fault, hreach, hstops⟩
  · exact .inl ⟨_, _, reaches_settled hresolve, stops_unopened target hopen⟩
  · have hreach : r.Reaches s (.opened target input source) :=
      (reaches_settled hresolve).tail (.opened hopen)
    unfold finish
    obtain ⟨phase, fault, hphase, hstops, houtcome⟩ | ⟨l, hloaded, rfl, hfiles, houtcome⟩ :=
      reaches_of_delivery hreach hdeliver
    · rw [houtcome]
      exact .inl ⟨phase, fault, hphase, hstops⟩
    · rw [houtcome, ← hfiles]
      simp only [conclude]
      cases hreport : r.report with
      | none => exact .inr ⟨l, hloaded.tail (.unreported hreport)⟩
      | some path =>
          have hsame : r.reportOf l.target (l.summary r) s = l.report r s := rfl
          simp only [Report.save, hsame]
          cases hwrite : l.files.write path (Encoding.Utf8.encodeText (l.report r s).text) with
          | error cause => exact .inl ⟨_, _, hloaded, .unreported hreport hwrite⟩
          | ok files => exact .inr ⟨l, hloaded.tail (.reported hreport hwrite)⟩

end LoadRequest

end CommandLine

end BulkLoad
