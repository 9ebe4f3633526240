import BulkLoad.Proofs.CommandLine.LoadSteps
import BulkLoad.Proofs.Encoding.Katakana
import BulkLoad.Proofs.Load.ReportText

/-!
The exit status of a load, and what it leaves behind.

The steps of a load decide both. What stops it before an engine is set up has nothing to do with
what would be launched, and what stops it before it is through has nothing to do with the report. A
load ends whenever its input cannot grow for ever while it is read.
-/
namespace BulkLoad

namespace CommandLine

variable [Encoding.EastAsian.Decoders]

namespace LoadRequest

variable {r : LoadRequest} {s : Surroundings} {phase : Phase} {fault : LoadFault}
  {files : Workspace} {reads : Nat} {ending : Ending}

theorem ending_of_stops (hreach : r.Reaches s phase) (h : r.Stops s phase fault files)
    (hrun : r.run s reads = some ending) : ∃ told, ending = .failed fault "" told files := by
  obtain ⟨before, told, hstopped⟩ := run_of_stops hreach.found h
  exact ⟨told, (run_lasting r s).unique hrun hstopped⟩

theorem ending_of_done {l : Loaded} (hreach : r.Reaches s (.done l files))
    (hrun : r.run s reads = some ending) :
    ending.files = files ∧ ending.status = r.status (l.summary r) := by
  obtain ⟨before, _, hdone, hends⟩ := run_of_done hreach.found
  rw [(run_lasting r s).unique hrun hdone]
  exact hends

theorem status_eq_one_iff (hrun : r.run s reads = some ending) :
    ending.status = 1 ↔ ∃ phase fault files, r.Reaches s phase ∧ r.Stops s phase fault files := by
  constructor
  · intro hone
    obtain ⟨phase, fault, hstops⟩ | ⟨l, hdone⟩ := reaches_of_run hrun
    · exact ⟨phase, fault, _, hstops⟩
    · have hstatus := (ending_of_done hdone hrun).2
      rw [l.status_eq, hone] at hstatus
      split_ifs at hstatus
      cases hstatus
  · rintro ⟨phase, fault, files, hreach, hstops⟩
    obtain ⟨told, rfl⟩ := ending_of_stops hreach hstops hrun
    rfl

/-- A load that stops before an engine is set up has only used up standard input, whatever would be
launched. -/
theorem run_of_unengaged (hreach : r.Reaches s phase) (h : r.Stops s phase fault files)
    (hphase : phase.isUnengaged = true) (hrun : r.run s reads = some ending) :
    (∀ launch, r.run { s with launch } reads = some ending) ∧
      ∃ input, files = { s.files with input } := by
  have hafter : ∃ input, r.target.filesAfter s.files = { s.files with input } := by
    unfold TargetChoice.filesAfter
    split
    · exact ⟨[], rfl⟩
    · exact ⟨s.files.input, rfl⟩
  have hunopened := unopened_of_stops hreach.found h hphase
  have hleft : ∃ input, files = { s.files with input } := by
    obtain ⟨-, rfl⟩ | ⟨-, -, -, -, -, -, rfl⟩ := hunopened
    · exact ⟨s.files.input, rfl⟩
    · exact hafter
  refine ⟨fun launch => ?_, hleft⟩
  obtain ⟨fault', hresolve, rfl⟩ | ⟨target, hresolve, ⟨unread, hopen, rfl⟩ |
    ⟨input, source, delivery, hopen, -, -⟩⟩ := run_eq_some hrun
  · exact run_of_unresolved (s := { s with launch }) hresolve reads
  · exact run_of_unopened (s := { s with launch }) hresolve hopen
  · -- The source was opened, which is not how such a load stops.
    obtain ⟨hunresolved, -⟩ | ⟨_, _, _, -, -, hunread, -⟩ := hunopened
    · cases hresolve.symm.trans hunresolved
    · cases (openSource_lasting _ _ _).unique hopen hunread

theorem Moves.of_report {next : Phase} (h : r.Moves s phase next)
    (hnext : next.isUnloaded = true) (report : Option String) :
    phase.isUnloaded = true ∧ ({ r with report } : LoadRequest).Moves s phase next := by
  cases h with
  | builtIn h => exact ⟨rfl, .builtIn h⟩
  | read hpath htext h => exact ⟨rfl, .read hpath htext h⟩
  | unnamed h => exact ⟨rfl, .unnamed h⟩
  | named hname h => exact ⟨rfl, .named (r := { r with report }) hname h⟩
  | opened h => exact ⟨rfl, .opened h⟩
  | script hengine h => exact ⟨rfl, .script hengine h⟩
  | program hengine => exact ⟨rfl, .program hengine⟩
  | uncreated h => exact ⟨rfl, .uncreated h⟩
  | created hcreate h => exact ⟨rfl, .created hcreate h⟩
  | received h => exact ⟨rfl, .received h⟩
  | finished | unreported | reported => cases hnext

theorem Reaches.of_report (h : r.Reaches s phase) (hphase : phase.isUnloaded = true)
    (report : Option String) : ({ r with report } : LoadRequest).Reaches s phase := by
  induction h with
  | refl => exact .refl
  | tail _ hmoves ih =>
      obtain ⟨hbefore, hmoves⟩ := hmoves.of_report hphase report
      exact (ih hbefore).tail hmoves

theorem Stops.of_report (h : r.Stops s phase fault files) (hphase : phase.isUnloaded = true)
    (report : Option String) : ({ r with report } : LoadRequest).Stops s phase fault files := by
  cases h with
  | unreadable hpath h => exact .unreadable hpath h
  | refused hpath htext h => exact .refused hpath htext h
  | misnamed hname h => exact .misnamed hname h
  | unopened hinput h => exact .unopened hinput h
  | unread hinput hfeed h => exact .unread hinput hfeed h
  | unscripted hengine h => exact .unscripted hengine h
  | uncreatable hcreate h => exact .uncreatable hcreate h
  | unreceived h => exact .unreceived h
  | unfinished h => exact .unfinished h
  | unreported => cases hphase

theorem report_of_done {l : Loaded} (hreach : r.Reaches s (.done l files)) :
    (r.report = none → files = l.files) ∧
      ∀ path ∈ r.report, ∀ place made, l.files.create path = .ok (.file place, made) →
        files.bytesAt? place = some (Encoding.Utf8.encodeText (l.report r s).text) := by
  obtain ⟨-, hreport⟩ := hreach.found
  refine ⟨fun hnone => ?_, fun path hpath place made hcreate => ?_⟩
  · rw [hnone] at hreport
    exact hreport
  · rw [Option.mem_def.mp hpath] at hreport
    exact Workspace.bytesAt?_written hreport hcreate

variable (r s) in
/-- A load in which the input never has more than so many bytes: a script is not written over it,
and launched programs keep it so. -/
def Bounded (bound : Nat) : Prop :=
  let files := r.target.filesAfter s.files
  ∀ input, r.input.openHandle files = .ok input → files.extent input ≤ bound ∧
    match r.engine with
    | .script path => ∀ file made, files.create path = .ok (file, made) →
        ∀ place, file = .file place → input ≠ .file place
    | .program _ _ => ∃ Keeps : Workspace → Prop, Keeps files ∧
        (∀ w, Keeps w → w.extent input ≤ bound) ∧
        ∀ binary args w, Keeps w → Keeps (s.launch s.environment binary args w).2

theorem loadOpen_isSome {job : Job} {σ : Type} {engine : Engine σ} {read : σ → Nat → Stream.Answer}
    {state : σ} {source : OpenSource} {bound : Nat} (Keeps : σ → Prop)
    (hend : ∀ state, Keeps state → Stream.EndsBy (read state) bound)
    (hinvoke : ∀ database query state, Keeps state → Keeps (engine.invoke database query state).2)
    (hstart : Keeps state) (hreads : bound < reads) :
    (job.loadOpen engine state read reads source).isSome = true := by
  have hbegun : Keeps (job.begun engine state) := by
    unfold Job.begun
    split_ifs
    · exact hinvoke _ _ _ hstart
    · exact hstart
  have hfate (state : σ) (record : Record) (h : Keeps state) :
      Keeps (job.fate engine state record).2 := by
    unfold Job.fate
    split
    · exact h
    · exact hinvoke _ _ _ h
  cases hcreate : (job.create engine state).1 with
  | error fault =>
      rw [Job.loadOpen_of_refused hcreate]
      rfl
  | ok created =>
      rw [Job.loadOpen_of_opened hcreate, Option.isSome_map]
      exact Job.arriving_isSome Keeps hend hfate _ source hbegun (Nat.zero_lt_of_lt hreads)
        (Nat.lt_add_left _ hreads)

theorem deliver_isSome {bound : Nat} (hbounded : r.Bounded s bound) (hreads : bound < reads)
    {input : Handle} (hinput : r.input.openHandle (r.target.filesAfter s.files) = .ok input)
    (target : Definition) (source : OpenSource) :
    (r.deliver target input source (r.target.filesAfter s.files) s reads).isSome = true := by
  obtain ⟨hextent, hengine⟩ := hbounded input hinput
  cases hchosen : r.engine with
  | script path =>
      rw [hchosen] at hengine
      simp only [deliver, hchosen]
      cases hfile : (r.target.filesAfter s.files).create path with
      | error fault =>
          simp only [toScript, ScriptFile.create, hfile]
          rfl
      | ok made =>
          obtain ⟨file, made⟩ := made
          rw [toScript_of_created hfile, Option.isSome_map]
          refine loadOpen_isSome (·.file = file) (fun script hscript => ?_)
            (fun _ query script hscript => (ScriptFile.write_file script query).trans hscript) rfl
            hreads
          rw [block_script hfile (hengine file made hfile) hscript]
          exact (Workspace.endsBy_extent _ _).mono hextent
  | program binary marker =>
      rw [hchosen] at hengine
      obtain ⟨Keeps, hstart, hkept, hlaunch⟩ := hengine
      simp only [deliver, hchosen, toProgram, Option.isSome_map]
      refine loadOpen_isSome Keeps (fun w hw => (w.endsBy_extent input).mono (hkept w hw))
        (fun database query w hw => ?_) hstart hreads
      simp only [ProgramEngine.engine, ProgramEngine.run]
      split_ifs
      · exact hw
      · have hafter := hlaunch (programEngine binary marker s.environment).binary
          [database, query.text] w hw
        split
        · rename_i hanswer
          rwa [hanswer] at hafter
        · rename_i hanswer
          rwa [hanswer] at hafter

/-- A load whose input is bounded ends. -/
theorem run_of_bounded {bound : Nat} (hbounded : r.Bounded s bound) (hreads : bound < reads) :
    ∃ ending, r.run s reads = some ending := by
  cases hresolve : r.target.resolve s.files with
  | error fault => exact ⟨_, run_of_unresolved hresolve reads⟩
  | ok target =>
      cases hinput : r.input.openHandle (r.target.filesAfter s.files) with
      | error fault =>
          have hopened : r.input.openSource r.source (r.target.filesAfter s.files) reads =
              some (.error fault) := by
            simp only [Input.openSource, hinput]
          exact ⟨_, run_of_unopened hresolve hopened⟩
      | ok input =>
          obtain ⟨feed, hfeed, hlength⟩ := Stream.Gives.exists_of_endsBy
            ((r.target.filesAfter s.files).endsBy_extent input) 0
          have hextent := (hbounded input hinput).1
          have hreach : feed.pieces.length ≤ reads := by omega
          have hopen := OpenSource.ofReads_of_gives r.source hfeed hreach
          cases hwhole : Source.ofFeed r.source feed with
          | error fault =>
              rw [hwhole] at hopen
              have hopened : r.input.openSource r.source (r.target.filesAfter s.files) reads =
                  some (.error fault) := by
                simp only [Input.openSource, hinput, hopen, Option.map_some]
              exact ⟨_, run_of_unopened hresolve hopened⟩
          | ok whole =>
              rw [hwhole] at hopen
              obtain ⟨source, hsource, -⟩ := hopen
              obtain ⟨delivery, hdelivery⟩ := Option.isSome_iff_exists.mp
                (deliver_isSome hbounded hreads hinput target source)
              refine ⟨_, run_of_delivery hresolve ?_ hdelivery⟩
              simp only [Input.openSource, hinput, hsource, Option.map_some]

end LoadRequest

theorem run_of_load {args : List String} {request : Request} {r : LoadRequest}
    (hargs : Request.ofArguments args = .ok request) (hload : request.command = .load r)
    (around : Surroundings) (reads : Nat) :
    run args around reads =
      (r.run around.supplied reads).map (request.answer around.supplied) := by
  simp only [run, hargs, Command.run, hload]

/-- **The exit status of a load.** A load that ends has the status 1 exactly if one of its steps
stops it; it tells that fault last, and leaves what is left there. Before an engine is set up that
is all but standard input as it was, whatever would be launched; before the load is through it is
the same whatever report is asked for. A load whose steps are done has the status 2 if it is strict
and some record was not loaded, and 0 if not; the report that is asked for is written then, and its
summary is that of the load. A load ends if its steps do, and they do if its input is bounded. -/
theorem status_of_load (args : List String) (around : Surroundings) (request : Request)
    (r : LoadRequest) (hargs : Request.ofArguments args = .ok request)
    (hload : request.command = .load r) :
    let s := around.supplied
    (∀ reads answer, run args around reads = some answer →
      (∀ more, run args around (reads + more) = some answer) ∧
      (answer.status = 1 ↔
        ∃ phase fault files, r.Reaches s phase ∧ r.Stops s phase fault files) ∧
      (∀ phase fault files, r.Reaches s phase → r.Stops s phase fault files →
        answer.files = files ∧
        (∃ told, answer.errors =
          request.toldText s (told ++ [.event (.failure fault.chain)])) ∧
        (phase.isUnengaged = true →
          (∀ launch, run args { around with launch } reads = some answer) ∧
            ∃ input, files = { around.files with input }) ∧
        (phase.isUnloaded = true → ∀ report reads ending,
          ({ r with report } : LoadRequest).run s reads = some ending → ending.files = files)) ∧
      ∀ l files, r.Reaches s (.done l files) →
        answer.files = files ∧
        (answer.status = if r.strict = true ∧ ∃ x ∈ l.fates, x.2.isLoaded = false then 2 else 0) ∧
        (r.report = none → files = l.files) ∧
        ∀ path ∈ r.report, ∀ place made, l.files.create path = .ok (.file place, made) →
          ∃ text, files.bytesAt? place = some (Encoding.Utf8.encodeText text) ∧
            ((l.summary r).InWords → ∃ members, Json.parse text = .ok (.object members) ∧
              Report.Contents.ofJson? (.object members) =
                some ⟨s.runId, s.startedAt.text, s.finishedAt.text, r.database, l.target.name,
                  r.input.path?, (r.job l.target).summaryOf l.created l.fates⟩)) ∧
    ((∃ reads answer, run args around reads = some answer) ↔
      (∃ phase fault files, r.Reaches s phase ∧ r.Stops s phase fault files) ∨
        ∃ l files, r.Reaches s (.done l files)) ∧
    ∀ bound, r.Bounded s bound → ∀ reads, bound < reads →
      ∃ answer, run args around reads = some answer := by
  intro s
  have hrun := run_of_load hargs hload
  refine ⟨fun reads answer hanswer => ?_, ?_, fun bound hbounded reads hreads => ?_⟩
  · obtain ⟨ending, hending, rfl⟩ :=
      Option.map_eq_some_iff.mp ((hrun around reads).symm.trans hanswer)
    refine ⟨fun more => ?_, LoadRequest.status_eq_one_iff hending,
      fun phase fault files hreach hstops => ?_, fun l files hdone => ?_⟩
    · rw [hrun, (LoadRequest.run_lasting r s).add hending more, Option.map_some]
    · obtain ⟨told, hends⟩ := LoadRequest.ending_of_stops hreach hstops hending
      refine ⟨congrArg Ending.files hends, ⟨told, ?_⟩, fun hphase => ?_,
        fun hphase report later other hother => ?_⟩
      · rw [hends]
        rfl
      · obtain ⟨hlaunch, hleft⟩ := LoadRequest.run_of_unengaged hreach hstops hphase hending
        refine ⟨fun launch => ?_, hleft⟩
        rw [hrun]
        exact congrArg (Option.map _) (hlaunch launch)
      · obtain ⟨_, rfl⟩ := LoadRequest.ending_of_stops (hreach.of_report hphase report)
          (hstops.of_report hphase report) hother
        rfl
    · obtain ⟨hfiles, hstatus⟩ := LoadRequest.ending_of_done hdone hending
      obtain ⟨hunasked, hasked⟩ := LoadRequest.report_of_done hdone
      refine ⟨hfiles, hstatus.trans (l.status_eq r), hunasked,
        fun path hpath place made hcreate => ⟨_, hasked path hpath place made hcreate, ?_⟩⟩
      exact fun hwords => Report.parse_text (r := l.report r s) hwords
  · constructor
    · rintro ⟨reads, answer, hanswer⟩
      obtain ⟨ending, hending, -⟩ :=
        Option.map_eq_some_iff.mp ((hrun around reads).symm.trans hanswer)
      obtain ⟨phase, fault, hstops⟩ | ⟨l, hdone⟩ := LoadRequest.reaches_of_run hending
      · exact .inl ⟨phase, fault, _, hstops⟩
      · exact .inr ⟨l, _, hdone⟩
    · rintro (⟨phase, fault, files, hreach, hstops⟩ | ⟨l, files, hdone⟩)
      · obtain ⟨reads, told, hending⟩ := LoadRequest.run_of_stops hreach.found hstops
        exact ⟨reads, _, by rw [hrun, hending, Option.map_some]⟩
      · obtain ⟨reads, ending, hending, -⟩ := LoadRequest.run_of_done hdone.found
        exact ⟨reads, _, by rw [hrun, hending, Option.map_some]⟩
  · obtain ⟨ending, hending⟩ := LoadRequest.run_of_bounded hbounded hreads
    exact ⟨_, by rw [hrun, hending, Option.map_some]⟩

def strictArguments : List String :=
  ["load", "d", "in.csv", "--script", "q", "--report", "r", "--strict", "--delimiter", ";",
    "--encoding", "utf-8"]

def strictRequest : LoadRequest where
  database := "d"
  input := .file "in.csv"
  target := ⟨none, none⟩
  source := ⟨some ';', some "utf-8"⟩
  engine := .script "q"
  createTable := true
  limit := none
  maxFailures := 50
  report := some "r"
  strict := true

def strictSurroundings : Surroundings :=
  ⟨.ofFiles [("in.csv", Encoding.Utf8.encodeText (String.join
      ["codigo;nombre;tipo_documento;documento;creditos;correo;es_tercio\n",
        "2;;CC;8;4;e@x;NO\n"]))],
    ⟨[]⟩, fun _ _ _ files => (.error "", files), ⟨0, 0⟩, ⟨0, 0⟩, ""⟩

def strictSummary : Summary :=
  { total := 1
    succeeded := 0
    rejected := 1
    launchFailures := 0
    executionFailures := 0
    tableCreated := true
    failures := [⟨2, some "codigo=2", .unrepresentableValue,
      "Empty value for 'nombre': the engine cannot parse an empty string literal"⟩]
    failuresOmitted := 0 }

omit [Encoding.EastAsian.Decoders] in
theorem status_of_strict_load :
    letI := Encoding.Katakana.decoders
    (∃ request, Request.ofArguments strictArguments = .ok request ∧
      request.command = .load strictRequest) ∧
      ∃ answer text members, run strictArguments strictSurroundings 3 = some answer ∧
        answer.status = 2 ∧
        answer.files.bytesAt? ["r"] = some (Encoding.Utf8.encodeText text) ∧
        Json.parse text = .ok (.object members) ∧
        (Report.Contents.ofJson? (.object members)).map (·.summary) = some strictSummary := by
  let := Encoding.Katakana.decoders
  let request : Request := ⟨0, false, .pretty, .load strictRequest⟩
  have hargs : Request.ofArguments strictArguments = .ok request := rfl
  have hload : request.command = .load strictRequest := rfl
  refine ⟨⟨request, hargs, hload⟩, ?_⟩
  let s := strictSurroundings.supplied
  have hresolve : strictRequest.target.resolve s.files = .ok .canonical := rfl
  have hcomputed : ((strictRequest.input.openSource strictRequest.source
      (strictRequest.target.filesAfter s.files) 3).bind fun opened =>
        opened.toOption.bind fun opened =>
          (strictRequest.deliver .canonical opened.1 opened.2
            (strictRequest.target.filesAfter s.files) s 3).map fun d =>
              (d.outcome.toOption, (d.files.create "r").toOption.map (·.1))) =
                some (some strictSummary, some (.file ["r"])) := by
    decide +kernel
  obtain ⟨_ | ⟨input, source⟩, hopen, hdelivered⟩ := Option.bind_eq_some_iff.mp hcomputed
  · cases hdelivered
  obtain ⟨delivery, hdeliver, hends⟩ := Option.map_eq_some_iff.mp hdelivered
  obtain ⟨houtcome, hplace⟩ := Prod.mk.inj hends
  have hreach : strictRequest.Reaches s (.opened .canonical input source) :=
    (LoadRequest.reaches_settled hresolve).tail (.opened hopen)
  obtain ⟨-, fault, -, -, hfailed⟩ | ⟨l, hloaded, -, hfiles, hsummary⟩ :=
    LoadRequest.reaches_of_delivery hreach hdeliver
  · rw [hfailed] at houtcome
    cases houtcome
  rw [hsummary] at houtcome
  have hsummary : l.summary strictRequest = strictSummary := Option.some.inj houtcome
  cases hcreate : delivery.files.create "r" with
  | error fault =>
      rw [hcreate] at hplace
      cases hplace
  | ok opened =>
      obtain ⟨file, made⟩ := opened
      rw [hcreate] at hplace
      cases hplace
      rw [← hfiles] at hcreate
      obtain ⟨saved, hwrite⟩ : ∃ saved, l.files.write "r"
          (Encoding.Utf8.encodeText (l.report strictRequest s).text) = .ok saved := by
        simp only [Workspace.write, hcreate]
        exact ⟨_, rfl⟩
      have hdone := hloaded.tail (.reported rfl hwrite)
      have hrun : run strictArguments strictSurroundings 3 =
          some (request.answer s (strictRequest.finish .canonical source.info s delivery)) := by
        rw [run_of_load (r := strictRequest) hargs hload,
          LoadRequest.run_of_delivery hresolve hopen hdeliver, Option.map_some]
      obtain ⟨-, -, -, hends⟩ :=
        (status_of_load strictArguments strictSurroundings request strictRequest hargs
          hload).1 3 _ hrun
      obtain ⟨hleft, hstatus, -, hreport⟩ := hends l saved hdone
      obtain ⟨text, hbytes, hread⟩ := hreport "r" rfl ["r"] made hcreate
      have hwords : (l.summary strictRequest).InWords := by
        rw [hsummary]
        constructor <;> simp [strictSummary, Decimal.wordBound]
      obtain ⟨members, hparse, hcontents⟩ := hread hwords
      refine ⟨_, text, members, hrun, ?_, hleft ▸ hbytes, hparse, ?_⟩
      · rw [hstatus, ← l.status_eq, hsummary]
        rfl
      · rw [hcontents]
        exact congrArg some hsummary

end CommandLine

end BulkLoad
