import BulkLoad.Proofs.Load.Scripted
import BulkLoad.Proofs.Text.Lines
import BulkLoad.Proofs.Workspace.Frame

/-!
What a load leaves in its script.

The queries that a script takes have no line breaks, so that its lines are the queries, each whole.
They are the create query, if the table is created, and the insert queries of the records that are
counted as loaded. A query that does not fit on a line is what makes a record fail, and the only
thing.
-/
namespace BulkLoad

namespace Script

variable {queries : List Query}

theorem not_mem_of_fits {text : String} (h : hasBreak text = false) : '\n' ∉ text.toList :=
  fun hmem => by simpa using List.any_eq_false.mp h '\n' hmem

/-- A page cut at its line feeds is its queries, with nothing after the last line feed. -/
theorem splitOn_page (h : ∀ query ∈ queries, hasBreak query.text = false) :
    (page queries).toList.splitOn '\n' = queries.map (·.text.toList) ++ [[]] := by
  induction queries with
  | nil => rfl
  | cons query rest ih =>
      obtain ⟨hquery, hrest⟩ := List.forall_mem_cons.mp h
      have hpage : (page (query :: rest)).toList =
          query.text.toList ++ '\n' :: (page rest).toList := by
        rw [page_cons, String.toList_append, String.toList_append, List.append_assoc]
        rfl
      rw [hpage, List.splitOn_append_cons_self_of_not_mem (not_mem_of_fits hquery), ih hrest]
      rfl

theorem lines_page (h : ∀ query ∈ queries, hasBreak query.text = false) :
    Text.lines (page queries) = queries.map (·.text) := by
  induction queries with
  | nil => rfl
  | cons query rest ih =>
      obtain ⟨hquery, hrest⟩ := List.forall_mem_cons.mp h
      have hline : ∀ c ∈ query.text.toList, c ≠ '\n' ∧ c ≠ '\r' := by
        rwa [← hasBreak_ofList, String.ofList_toList]
      rw [Text.lines, page_cons, String.toList_append, String.toList_append, List.append_assoc]
      change (Text.linesFrom [] (query.text.toList ++ '\n' :: (page rest).toList)).map _ = _
      rw [Text.linesFrom_line hline, List.map_cons]
      change String.ofList query.text.toList :: Text.lines (page rest) = _
      rw [String.ofList_toList, ih hrest]
      rfl

end Script

/-- A file that a script was created in holds the script when it was left there. -/
theorem ScriptFile.bytesAt?_leave {s : ScriptFile} (h : s.Sound) {place : List String}
    (hfile : s.file = .file place) (files : Workspace) :
    (s.leave (files.truncate (.file place))).bytesAt? place = some s.content := by
  obtain ⟨left, hleft⟩ : ∃ left, (files.truncate (.file place)).writeAt (.file place) 0
      s.content = .ok left := ⟨_, rfl⟩
  have hwritten := Workspace.writeAt_truncated files place s.content
  rw [hleft] at hwritten
  rw [ScriptFile.leave_eq h (by rw [hfile, hleft])]
  exact Except.ok.inj hwritten

namespace Job

open Script (hasBreak page)

/-- A script's text and the summary of its load, against what became of the records. -/
structure Transcribes (job : Job) (fates : List (Record × Fate)) (inserts : List Query)
    (s : Summary) (text : String) : Prop where
  loaded : (fates.filter (·.2.isLoaded)).map (job.insertOf? ·.1) = inserts.map some
  succeeded : s.succeeded = inserts.length
  text_eq : text = page (job.createQueries ++ inserts)
  split_eq : text.toList.splitOn '\n' = (job.createQueries ++ inserts).map (·.text.toList) ++ [[]]
  lines_eq : Text.lines text = (job.createQueries ++ inserts).map (·.text)
  length_lines : (Text.lines text).length =
    s.succeeded + if job.options.createTable then 1 else 0
  failed_iff : ∀ x ∈ fates, x.2.isFailedRun = true ↔ job.isBroken x.1 = true
  executionFailures : s.executionFailures = fates.countP (job.isBroken ·.1)
  launchFailures : s.launchFailures = 0
  tableCreated : s.tableCreated = job.options.createTable

variable {σ : Type} (job : Job)

def fittingInserts (rs : List Record) : List Query :=
  (rs.filterMap job.insertOf?).filter (!hasBreak ·.text)

theorem isLoaded_scriptFate (r : Record) :
    (job.scriptFate r).isLoaded = (job.insertOf? r).any (!hasBreak ·.text) := by
  unfold scriptFate insertOf?
  cases Query.insert job.target.schema job.target.name r with
  | error fault => rfl
  | ok query =>
      simp [Fate.isLoaded, Fate.isRejected, Fate.isUnlaunched, Fate.isFailedRun_ran,
        Script.answer_succeeded, Except.toOption]

theorem isFailedRun_scriptFate (r : Record) :
    (job.scriptFate r).isFailedRun = job.isBroken r := by
  unfold scriptFate isBroken insertOf?
  cases Query.insert job.target.schema job.target.name r with
  | error fault => rfl
  | ok query => simp [Fate.isFailedRun_ran, Script.answer_succeeded, Except.toOption]

theorem isUnlaunched_scriptFate (r : Record) : (job.scriptFate r).isUnlaunched = false := by
  unfold scriptFate
  cases Query.insert job.target.schema job.target.name r <;> rfl

theorem map_insertOf?_loaded (rs : List Record) :
    (rs.filter fun r => (job.scriptFate r).isLoaded).map job.insertOf? =
      (job.fittingInserts rs).map some := by
  induction rs with
  | nil => rfl
  | cons r rest ih =>
      unfold fittingInserts at ih ⊢
      rw [List.filter_cons, isLoaded_scriptFate]
      cases hquery : job.insertOf? r with
      | none =>
          rw [List.filterMap_cons_none hquery]
          exact ih
      | some query =>
          rw [List.filterMap_cons_some hquery, List.filter_cons, Option.any_some]
          split_ifs
          · rw [List.map_cons, List.map_cons, hquery, ih]
          · exact ih

theorem fits_of_kept (rs : List Record) :
    ∀ query ∈ job.createQueries ++ job.fittingInserts rs, hasBreak query.text = false := by
  intro query hquery
  rcases List.mem_append.mp hquery with hcreate | hinsert
  · have hkept := List.filter_eq_nil_iff.mp job.createQueries_fit query hcreate
    simpa using hkept
  · simpa using (List.mem_filter.mp hinsert).2

theorem filter_fitting_queries (rs : List Record) :
    (job.queries rs).filter (!hasBreak ·.text) = job.createQueries ++ job.fittingInserts rs := by
  rw [queries, List.filter_append, fittingInserts]
  congr 1
  rw [List.filter_eq_self]
  intro query hquery
  simpa using List.filter_eq_nil_iff.mp job.createQueries_fit query hquery

/-- The page of the queries that fit goes with the summary of their load. -/
theorem transcribes_page (rs : List Record) :
    let fates := rs.map fun r => (r, job.scriptFate r)
    job.Transcribes fates (job.fittingInserts rs) (job.summaryOf job.options.createTable fates)
      (page (job.createQueries ++ job.fittingInserts rs)) := by
  intro fates
  have hloaded : (fates.filter (·.2.isLoaded)).map (job.insertOf? ·.1) =
      (job.fittingInserts rs).map some := by
    rw [List.filter_map, List.map_map]
    exact job.map_insertOf?_loaded rs
  have hsucceeded : fates.countP (·.2.isLoaded) = (job.fittingInserts rs).length := by
    have hlength := congrArg List.length hloaded
    rwa [List.length_map, List.length_map, ← List.countP_eq_length_filter] at hlength
  have hfits := job.fits_of_kept rs
  have hlines := Script.lines_page hfits
  have hcreates : job.createQueries.length = if job.options.createTable then 1 else 0 := by
    unfold createQueries
    split_ifs <;> rfl
  refine ⟨hloaded, hsucceeded, rfl, Script.splitOn_page hfits, hlines, ?_, ?_, ?_, ?_, rfl⟩
  · rw [hlines, List.length_map, List.length_append, hcreates, Nat.add_comm]
    exact congrArg (· + _) hsucceeded.symm
  · rintro x hx
    obtain ⟨r, -, rfl⟩ := List.mem_map.mp hx
    rw [isFailedRun_scriptFate]
  · change fates.countP (·.2.isFailedRun) = _
    rw [List.countP_map, List.countP_map]
    exact List.countP_congr fun r _ => by simp [isFailedRun_scriptFate]
  · change fates.countP (·.2.isUnlaunched) = 0
    rw [List.countP_map, List.countP_eq_zero]
    intro r _
    simp [isUnlaunched_scriptFate]

/-- A run that goes through over an engine that writes queries down, before it tells the end. -/
theorem transcribes_of_scribes {engine : Engine σ} {Takes : Query → Prop}
    {Holds : List UInt8 → σ → Prop} (h : engine.Scribes Takes Holds) (htakes : ∀ query, Takes query)
    (start : σ) (hstart : Holds [] start) {stage : LoadStage}
    {items : List (Except SourceFault Record)} {s : Summary}
    (hrun : (job.run engine ⟨start, stage⟩ items).outcome = .ok s) :
    ∃ rs inserts text state told,
      limited job.options.limit items = rs.map .ok ∧
        job.Transcribes (job.fates engine (job.begun engine start) rs) inserts s text ∧
        Holds (Encoding.Utf8.encodeText text) state ∧
        engine.finish state =
          (.ok told, (job.run engine ⟨start, stage⟩ items).session.engine) := by
  have hends := job.run_ends engine ⟨start, stage⟩ items
  rw [hrun] at hends
  generalize (job.run engine ⟨start, stage⟩ items).session = session at hends ⊢
  cases hends with
  | @through created told after hcreate hsound hfinish =>
      let rs := Items.records (limited job.options.limit items)
      obtain ⟨hopened, hbegun⟩ := job.begun_of_scribes h hstart fun query _ => htakes query
      obtain ⟨hfates, hpassed⟩ := job.fates_of_scribes h rs hbegun fun query _ => htakes query
      cases hcreate.symm.trans hopened
      have htext : Script.lines (job.queries rs) =
          Encoding.Utf8.encodeText (page (job.createQueries ++ job.fittingInserts rs)) := by
        rw [Script.lines_eq_page, filter_fitting_queries]
      rw [List.nil_append, ← Script.lines_append] at hpassed
      refine ⟨rs, job.fittingInserts rs, _, _, told, Items.eq_map_records hsound, ?_,
        htext ▸ hpassed, hfinish⟩
      have hpage := job.transcribes_page rs
      rwa [← hfates] at hpage

/-- A broken record leaves no trace in a script. -/
theorem fate_of_broken {engine : Engine σ}
    (hengine : ∀ database query state, hasBreak query.text = true →
      engine.invoke database query state = (.ok Script.refusal, state))
    {r : Record} (h : job.isBroken r = true) (state : σ) :
    job.fate engine state r = (.ran Script.refusal, state) := by
  unfold isBroken insertOf? at h
  unfold fate
  cases hquery : Query.insert job.target.schema job.target.name r with
  | error fault =>
      rw [hquery] at h
      cases h
  | ok query =>
      rw [hquery] at h
      simp only [hengine _ _ _ h]
      rfl

section Written

variable {job} {label : String} {stage : LoadStage} {items : List (Except SourceFault Record)}
  {s : Summary}

theorem script_in_memory
    (hrun : (job.run Script.engine ⟨.empty label, stage⟩ items).outcome = .ok s) :
    ∃ rs inserts, limited job.options.limit items = rs.map .ok ∧
      job.Transcribes (job.fates Script.engine (job.begun Script.engine (.empty label)) rs)
        inserts s (job.run Script.engine ⟨.empty label, stage⟩ items).session.engine.text := by
  obtain ⟨rs, inserts, text, state, told, hreach, htext, ⟨hfault, hholds⟩, hfinish⟩ :=
    job.transcribes_of_scribes Script.scribes (fun _ => trivial) (.empty label) ⟨rfl, rfl⟩ hrun
  have hended : (job.run Script.engine ⟨.empty label, stage⟩ items).session.engine = state := by
    simp only [Script.engine, Script.close, hfault, Prod.mk.injEq] at hfinish
    exact hfinish.2.symm
  rw [← Encoding.Utf8.encodeText_injective hholds] at htext
  rw [hended]
  exact ⟨rs, inserts, hreach, htext⟩

theorem script_in_file {file : Handle} (hfile : file ≠ .device .full)
    (hrun : (job.run ScriptFile.engine ⟨.empty label file, stage⟩ items).outcome = .ok s) :
    let after := (job.run ScriptFile.engine ⟨.empty label file, stage⟩ items).session.engine
    ∃ rs inserts text, limited job.options.limit items = rs.map .ok ∧
      job.Transcribes
        (job.fates ScriptFile.engine (job.begun ScriptFile.engine (.empty label file)) rs)
        inserts s text ∧
      after.bytes = Encoding.Utf8.encodeText text ∧
      ∀ place (files : Workspace), file = .file place →
        (after.leave (files.truncate file)).bytesAt? place =
          some (Encoding.Utf8.encodeText text) := by
  intro after
  obtain ⟨rs, inserts, text, state, told, hreach, htext, hholds, hfinish⟩ :=
    job.transcribes_of_scribes (ScriptFile.scribes (.empty label file))
      (fun _ hfull => absurd hfull hfile) (.empty label file)
      (.refl (ScriptFile.empty_sound label file)) hrun
  obtain ⟨closed, hclose, hclosed, hheld⟩ := ScriptFile.close_extends hholds.sound
  have hended : after = closed := (Prod.ext_iff.mp (hfinish.symm.trans hclose)).2
  have hcontent : closed.content = Encoding.Utf8.encodeText text := by
    rw [hclosed.content, hholds.content, List.append_nil]
    rfl
  refine ⟨rs, inserts, text, hreach, htext, ?_, ?_⟩
  · rw [hended, ← hcontent, ScriptFile.content, hheld]
    exact (List.append_nil _).symm
  · rintro place files rfl
    rw [hended, ← hcontent]
    exact ScriptFile.bytesAt?_leave hclosed.sound (hclosed.file.trans hholds.file) files

end Written

/-- **A script has the queries of the loaded records.** When a load into a script that takes what it
is given comes to its end, the script has a line for the create query, if the table is created, and
one for the query of each record that is counted as loaded, in order, and nothing else; cut at its
line feeds it gives these queries back. A record fails exactly if its query has a line break, and
the script is then left as it was. In a file the text stands in UTF-8, before the file is left and
after. -/
theorem script_of_run (job : Job) (label : String) (stage : LoadStage)
    (items : List (Except SourceFault Record)) (s : Summary) :
    let reach := limited job.options.limit items
    let run := job.run Script.engine ⟨.empty label, stage⟩ items
    (run.outcome = .ok s →
      (∃ rs inserts, reach = rs.map .ok ∧
        job.Transcribes (job.fates Script.engine (job.begun Script.engine (.empty label)) rs)
          inserts s run.session.engine.text) ∧
        ∀ r state, job.isBroken r = true →
          job.fate Script.engine state r = (.ran Script.refusal, state)) ∧
      ∀ file : Handle, file ≠ .device .full →
        let run := job.run ScriptFile.engine ⟨.empty label file, stage⟩ items
        run.outcome = .ok s →
          (∃ rs inserts text, reach = rs.map .ok ∧
            job.Transcribes
              (job.fates ScriptFile.engine (job.begun ScriptFile.engine (.empty label file)) rs)
              inserts s text ∧
            run.session.engine.bytes = Encoding.Utf8.encodeText text ∧
            ∀ place (files : Workspace), file = .file place →
              (run.session.engine.leave (files.truncate file)).bytesAt? place =
                some (Encoding.Utf8.encodeText text)) ∧
            ∀ r state, job.isBroken r = true →
              job.fate ScriptFile.engine state r = (.ran Script.refusal, state) := by
  intro reach run
  refine ⟨?_, ?_⟩
  · intro hrun
    refine ⟨script_in_memory hrun, fun r state hbroken => ?_⟩
    exact job.fate_of_broken (fun _ _ _ h => if_pos h) hbroken state
  · intro file hfile run hrun
    refine ⟨script_in_file hfile hrun, fun r state hbroken => ?_⟩
    exact job.fate_of_broken (fun _ _ _ h => if_pos h) hbroken state

/-- A record that is loaded, one without a query, and one whose query has a line break. -/
theorem script_of_sample :
    let s : Summary :=
      ⟨3, 1, 1, 0, 1, true, [⟨3, none, .unrepresentableValue,
        (QueryFault.emptyValue "k").message⟩], 1⟩
    let run := sampleJob.run Script.engine ⟨.empty "q", .schemaPending⟩ sampleItems
    let filed := sampleJob.run ScriptFile.engine ⟨.empty "q" (.file ["q"]), .schemaPending⟩
      sampleItems
    run.outcome = .ok s ∧ filed.outcome = .ok s ∧ Handle.file ["q"] ≠ .device .full ∧
      (Text.lines run.session.engine.text).length = 2 ∧
      (∃ text, filed.session.engine.bytes = Encoding.Utf8.encodeText text ∧
        (Text.lines text).length = 2) ∧
      sampleJob.isBroken ⟨4, [("b", "NO"), ("k", "\n")]⟩ = true := by
  intro s run filed
  have hrun : run.outcome = .ok s := outcome_eq_ok (by decide +kernel)
  have hfiled : filed.outcome = .ok s := outcome_eq_ok (by decide +kernel)
  have hfile : Handle.file ["q"] ≠ .device .full := by decide
  obtain ⟨hmemory, hscript⟩ := script_of_run sampleJob "q" .schemaPending sampleItems s
  obtain ⟨⟨_, _, -, htext⟩, -⟩ := hmemory hrun
  obtain ⟨⟨_, _, text, -, hsame, hbytes, -⟩, -⟩ := hscript (.file ["q"]) hfile hfiled
  exact ⟨hrun, hfiled, hfile, htext.length_lines, ⟨text, hbytes, hsame.length_lines⟩,
    by decide +kernel⟩

end Job

end BulkLoad
