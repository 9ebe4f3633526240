import BulkLoad.CommandLine.Rendering
import BulkLoad.Proofs.Load.Rounds
import BulkLoad.Proofs.Load.Scripted

/-!
What a rendering prints and tells.

It goes over the records once. Those that have a query are printed, the create query first, and
those that have none are the ones that a load into a script rejects.
-/
namespace BulkLoad

def RecordFailure.skipWarning (f : RecordFailure) : Event :=
  .warning ("line " ++ Decimal.text f.line ++ ": " ++ f.message)

namespace CommandLine

namespace Rendering

/-- A rendering of records prints the queries that they have and skips the records that a load into
a script rejects. -/
theorem ofItems_ofRecords (job : Job) (rs : List Record) (fault : Option SourceFault) :
    let rejections := (rs.filterMap job.scriptFailure?).filter (·.kind.isRejection)
    ofItems job.target (Items.ofRecords rs fault) =
      ⟨rs.filterMap job.insertOf?, rejections.map (·.skipWarning), rejections.length, fault⟩ := by
  -- A record with a query is printed even where a script would not take the query, so only
  -- the rejections count here, not every failure.
  induction rs with
  | nil => cases fault <;> rfl
  | cons r rest ih =>
      have hitems : Items.ofRecords (r :: rest) fault = .ok r :: Items.ofRecords rest fault := rfl
      rw [hitems, ofItems]
      cases hquery : Query.insert job.target.schema job.target.name r with
      | error reason =>
          have hnone : job.insertOf? r = none := by rw [Job.insertOf?, hquery]; rfl
          let rejection : RecordFailure :=
            ⟨r.line, job.keyOf r, .ofFault reason, reason.message⟩
          have hkept : ((r :: rest).filterMap job.scriptFailure?).filter (·.kind.isRejection) =
              rejection :: (rest.filterMap job.scriptFailure?).filter (·.kind.isRejection) := by
            rw [List.filterMap_cons_some (Job.scriptFailure?_of_rejected hquery),
              List.filter_cons, if_pos (Job.kind_ofFault reason).1]
          simp only [ih, skip, List.filterMap_cons_none hnone, hkept, List.map_cons,
            List.length_cons]
          rfl
      | ok query =>
          have hsome : job.insertOf? r = some query := by rw [Job.insertOf?, hquery]; rfl
          have hkept : ((r :: rest).filterMap job.scriptFailure?).filter (·.kind.isRejection) =
              (rest.filterMap job.scriptFailure?).filter (·.kind.isRejection) := by
            have hfailure := Job.scriptFailure?_of_query hquery
            split_ifs at hfailure
            · rw [List.filterMap_cons_some hfailure]
              rfl
            · rw [List.filterMap_cons_none hfailure]
          simp only [ih, cons, List.filterMap_cons_some hsome, hkept]

theorem text_cons (query : Query) (rest : List Query) :
    text (query :: rest) = query.text ++ "\n" ++ text rest :=
  Script.page_cons query rest

/-- The lines of a script are those of the queries that fit, as they are printed. -/
theorem lines_eq_text (queries : List Query) :
    Script.lines queries =
      Encoding.Utf8.encodeText (text (queries.filter (!Script.hasBreak ·.text))) :=
  Script.lines_eq_page queries

end Rendering

namespace RenderRequest

variable {r : RenderRequest} {job : Job}

theorem queries_eq (hcreate : job.options.createTable = r.createTable) (rs : List Record)
    (warnings : List Event) (skipped : Nat) (fault : Option SourceFault) :
    r.queries job.target ⟨rs.filterMap job.insertOf?, warnings, skipped, fault⟩ =
      job.queries rs := by
  unfold queries Job.queries Job.createQueries
  rw [hcreate]
  cases r.createTable <;> rfl

/-- What a rendering prints and tells about a source. -/
theorem finish_eq (hcreate : job.options.createTable = r.createTable) (files : Workspace)
    (whole : Source) :
    let rejections := (whole.records.filterMap job.scriptFailure?).filter (·.kind.isRejection)
    let told := r.input.opening :: Input.found whole.info :: rejections.map (·.skipWarning)
    let ending := r.finish job.target files whole
    ending.output = Rendering.text (job.queries whole.records) ∧
      match whole.fault? with
      | some fault => ending.status = Ending.failure ∧
          ending.told = (told ++ [Event.failure (LoadFault.source fault).chain]).map .event
      | none => ending.status = Ending.success ∧
          ending.told = (told ++ closing rejections.length).map .event := by
  intro rejections told ending
  have hrendering : Rendering.ofItems job.target whole.items =
      ⟨whole.records.filterMap job.insertOf?, rejections.map (·.skipWarning), rejections.length,
        whole.fault?⟩ := Rendering.ofItems_ofRecords job whole.records whole.fault?
  have hqueries := queries_eq (r := r) hcreate whole.records (rejections.map (·.skipWarning))
    rejections.length whole.fault?
  simp only [ending, finish]
  rw [hrendering, hqueries]
  cases whole.fault? with
  | some fault =>
      refine ⟨rfl, rfl, ?_⟩
      simp only [Ending.failed, told, List.map_append]
      rfl
  | none => exact ⟨rfl, rfl, rfl⟩

/-- A rendering ends when its source is read out. -/
theorem run_of_readOut [Encoding.EastAsian.Decoders] {s : Surroundings} {target : Definition}
    {input : Handle} {source : OpenSource} {whole : Source} {reads : Nat}
    (htarget : r.target.resolve s.files = .ok target)
    (hsource : r.input.openSource r.source (r.target.filesAfter s.files) reads =
      some (.ok (input, source)))
    (hwhole : source.readOut ((r.target.filesAfter s.files).block input) reads [] = some whole) :
    r.run s reads = some (r.finish target (r.target.filesAfter s.files) whole) := by
  simp only [run, htarget, hsource, hwhole, Option.map_some]

end RenderRequest

end CommandLine

end BulkLoad
