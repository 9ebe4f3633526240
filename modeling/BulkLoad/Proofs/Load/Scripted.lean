import BulkLoad.Proofs.Engine.ScriptText
import BulkLoad.Proofs.Load.Ends
import BulkLoad.Proofs.Load.FromSource
import BulkLoad.Proofs.Load.Telling
import BulkLoad.Proofs.Query.OneLine

/-!
Loads into a script.

What becomes of a record there follows from the record alone: it is rejected if it has no query, it
fails if its query does not fit on a line, and else it is loaded. The script holds the lines of the
queries that fit, the create query first; that the file takes them is left to where the script is
left behind.
-/
namespace BulkLoad

namespace Script

theorem lines_append (front back : List Query) :
    lines (front ++ back) = lines front ++ lines back :=
  List.flatMap_append

theorem lines_singleton (query : Query) : lines [query] = lineOf query :=
  List.append_nil _

end Script

namespace Job

open Script (lines hasBreak answer)

variable (job : Job)

theorem createQuery_fits : hasBreak job.createQuery.text = false :=
  Query.hasBreak_create job.target.schema
    ((Identifier.fault?_eq_none_iff job.target.name).mp job.target.named)

def scriptFate (r : Record) : Fate :=
  match Query.insert job.target.schema job.target.name r with
  | .error fault => .rejected fault
  | .ok query => .ran (answer query)

def scriptFailure? (r : Record) : Option RecordFailure := job.failure? r (job.scriptFate r)

variable {job}

section Scribes

variable {σ : Type} {engine : Engine σ} {Takes : Query → Prop} {Holds : List UInt8 → σ → Prop}
  {bytes : List UInt8} {state : σ}

theorem fate_of_scribes (h : engine.Scribes Takes Holds) (hs : Holds bytes state) {r : Record}
    (htakes : ∀ query ∈ job.insertOf? r, Takes query) :
    ∃ after, job.fate engine state r = (job.scriptFate r, after) ∧
      Holds (bytes ++ lines (job.insertOf? r).toList) after := by
  unfold fate scriptFate
  unfold insertOf? at htakes ⊢
  cases hquery : Query.insert job.target.schema job.target.name r with
  | error fault => exact ⟨state, rfl, (List.append_nil bytes).symm ▸ hs⟩
  | ok query =>
      rw [hquery] at htakes
      obtain ⟨after, hwrite, hafter⟩ := h.invoke job.database (htakes query rfl) hs
      refine ⟨after, ?_, ?_⟩
      · simp only [hwrite]
        rfl
      · change Holds (bytes ++ lines [query]) after
        rwa [Script.lines_singleton]

variable (job) in
/-- Records are sent to a script one after the other, each to its own fate, and the lines of their
queries are there in order. -/
theorem fates_of_scribes (h : engine.Scribes Takes Holds) (rs : List Record)
    (hs : Holds bytes state) (htakes : ∀ query ∈ rs.filterMap job.insertOf?, Takes query) :
    job.fates engine state rs = rs.map (fun r => (r, job.scriptFate r)) ∧
      Holds (bytes ++ lines (rs.filterMap job.insertOf?)) (job.passed engine state rs) := by
  induction rs generalizing bytes state with
  | nil => exact ⟨rfl, (List.append_nil bytes).symm ▸ hs⟩
  | cons r rest ih =>
      have hqueries : (r :: rest).filterMap job.insertOf? =
          (job.insertOf? r).toList ++ rest.filterMap job.insertOf? := by
        cases h : job.insertOf? r <;> simp [h]
      rw [hqueries] at htakes ⊢
      obtain ⟨after, hfate, hafter⟩ := fate_of_scribes h hs (r := r) fun query hquery =>
        htakes query (List.mem_append_left _ (Option.mem_toList.mpr hquery))
      obtain ⟨hfates, hrest⟩ := ih hafter fun query hquery =>
        htakes query (List.mem_append_right _ hquery)
      refine ⟨?_, ?_⟩
      · rw [fates, hfate, hfates]
        rfl
      · rw [passed, List.foldl_cons, hfate, Script.lines_append, ← List.append_assoc]
        exact hrest

variable (job) in
/-- The create query always fits on a line, so the table counts as created whenever it is to be. -/
theorem begun_of_scribes (h : engine.Scribes Takes Holds) (hs : Holds bytes state)
    (htakes : ∀ query ∈ job.createQueries, Takes query) :
    (job.create engine state).1 = .ok job.options.createTable ∧
      Holds (bytes ++ lines job.createQueries) (job.begun engine state) := by
  rw [create_answer]
  unfold begun
  unfold createQueries at htakes ⊢
  cases hcreate : job.options.createTable with
  | false => exact ⟨rfl, (List.append_nil bytes).symm ▸ hs⟩
  | true =>
      rw [hcreate] at htakes
      obtain ⟨after, hwrite, hafter⟩ :=
        h.invoke job.database (htakes job.createQuery List.mem_cons_self) hs
      have hanswer : (answer job.createQuery).succeeded = true := by
        rw [Script.answer_succeeded, createQuery_fits]
        rfl
      simp only [if_true, hwrite, Except.map, hanswer, Script.lines_singleton]
      exact ⟨trivial, hafter⟩

end Scribes

variable (job) in
theorem fates_script (rs : List Record) {s : ScriptFile} (hs : s.Sound)
    (hroom : s.file = .device .full →
      ∀ query ∈ rs.filterMap job.insertOf?, hasBreak query.text = true) :
    job.fates ScriptFile.engine s rs = rs.map (fun r => (r, job.scriptFate r)) ∧
      s.Extends (job.passed ScriptFile.engine s rs) (lines (rs.filterMap job.insertOf?)) :=
  job.fates_of_scribes (ScriptFile.scribes s) rs (.refl hs)
    fun query hquery hfull => hroom hfull query hquery

variable (job) in
theorem begun_script {s : ScriptFile} (hs : s.Sound)
    (hroom : s.file = .device .full → job.options.createTable = false) :
    (job.create ScriptFile.engine s).1 = .ok job.options.createTable ∧
      s.Extends (job.begun ScriptFile.engine s) (lines job.createQueries) := by
  apply job.begun_of_scribes (ScriptFile.scribes s) (.refl hs)
  intro query hquery hfull
  rw [createQueries, hroom hfull] at hquery
  cases hquery

theorem scriptFailure?_of_rejected {r : Record} {fault : QueryFault}
    (h : Query.insert job.target.schema job.target.name r = .error fault) :
    job.scriptFailure? r = some ⟨r.line, job.keyOf r, .ofFault fault, fault.message⟩ := by
  simp only [scriptFailure?, scriptFate, h, failure?, Fate.complaint?, Option.map_some]

theorem scriptFailure?_of_query {r : Record} {query : Query}
    (h : Query.insert job.target.schema job.target.name r = .ok query) :
    job.scriptFailure? r =
      if hasBreak query.text then
        some ⟨r.line, job.keyOf r, .engineExecution, Script.refusal.failureReason⟩
      else none := by
  simp only [scriptFailure?, scriptFate, h, failure?, Fate.complaint?, Script.answer_succeeded]
  cases hbreak : hasBreak query.text with
  | true => simp [answer, hbreak]
  | false => simp

section Counts

variable (job)

def isBroken (r : Record) : Bool := (job.insertOf? r).any (hasBreak ·.text)

def breakage (r : Record) : RecordFailure :=
  ⟨r.line, job.keyOf r, .engineExecution, Script.refusal.failureReason⟩

def scriptSummary (rs : List Record) : Summary :=
  let failures := rs.filterMap job.scriptFailure?
  { total := rs.length
    succeeded := rs.length - failures.length
    rejected := failures.countP (·.kind.isRejection)
    launchFailures := 0
    executionFailures := failures.countP (·.kind == .engineExecution)
    tableCreated := job.options.createTable
    failures := failures.take job.options.maxFailures
    failuresOmitted := failures.length - job.options.maxFailures }

def scriptOutcome (source : Source) : Except LoadFault Summary :=
  match source.fault? with
  | some fault => .error (.source fault)
  | none => .ok (job.scriptSummary source.records)

theorem scriptOutcome_of_sound {source : Source} (h : source.fault? = none) :
    job.scriptOutcome source = .ok (job.scriptSummary source.records) := by
  rw [scriptOutcome, h]

theorem scriptOutcome_of_fault {source : Source} {fault : SourceFault}
    (h : source.fault? = some fault) : job.scriptOutcome source = .error (.source fault) := by
  rw [scriptOutcome, h]

theorem kind_ofFault (fault : QueryFault) :
    (FailureKind.ofFault fault).isRejection = true ∧
      (FailureKind.ofFault fault == .engineExecution) = false ∧
      (FailureKind.ofFault fault == .engineLaunch) = false := by
  cases fault <;> exact ⟨rfl, rfl, rfl⟩

theorem createQueries_fit : job.createQueries.filter (hasBreak ·.text) = [] := by
  unfold createQueries
  split_ifs
  · rw [List.filter_cons_of_neg (by simp [createQuery_fits]), List.filter_nil]
  · rfl

/-- The queries with a line break are those of the broken records. -/
theorem filter_queries (rs : List Record) :
    (job.queries rs).filter (hasBreak ·.text) =
      (rs.filter job.isBroken).filterMap job.insertOf? := by
  rw [queries, List.filter_append, createQueries_fit, List.nil_append]
  induction rs with
  | nil => rfl
  | cons r rest ih =>
      cases hquery : job.insertOf? r with
      | none =>
          have hbroken : job.isBroken r = false := by rw [isBroken, hquery]; rfl
          rw [List.filterMap_cons_none hquery, List.filter_cons_of_neg (by simp [hbroken]), ih]
      | some query =>
          have hbroken : job.isBroken r = hasBreak query.text := by rw [isBroken, hquery]; rfl
          rw [List.filterMap_cons_some hquery, List.filter_cons, List.filter_cons, hbroken, ih]
          split_ifs
          · rw [List.filterMap_cons_some hquery]
          · rfl

/-- The failures that are no rejections are those of the broken records. -/
theorem filter_scriptFailures (rs : List Record) :
    (rs.filterMap job.scriptFailure?).filter (!·.kind.isRejection) =
      (rs.filter job.isBroken).map job.breakage := by
  induction rs with
  | nil => rfl
  | cons r rest ih =>
      cases hquery : Query.insert job.target.schema job.target.name r with
      | error fault =>
          have hbroken : job.isBroken r = false := by
            rw [isBroken, insertOf?, hquery]
            rfl
          rw [List.filterMap_cons_some (scriptFailure?_of_rejected hquery),
            List.filter_cons_of_neg (by simp [kind_ofFault]),
            List.filter_cons_of_neg (by simp [hbroken]), ih]
      | ok query =>
          have hbroken : job.isBroken r = hasBreak query.text := by
            rw [isBroken, insertOf?, hquery]
            rfl
          have hfailure := scriptFailure?_of_query hquery
          rw [List.filter_cons, hbroken]
          cases hbreak : hasBreak query.text with
          | true =>
              rw [hbreak, if_pos rfl] at hfailure
              rw [List.filterMap_cons_some hfailure, List.filter_cons_of_pos rfl, ih]
              rfl
          | false =>
              rw [hbreak, if_neg Bool.false_ne_true] at hfailure
              rw [List.filterMap_cons_none hfailure, ih]
              rfl

theorem not_launch_scriptFailure? {r : Record} {failure : RecordFailure}
    (h : job.scriptFailure? r = some failure) :
    (failure.kind == .engineLaunch) = false ∧
      (failure.kind == .engineExecution) = !failure.kind.isRejection := by
  cases hquery : Query.insert job.target.schema job.target.name r with
  | error fault =>
      rw [scriptFailure?_of_rejected hquery] at h
      cases h
      obtain ⟨hrejection, hexecution, hlaunch⟩ := kind_ofFault fault
      simp [hrejection, hexecution, hlaunch]
  | ok query =>
      rw [scriptFailure?_of_query hquery] at h
      split_ifs at h
      cases h
      exact ⟨rfl, rfl⟩

theorem tally_script (rs : List Record) :
    (Summary.start job.options.createTable).tally job.options.maxFailures
      (rs.map job.scriptFailure?) = job.scriptSummary rs := by
  have hfailures : (rs.map job.scriptFailure?).filterMap id = rs.filterMap job.scriptFailure? :=
    List.filterMap_map
  have hloaded := Summary.countP_isNone_add_length (rs.map job.scriptFailure?)
  rw [hfailures, List.length_map] at hloaded
  have hlaunched : (rs.filterMap job.scriptFailure?).countP (·.kind == .engineLaunch) = 0 := by
    rw [List.countP_eq_zero]
    intro failure hfailure
    obtain ⟨r, -, hr⟩ := List.mem_filterMap.mp hfailure
    simp [(not_launch_scriptFailure? job hr).1]
  simp only [Summary.tally, Summary.start, scriptSummary, hfailures, hlaunched, List.length_map,
    List.length_nil, Nat.zero_add, Nat.sub_zero, List.nil_append, Summary.mk.injEq, true_and,
    and_true]
  omega

end Counts

theorem complaints_columnWarnings (missing : List String) :
    Event.complaints (columnWarnings missing) = [] := by
  unfold columnWarnings
  split_ifs <;> rfl

/-- A load of a source into a script: the lines of its queries are there, its failures are told in
order, and it ends with the fault of the source or with its summary. -/
theorem loaded_script (source : Source) {s : ScriptFile} (hs : s.Sound)
    (hroom : s.file = .device .full →
      ∀ query ∈ job.queries source.records, hasBreak query.text = true)
    (hlimit : job.options.limit = none) :
    let run := job.loadSource ScriptFile.engine s source
    s.Extends run.session.engine (lines (job.queries source.records)) ∧
      Event.complaints run.events =
        (source.records.filterMap job.scriptFailure?).map (·.event) ∧
      run.outcome = job.scriptOutcome source := by
  intro run
  obtain ⟨hcreate, hbegun⟩ := job.begun_script hs fun hfull => by
    by_contra hcreate
    have hbreak := hroom hfull job.createQuery (by simp [queries, createQueries, hcreate])
    rw [createQuery_fits] at hbreak
    cases hbreak
  let session : Session ScriptFile := ⟨s, .schemaPending⟩
  have hopened : (job.create ScriptFile.engine session.engine).1 = .ok job.options.createTable :=
    hcreate
  let start := job.opened ScriptFile.engine session.engine job.options.createTable
  let ended := source.records.foldl (job.loadRecord ScriptFile.engine) start
  obtain ⟨hfates, hended⟩ := job.fates_script source.records hbegun.sound
    fun hfull query hquery =>
      hroom (hbegun.file ▸ hfull) query (List.mem_append_right _ hquery)
  have hfates : job.fates ScriptFile.engine start.engine source.records = _ := hfates
  have hload : job.loadItems ScriptFile.engine start (limited job.options.limit source.items) =
      (source.fault?, ended) := by
    rw [hlimit]
    exact (loadItems_eq job _ _ _).trans
      (congrArg₂ Prod.mk (Items.fault?_ofRecords _ _)
        (congrArg (List.foldl _ start) (Items.records_ofRecords _ _)))
  have hlines : s.Extends ended.engine (lines (job.queries source.records)) := by
    rw [queries, Script.lines_append, foldl_loadRecord_engine]
    exact hbegun.trans hended
  have htold : Event.complaints ended.events.reverse =
      (source.records.filterMap job.scriptFailure?).map (·.event) := by
    rw [complaints_foldl, complaints_opened, hfates, List.filterMap_map]
    rfl
  have hsummary : ended.summary = job.scriptSummary source.records := by
    rw [foldl_loadRecord_summary, Summary.foldl_account, hfates, List.map_map]
    exact tally_script job source.records
  cases hfault : source.fault? with
  | some fault =>
      rw [hfault] at hload
      have hrun : job.run ScriptFile.engine session source.items =
          ⟨.error (.source fault), ended.events.reverse, ⟨ended.engine, .loadingRecords⟩⟩ :=
        runWith_of_stopped hopened hload
      simp only [run, loadSource]
      rw [hrun, scriptOutcome_of_fault job hfault]
      refine ⟨hlines, ?_, rfl⟩
      rw [warned, Event.complaints_append, complaints_columnWarnings, htold]
      rfl
  | none =>
      rw [hfault] at hload
      obtain ⟨s', hclose, hs', -⟩ := ScriptFile.close_extends hlines.sound
      have hconclude : conclude ScriptFile.engine ended =
          ⟨.ok ended.summary, ended.events.reverse ++ [Script.closing s'.label s'.count] ++
            [closing ended.summary], ⟨s', .done⟩⟩ := by
        simp only [conclude, ScriptFile.engine, hclose]
      have hrun : job.run ScriptFile.engine session source.items =
          conclude ScriptFile.engine ended := runWith_of_through hopened hload
      simp only [run, loadSource]
      rw [hrun, hconclude, hsummary, scriptOutcome_of_sound job hfault]
      refine ⟨?_, ?_, rfl⟩
      · have hall := hlines.trans hs'
        rwa [List.append_nil] at hall
      · have hclosing : (closing (job.scriptSummary source.records)).isComplaint = false := by
          unfold closing
          split_ifs <;> rfl
        rw [warned, Event.complaints_append, complaints_columnWarnings, Event.complaints_append,
          Event.complaints_append, htold, Event.complaints_cons hclosing]
        simp [Event.complaints, Script.closing, Event.isComplaint]

end Job

end BulkLoad
