import BulkLoad.Proofs.Load.Ends
import BulkLoad.Proofs.Load.FromSource

/-!
Loads in two runs.

Two runs of one session, one after the other, ask the engine what one run over all the records asks
it, if telling it the end in between makes no difference to its answers. The counts of the two add
up; of the failures that they list, only as many stay as one run has room for.
-/
namespace BulkLoad

variable {σ : Type}

def Call.isInvoke : Call → Bool
  | .invoke _ _ => true
  | .finish => false

namespace Engine

def after (engine : Engine σ) (state : σ) (calls : List Call) : σ :=
  calls.foldl (fun state call =>
    match call with
    | .invoke database query => (engine.invoke database query state).2
    | .finish => (engine.finish state).2) state

def answers (engine : Engine σ) : σ → List (String × Query) → List (Except EngineFault Invocation)
  | _, [] => []
  | state, (database, query) :: rest =>
      (engine.invoke database query state).1 ::
        answers engine (engine.invoke database query state).2 rest

/-- From a state on, the engine takes the end whenever it is told, and answers the queries after
that as if it had not been told. -/
structure Steady (engine : Engine σ) (start : σ) : Prop where
  ends : ∀ calls, (engine.finish (engine.after start calls)).1.isOk = true
  answers : ∀ calls queries,
    engine.answers (engine.finish (engine.after start calls)).2 queries =
      engine.answers (engine.after start calls) queries

theorem after_append (engine : Engine σ) (state : σ) (front back : List Call) :
    engine.after state (front ++ back) = engine.after (engine.after state front) back :=
  List.foldl_append

theorem after_finish (engine : Engine σ) (state : σ) (calls : List Call) :
    engine.after state (calls ++ [.finish]) = (engine.finish (engine.after state calls)).2 :=
  after_append engine state calls [.finish]

theorem Steady.finish {engine : Engine σ} {start : σ} (h : engine.Steady start)
    (calls : List Call) :
    ∃ told, engine.finish (engine.after start calls) =
      (.ok told, engine.after start (calls ++ [.finish])) := by
  have hends := h.ends calls
  rw [after_finish]
  cases hanswer : (engine.finish (engine.after start calls)).1 with
  | error fault =>
      rw [hanswer] at hends
      cases hends
  | ok told => exact ⟨told, Prod.ext hanswer rfl⟩

end Engine

namespace Job

/-- The queries that a run sends, as they are seen by watching it. -/
def invokes (job : Job) (engine : Engine σ) (session : Session σ)
    (items : List (Except SourceFault Record)) : List Call :=
  (job.watch engine session items).session.engine.calls.filter (·.isInvoke)

theorem passed_eq_after (job : Job) (engine : Engine σ) (state : σ) (rs : List Record) :
    job.passed engine state rs = engine.after state (job.insertCalls rs) := by
  induction rs generalizing state with
  | nil => rfl
  | cons r rest ih =>
      have hcalls : job.insertCalls (r :: rest) =
          job.insertCalls [r] ++ job.insertCalls rest := insertCalls_append job [r] rest
      have hstep : (job.fate engine state r).2 = engine.after state (job.insertCalls [r]) := by
        unfold fate
        cases hquery : Query.insert job.target.schema job.target.name r with
        | error fault => simp [insertCalls, hquery, Except.toOption, Engine.after]
        | ok query => simp [insertCalls, hquery, Except.toOption, Engine.after]
      rw [hcalls, Engine.after_append, ← hstep, ← ih]
      rfl

/-- What becomes of records depends on the engine's answers alone. -/
theorem fates_congr (job : Job) (engine : Engine σ) (rs : List Record) {state other : σ}
    (h : ∀ queries, engine.answers state queries = engine.answers other queries) :
    job.fates engine state rs = job.fates engine other rs := by
  induction rs generalizing state other with
  | nil => rfl
  | cons r rest ih =>
      unfold fates fate
      cases Query.insert job.target.schema job.target.name r with
      | error fault => simp only [ih h]
      | ok query =>
          have hstep (queries : List (String × Query)) :=
            List.cons.inj (h ((job.database, query) :: queries))
          simp only [(hstep []).1, ih fun queries => (hstep queries).2]

theorem filter_isInvoke_insertCalls (job : Job) (rs : List Record) :
    (job.insertCalls rs).filter (·.isInvoke) = job.insertCalls rs := by
  rw [List.filter_eq_self]
  intro call hcall
  obtain ⟨r, -, hr⟩ := List.mem_filterMap.mp hcall
  obtain ⟨query, -, rfl⟩ := Option.map_eq_some_iff.mp hr
  rfl

section Plain

variable (job : Job)

theorem limited_plain (hlimit : job.options.limit = none) (rs : List Record) :
    limited job.options.limit (rs.map .ok) = Items.ofRecords rs (none : Option SourceFault) := by
  rw [hlimit, Items.ofRecords_none]
  rfl

/-- A run without a create query and without a limit sends the queries of its records. -/
theorem invokes_plain (hcreate : job.options.createTable = false)
    (hlimit : job.options.limit = none) (engine : Engine σ) (session : Session σ)
    (rs : List Record) :
    job.invokes engine session (rs.map .ok) = job.insertCalls rs := by
  have hrefused : job.isRefused engine session.engine = false := by
    rw [isRefused, hcreate]
    rfl
  have hcalls : job.createCalls = [] := by simp [createCalls, hcreate]
  have hall : (Items.ofRecords rs (none : Option SourceFault)).all (·.isOk) = true :=
    (Items.all_isOk_iff _).mpr (Items.fault?_ofRecords rs none)
  rw [invokes, (watch_engine job engine session _).1, hrefused, limited_plain job hlimit, hall,
    hcalls, Items.records_ofRecords]
  simp only [Bool.false_eq_true, if_false, if_true, List.nil_append, List.filter_append,
    filter_isInvoke_insertCalls]
  exact List.append_nil _

/-- Such a run goes through if the engine takes the end. -/
theorem run_plain (hcreate : job.options.createTable = false)
    (hlimit : job.options.limit = none) (engine : Engine σ) (session : Session σ)
    {rs : List Record} {told : List Event} {after : σ}
    (hfinish : engine.finish (job.passed engine session.engine rs) = (.ok told, after)) :
    (job.run engine session (rs.map .ok)).outcome =
        .ok (job.summaryOf false (job.fates engine session.engine rs)) ∧
      (job.run engine session (rs.map .ok)).session = ⟨after, .done⟩ := by
  have hbegun : job.begun engine session.engine = session.engine := by simp [begun, hcreate]
  have hanswer : (job.create engine session.engine).1 = .ok false := by
    rw [create_answer, hcreate]
    rfl
  have hends := job.run_ends engine session (rs.map .ok)
  rw [limited_plain job hlimit] at hends
  generalize (job.run engine session (rs.map .ok)).outcome = outcome at hends ⊢
  generalize (job.run engine session (rs.map .ok)).session = ended at hends ⊢
  cases hends with
  | refused hrefused => cases hanswer.symm.trans hrefused
  | stopped _ hfault => cases (Items.fault?_ofRecords rs none).symm.trans hfault
  | unfinished _ _ hunfinished =>
      rw [hbegun, Items.records_ofRecords, hfinish] at hunfinished
      cases hunfinished
  | through hcreated _ hthrough =>
      cases hanswer.symm.trans hcreated
      rw [hbegun, Items.records_ofRecords] at hthrough ⊢
      cases hfinish.symm.trans hthrough
      exact ⟨rfl, rfl⟩

end Plain

end Job

namespace Summary

def join (a b : Summary) (room : Nat) : Summary :=
  let listed := a.failures ++ b.failures
  { total := a.total + b.total
    succeeded := a.succeeded + b.succeeded
    rejected := a.rejected + b.rejected
    launchFailures := a.launchFailures + b.launchFailures
    executionFailures := a.executionFailures + b.executionFailures
    tableCreated := a.tableCreated || b.tableCreated
    failures := listed.take room
    failuresOmitted := a.failuresOmitted + b.failuresOmitted + (listed.length - room) }

theorem take_append_take {α : Type} (n : Nat) (front back : List α) :
    (front.take n ++ back.take n).take n = (front ++ back).take n := by
  rw [List.take_append, List.take_append, List.take_take, List.take_take, List.length_take,
    Nat.min_self]
  congr 2
  omega

end Summary

namespace Job

theorem summaryOf_append (job : Job) (created : Bool) (front back : List (Record × Fate)) :
    job.summaryOf created (front ++ back) =
      (job.summaryOf created front).join (job.summaryOf created back)
        job.options.maxFailures := by
  simp only [summaryOf, Summary.join, List.filterMap_append, List.countP_append,
    List.length_append, List.length_take, Summary.take_append_take, Bool.or_self,
    Summary.mk.injEq, true_and]
  omega

/-- **A load can be split.** From an engine that takes the end and answers on as before, two runs
over records, one after the other, ask what one run over all of them asks; the watched runs are the
runs. Each count of the one run
is the sum of theirs; it lists the first of the failures that they list as far as there is room, and
leaves out what they left out and what has no room here. -/
theorem run_append (database : String) (target : Definition) (room : Nat) (engine : Engine σ)
    (session : Session σ) (xs ys : List Record) (hsteady : engine.Steady session.engine) :
    let job : Job := ⟨database, target, ⟨false, none, room⟩⟩
    let first := job.run engine session (xs.map .ok)
    let second := job.run engine first.session (ys.map .ok)
    let whole := job.run engine session ((xs ++ ys).map .ok)
    (∀ start items, (job.watch engine start items).map Watched.engine =
        job.run engine start items) ∧
      job.invokes engine session ((xs ++ ys).map .ok) =
        job.invokes engine session (xs.map .ok) ++
          job.invokes engine first.session (ys.map .ok) ∧
      ∃ a b, first.outcome = .ok a ∧ second.outcome = .ok b ∧
        whole.outcome = .ok (a.join b room) := by
  intro job first second whole
  have hpassed := passed_eq_after job engine
  obtain ⟨_, hend⟩ := hsteady.finish (job.insertCalls xs)
  rw [← hpassed] at hend
  obtain ⟨hfirst, hsession⟩ := run_plain job rfl rfl engine session hend
  -- The second run starts where the engine was told the end; a single run goes on without that.
  obtain ⟨between, hbetween⟩ :
      ∃ state, state = engine.after session.engine (job.insertCalls xs ++ [.finish]) := ⟨_, rfl⟩
  have hsession : first.session = ⟨between, .done⟩ := hbetween ▸ hsession
  have hfates : job.fates engine between ys =
      job.fates engine (job.passed engine session.engine xs) ys := by
    apply fates_congr
    intro queries
    rw [hpassed, hbetween, Engine.after_finish]
    exact hsteady.answers (job.insertCalls xs) queries
  obtain ⟨_, hend⟩ := hsteady.finish (job.insertCalls xs ++ [.finish] ++ job.insertCalls ys)
  rw [Engine.after_append, ← hpassed, ← hbetween] at hend
  obtain ⟨hsecond, -⟩ := run_plain job rfl rfl engine ⟨between, .done⟩ hend
  obtain ⟨_, hend⟩ := hsteady.finish (job.insertCalls (xs ++ ys))
  rw [← hpassed] at hend
  obtain ⟨hwhole, -⟩ := run_plain job rfl rfl engine session hend
  refine ⟨job.watch_map engine, ?_, _, job.summaryOf false (job.fates engine between ys), hfirst,
    ?_, hwhole.trans ?_⟩
  · rw [invokes_plain job rfl rfl, invokes_plain job rfl rfl, invokes_plain job rfl rfl,
      insertCalls_append]
  · simp only [second]
    rw [hsession]
    exact hsecond
  · rw [fates_append, summaryOf_append, hfates]

/-- An engine that does not take a query a second time. -/
def onceEngine : Engine (List Query) where
  invoke _ query taken :=
    (.ok (if taken.contains query then ⟨some 1, "", "duplicate\n", false⟩ else .ok ""),
      query :: taken)
  finish taken := (.ok [], taken)

/-- The same record twice, then a third time with one that has no query. -/
theorem run_append_of_repeats :
    let job : Job := ⟨"demo.db", sampleJob.target, ⟨false, none, 1⟩⟩
    let r : Record := ⟨2, [("k", "a"), ("b", "SI")]⟩
    let listed : RecordFailure := ⟨2, some "k=a", .engineExecution, "exit status 1: duplicate"⟩
    let first := job.run onceEngine ⟨[], .schemaPending⟩ ([r, r].map .ok)
    onceEngine.Steady [] ∧
      first.outcome = .ok ⟨2, 1, 0, 0, 1, false, [listed], 0⟩ ∧
      (job.run onceEngine first.session ([r, ⟨3, []⟩].map .ok)).outcome =
        .ok ⟨2, 0, 1, 0, 1, false, [listed], 1⟩ ∧
      (job.run onceEngine ⟨[], .schemaPending⟩ ([r, r, r, ⟨3, []⟩].map .ok)).outcome =
        .ok ⟨4, 1, 1, 0, 2, false, [listed], 2⟩ := by
  intro job r listed first
  have hsteady : onceEngine.Steady [] := ⟨fun _ => rfl, fun _ _ => rfl⟩
  have hfirst : first.outcome = .ok ⟨2, 1, 0, 0, 1, false, [listed], 0⟩ :=
    outcome_eq_ok (by decide +kernel)
  have hsecond : (job.run onceEngine first.session ([r, ⟨3, []⟩].map .ok)).outcome =
      .ok ⟨2, 0, 1, 0, 1, false, [listed], 1⟩ := outcome_eq_ok (by decide +kernel)
  obtain ⟨-, -, a, b, ha, hb, hwhole⟩ :=
    run_append "demo.db" sampleJob.target 1 onceEngine ⟨[], .schemaPending⟩ [r, r] [r, ⟨3, []⟩]
      hsteady
  cases hfirst.symm.trans ha
  cases hsecond.symm.trans hb
  exact ⟨hsteady, hfirst, hsecond, hwhole⟩

end Job

end BulkLoad
