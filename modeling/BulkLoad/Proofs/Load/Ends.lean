import BulkLoad.Proofs.Load.Accounting

/-!
How a run ends.

There are four ways: the create query cannot be handed over, there is a fault among the items, the
engine refuses the end, or the run goes through. Each way says what comes of the run and where its
session stands afterwards, so that what holds of every run is shown of these four.
-/
namespace BulkLoad

variable {σ : Type}

namespace Job

def passed (job : Job) (engine : Engine σ) (state : σ) (rs : List Record) : σ :=
  rs.foldl (fun state r => (job.fate engine state r).2) state

def summaryOf (job : Job) (created : Bool) (fates : List (Record × Fate)) : Summary :=
  let failures := fates.filterMap fun x => job.failure? x.1 x.2
  { total := fates.length
    succeeded := fates.countP (·.2.isLoaded)
    rejected := fates.countP (·.2.isRejected)
    launchFailures := fates.countP (·.2.isUnlaunched)
    executionFailures := fates.countP (·.2.isFailedRun)
    tableCreated := created
    failures := failures.take job.options.maxFailures
    failuresOmitted := failures.length - job.options.maxFailures }

inductive Ends (job : Job) (engine : Engine σ) (session : Session σ)
    (items : List (Except SourceFault Record)) : Except LoadFault Summary → Session σ → Prop
  | refused {fault : EngineFault}
      (hcreate : (job.create engine session.engine).1 = .error fault) :
      Ends job engine session items (.error (.createTable fault))
        ⟨job.begun engine session.engine, session.stage⟩
  | stopped {created : Bool} {fault : SourceFault}
      (hcreate : (job.create engine session.engine).1 = .ok created)
      (hfault : Items.fault? items = some fault) :
      Ends job engine session items (.error (.source fault))
        ⟨job.passed engine (job.begun engine session.engine) (Items.records items),
          .loadingRecords⟩
  | unfinished {created : Bool} {fault : EngineFault} {after : σ}
      (hcreate : (job.create engine session.engine).1 = .ok created)
      (hsound : Items.fault? items = none)
      (hfinish : engine.finish
        (job.passed engine (job.begun engine session.engine) (Items.records items)) =
          (.error fault, after)) :
      Ends job engine session items (.error (.engine fault)) ⟨after, .loadingRecords⟩
  | through {created : Bool} {told : List Event} {after : σ}
      (hcreate : (job.create engine session.engine).1 = .ok created)
      (hsound : Items.fault? items = none)
      (hfinish : engine.finish
        (job.passed engine (job.begun engine session.engine) (Items.records items)) =
          (.ok told, after)) :
      Ends job engine session items
        (.ok (job.summaryOf created
          (job.fates engine (job.begun engine session.engine) (Items.records items))))
        ⟨after, .done⟩

theorem foldl_loadRecord_engine (job : Job) (engine : Engine σ) (p : Progress σ)
    (rs : List Record) :
    (rs.foldl (job.loadRecord engine) p).engine = job.passed engine p.engine rs := by
  induction rs generalizing p with
  | nil => rfl
  | cons r rest ih =>
      rw [List.foldl_cons, ih, loadRecord_engine]
      rfl

theorem fates_append (job : Job) (engine : Engine σ) (state : σ) (rs ss : List Record) :
    job.fates engine state (rs ++ ss) =
      job.fates engine state rs ++ job.fates engine (job.passed engine state rs) ss := by
  induction rs generalizing state with
  | nil => rfl
  | cons r rest ih =>
      rw [List.cons_append, fates, ih]
      rfl

theorem length_fates (job : Job) (engine : Engine σ) (state : σ) (rs : List Record) :
    (job.fates engine state rs).length = rs.length := by
  rw [← List.length_map Prod.fst, map_fst_fates]

/-- Where a run stands when its records are through. -/
theorem foldl_opened (job : Job) (engine : Engine σ) (state : σ) (created : Bool)
    (rs : List Record) :
    let p := rs.foldl (job.loadRecord engine) (job.opened engine state created)
    p.engine = job.passed engine (job.begun engine state) rs ∧
      p.summary = job.summaryOf created (job.fates engine (job.begun engine state) rs) := by
  refine ⟨foldl_loadRecord_engine job engine _ rs, ?_⟩
  rw [foldl_loadRecord_summary, Summary.foldl_account]
  exact tally_fates job created _

theorem ended_ends (job : Job) (engine : Engine σ) (session : Session σ) {created : Bool}
    (hcreate : (job.create engine session.engine).1 = .ok created)
    (items : List (Except SourceFault Record)) :
    let run :=
      ended engine (job.loadItems engine (job.opened engine session.engine created) items)
    job.Ends engine session items run.outcome run.session := by
  intro run
  obtain ⟨hstate, hsummary⟩ :=
    job.foldl_opened engine session.engine created (Items.records items)
  change job.Ends engine session items (ended engine _).outcome (ended engine _).session
  rw [loadItems_eq]
  cases hfault : Items.fault? items with
  | some fault =>
      simp only [ended, hstate]
      exact .stopped hcreate hfault
  | none =>
      simp only [ended, conclude, hstate, hsummary]
      rcases hfinish : engine.finish
          (job.passed engine (job.begun engine session.engine) (Items.records items)) with
        ⟨fault | told, after⟩
      · exact .unfinished hcreate hfault hfinish
      · exact .through hcreate hfault hfinish

/-- A run whose records are loaded as the loop over a list of items does ends in one of the four
ways. -/
theorem runWith_ends (job : Job) (engine : Engine σ) (session : Session σ)
    {load : Progress σ → Option SourceFault × Progress σ}
    {items : List (Except SourceFault Record)}
    (hload : ∀ created, load (job.opened engine session.engine created) =
      job.loadItems engine (job.opened engine session.engine created) items) :
    job.Ends engine session items (job.runWith engine session load).outcome
      (job.runWith engine session load).session := by
  cases hcreate : (job.create engine session.engine).1 with
  | error fault =>
      rw [runWith_of_refused hcreate]
      exact .refused hcreate
  | ok created =>
      rw [runWith_of_opened hcreate, hload]
      exact ended_ends job engine session hcreate items

theorem run_ends (job : Job) (engine : Engine σ) (session : Session σ)
    (items : List (Except SourceFault Record)) :
    job.Ends engine session (limited job.options.limit items)
      (job.run engine session items).outcome (job.run engine session items).session :=
  runWith_ends job engine session fun _ => rfl

end Job

end BulkLoad
