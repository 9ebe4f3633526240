import BulkLoad.Load.Run

/-!
What becomes of the records of a run.

The loop over the items is a fold over the records before the first fault. The fate of a record
depends on its query and on the engine's answer alone: the counts, the list of failures and the
events of the run have no part in it, and the fate is all that the counts and the list depend on.
-/
namespace BulkLoad

namespace Items

variable {ε α : Type}

def records : List (Except ε α) → List α
  | .ok r :: rest => r :: records rest
  | _ => []

def fault? : List (Except ε α) → Option ε
  | [] => none
  | .error fault :: _ => some fault
  | .ok _ :: rest => fault? rest

theorem eq_map_records {items : List (Except ε α)} (h : fault? items = none) :
    items = (records items).map .ok := by
  induction items with
  | nil => rfl
  | cons item rest ih =>
      cases item with
      | error fault => cases h
      | ok r => simpa only [records, List.map_cons, List.cons.injEq, true_and] using ih h

theorem all_isOk_iff (items : List (Except ε α)) :
    items.all (·.isOk) = true ↔ fault? items = none := by
  induction items with
  | nil => simp [fault?]
  | cons item rest ih =>
      cases item with
      | error fault => simp [fault?, Except.isOk, Except.toBool]
      | ok r => simpa [fault?, Except.isOk, Except.toBool] using ih

end Items

inductive Fate where
  | rejected (fault : QueryFault)
  | unlaunched (fault : EngineFault)
  | ran (answer : Invocation)
  deriving DecidableEq, Repr

namespace Fate

def ofAnswer : Except EngineFault Invocation → Fate
  | .error fault => .unlaunched fault
  | .ok answer => .ran answer

def isRejected : Fate → Bool
  | .rejected _ => true
  | _ => false

def isUnlaunched : Fate → Bool
  | .unlaunched _ => true
  | _ => false

/-- Whether the engine ran the query and ended with another exit status than zero, or with the mark
of a failure in what it printed. -/
def isFailedRun : Fate → Bool
  | .ran answer => answer.exitCode != some 0 || answer.flagged
  | _ => false

def isLoaded (fate : Fate) : Bool :=
  !fate.isRejected && !fate.isUnlaunched && !fate.isFailedRun

def complaint? : Fate → Option (FailureKind × String)
  | .rejected fault => some (.ofFault fault, fault.message)
  | .unlaunched fault => some (.engineLaunch, fault.message)
  | .ran answer =>
      if answer.succeeded then none else some (.engineExecution, answer.failureReason)

theorem isFailedRun_ran (answer : Invocation) :
    isFailedRun (.ran answer) = !answer.succeeded := by
  simp [isFailedRun, Invocation.succeeded, bne]

theorem isLoaded_iff (fate : Fate) : fate.isLoaded = true ↔ fate.complaint? = none := by
  cases fate with
  | rejected fault | unlaunched fault =>
      simp [isLoaded, isRejected, isUnlaunched, complaint?]
  | ran answer =>
      cases h : answer.succeeded <;>
        simp [isLoaded, isRejected, isUnlaunched, isFailedRun_ran, complaint?, h]

end Fate

namespace Job

variable {σ : Type}

def fate (job : Job) (engine : Engine σ) (state : σ) (r : Record) : Fate × σ :=
  match Query.insert job.target.schema job.target.name r with
  | .error fault => (.rejected fault, state)
  | .ok query =>
      let (answer, state) := engine.invoke job.database query state
      (.ofAnswer answer, state)

def fates (job : Job) (engine : Engine σ) : σ → List Record → List (Record × Fate)
  | _, [] => []
  | state, r :: rest =>
      (r, (job.fate engine state r).1) :: job.fates engine (job.fate engine state r).2 rest

def failure? (job : Job) (r : Record) (fate : Fate) : Option RecordFailure :=
  fate.complaint?.map fun complaint => ⟨r.line, job.keyOf r, complaint.1, complaint.2⟩

theorem map_fst_fates (job : Job) (engine : Engine σ) (state : σ) (rs : List Record) :
    (job.fates engine state rs).map Prod.fst = rs := by
  induction rs generalizing state with
  | nil => rfl
  | cons r rest ih => simp [fates, ih]

theorem loadItems_eq (job : Job) (engine : Engine σ) (p : Progress σ)
    (items : List (Except SourceFault Record)) :
    job.loadItems engine p items =
      (Items.fault? items, (Items.records items).foldl (job.loadRecord engine) p) := by
  induction items generalizing p with
  | nil => rfl
  | cons item rest ih =>
      cases item with
      | error fault => rfl
      | ok r => exact ih (job.loadRecord engine p r)

@[simp] theorem tellProgress_engine (p : Progress σ) : (tellProgress p).engine = p.engine := by
  unfold tellProgress
  split <;> rfl

@[simp] theorem tellProgress_summary (p : Progress σ) :
    (tellProgress p).summary = p.summary := by
  unfold tellProgress
  split <;> rfl

theorem settle_engine (job : Job) (r : Record) (answer : Except EngineFault Invocation)
    (p : Progress σ) : (job.settle r answer p).engine = p.engine := by
  cases answer with
  | error fault => rfl
  | ok i =>
      unfold settle
      dsimp only
      split <;> rfl

theorem loadRecord_engine (job : Job) (engine : Engine σ) (p : Progress σ) (r : Record) :
    (job.loadRecord engine p r).engine = (job.fate engine p.engine r).2 := by
  simp only [loadRecord, tellProgress_engine, send, fate]
  cases Query.insert job.target.schema job.target.name r with
  | error fault => rfl
  | ok query => exact settle_engine job r _ _

end Job

namespace Summary

/-- The summary with what came of the record that was counted last: the report of its failure, or
nothing when it was loaded. -/
def account (s : Summary) (room : Nat) : Option RecordFailure → Summary
  | none => s.countSuccess
  | some failure => s.addFailure room failure

end Summary

namespace Job

variable {σ : Type}

theorem settle_summary (job : Job) (r : Record) (answer : Except EngineFault Invocation)
    (p : Progress σ) :
    (job.settle r answer p).summary =
      p.summary.account job.options.maxFailures (job.failure? r (.ofAnswer answer)) := by
  cases answer with
  | error fault => rfl
  | ok i =>
      cases h : i.succeeded <;>
        simp [settle, fail, failure?, Fate.ofAnswer, Fate.complaint?, Summary.account, h]

theorem loadRecord_summary (job : Job) (engine : Engine σ) (p : Progress σ) (r : Record) :
    (job.loadRecord engine p r).summary =
      p.summary.countRecord.account job.options.maxFailures
        (job.failure? r (job.fate engine p.engine r).1) := by
  simp only [loadRecord, tellProgress_summary, send, fate]
  cases Query.insert job.target.schema job.target.name r with
  | error fault => rfl
  | ok query => exact settle_summary job r _ _

/-- The summary of a run over records is settled by their fates. -/
theorem foldl_loadRecord_summary (job : Job) (engine : Engine σ) (p : Progress σ)
    (rs : List Record) :
    (rs.foldl (job.loadRecord engine) p).summary =
      ((job.fates engine p.engine rs).map fun x => job.failure? x.1 x.2).foldl
        (fun s failure => s.countRecord.account job.options.maxFailures failure) p.summary := by
  induction rs generalizing p with
  | nil => rfl
  | cons r rest ih =>
      simp only [List.foldl_cons, ih, loadRecord_engine, loadRecord_summary, fates,
        List.map_cons]

end Job

end BulkLoad
