import BulkLoad.Proofs.Load.Accounting
import Mathlib.Data.List.Basic

/-!
What a run tells about its records.

For each record there is one page: the query that was sent, if there was one, then what came of it,
and after every so many records the progress so far. The pages of a run follow from what became of
its records; how many failures the summary lists has no part in them.
-/
namespace BulkLoad

variable {σ : Type}

def RecordFailure.event (f : RecordFailure) : Event :=
  ⟨.warn, "record not loaded: " ++ f.message,
    [("record", .text f.label), ("kind", .text f.kind.name)]⟩

/-- A record is called by its key, or else by its line. -/
theorem RecordFailure.event_eq (f : RecordFailure) :
    f.event = ⟨.warn, "record not loaded: " ++ f.message,
      [("record", .text (match f.key with
          | some key => key
          | none => "line " ++ Decimal.text f.line)),
        ("kind", .text f.kind.name)]⟩ := by
  unfold event label
  cases f.key <;> rfl

namespace Summary

theorem list_counts (s : Summary) (room : Nat) (failure : RecordFailure) :
    (s.list room failure).total = s.total ∧ (s.list room failure).failed = s.failed := by
  unfold list
  split_ifs <;> exact ⟨rfl, rfl⟩

theorem countFailure_counts (s : Summary) (kind : FailureKind) :
    (s.countFailure kind).total = s.total ∧ (s.countFailure kind).failed = s.failed + 1 := by
  cases kind <;> simp only [countFailure, failed, true_and] <;> omega

theorem account_counts (s : Summary) (room : Nat) (outcome : Option RecordFailure) :
    (s.account room outcome).total = s.total ∧
      (s.account room outcome).failed = s.failed + if outcome.isNone then 0 else 1 := by
  cases outcome with
  | none => exact ⟨rfl, rfl⟩
  | some failure =>
      obtain ⟨htotal, hfailed⟩ := (s.countFailure failure.kind).list_counts room failure
      obtain ⟨htotal', hfailed'⟩ := s.countFailure_counts failure.kind
      exact ⟨htotal.trans htotal', hfailed.trans hfailed'⟩

end Summary

namespace Job

def sending (r : Record) (query : Query) : Event :=
  ⟨.debug, "insert", [("line", .number r.line), ("query", .text query.text)]⟩

def loaded (r : Record) (answer : Invocation) : Event :=
  ⟨.trace, "engine output",
    [("line", .number r.line), ("output", .text (Text.trimEnd answer.output))]⟩

def progress (total failed : Nat) : Event :=
  ⟨.info, "progress", [("total", .number total), ("failed", .number failed)]⟩

def insertOf? (job : Job) (r : Record) : Option Query :=
  (Query.insert job.target.schema job.target.name r).toOption

def createQueries (job : Job) : List Query :=
  if job.options.createTable then [job.createQuery] else []

def queries (job : Job) (rs : List Record) : List Query :=
  job.createQueries ++ rs.filterMap job.insertOf?

def verdict (job : Job) (r : Record) (fate : Fate) : Event :=
  match fate with
  | .rejected fault => (RecordFailure.mk r.line (job.keyOf r) (.ofFault fault) fault.message).event
  | .unlaunched fault => (RecordFailure.mk r.line (job.keyOf r) .engineLaunch fault.message).event
  | .ran answer =>
      if answer.succeeded then loaded r answer
      else (RecordFailure.mk r.line (job.keyOf r) .engineExecution answer.failureReason).event

def about (job : Job) (r : Record) (fate : Fate) : List Event :=
  (job.insertOf? r).toList.map (sending r) ++ [job.verdict r fate]

def milestone (total failed : Nat) : List Event :=
  if total % progressStep = 0 then [progress total failed] else []

/-- The pages about records that come after others, of which so many were failures. -/
def pagesAfter (job : Job) (total failed : Nat) : List (Record × Fate) → List (List Event)
  | [] => []
  | (r, fate) :: rest =>
      let failed := failed + if fate.isLoaded then 0 else 1
      (job.about r fate ++ milestone (total + 1) failed) ::
        job.pagesAfter (total + 1) failed rest

theorem tellProgress_events (p : Progress σ) :
    (tellProgress p).events.reverse =
      p.events.reverse ++ milestone p.summary.total p.summary.failed := by
  unfold tellProgress milestone
  split_ifs
  · exact List.reverse_cons
  · exact (List.append_nil _).symm

theorem settle_events (job : Job) (r : Record) (answer : Except EngineFault Invocation)
    (p : Progress σ) :
    (job.settle r answer p).events = job.verdict r (.ofAnswer answer) :: p.events := by
  cases answer with
  | error fault => rfl
  | ok i => cases h : i.succeeded <;> simp [settle, verdict, Fate.ofAnswer, h, fail, loaded,
      RecordFailure.event]

theorem send_events (job : Job) (engine : Engine σ) (r : Record) (p : Progress σ) :
    (job.send engine r p).events.reverse =
      p.events.reverse ++ job.about r (job.fate engine p.engine r).1 := by
  unfold send fate about insertOf?
  cases Query.insert job.target.schema job.target.name r with
  | error fault => exact List.reverse_cons
  | ok query =>
      dsimp only
      rw [settle_events, List.reverse_cons, List.reverse_cons, List.append_assoc]
      rfl

theorem loadRecord_events (job : Job) (engine : Engine σ) (p : Progress σ) (r : Record) :
    (job.loadRecord engine p r).events.reverse =
      p.events.reverse ++ (job.about r (job.fate engine p.engine r).1 ++
        milestone (job.loadRecord engine p r).summary.total
          (job.loadRecord engine p r).summary.failed) := by
  unfold loadRecord
  rw [tellProgress_events, send_events, tellProgress_summary, List.append_assoc]

/-- A record more is one in the total, and one among the failures if it was not loaded. -/
theorem loadRecord_counts (job : Job) (engine : Engine σ) (p : Progress σ) (r : Record) :
    (job.loadRecord engine p r).summary.total = p.summary.total + 1 ∧
      (job.loadRecord engine p r).summary.failed =
        p.summary.failed + if (job.fate engine p.engine r).1.isLoaded then 0 else 1 := by
  rw [loadRecord_summary, ← failure?_isNone job r]
  exact p.summary.countRecord.account_counts job.options.maxFailures _

/-- What a run tells about records that come after others. -/
theorem foldl_loadRecord_events (job : Job) (engine : Engine σ) (p : Progress σ)
    (rs : List Record) :
    (rs.foldl (job.loadRecord engine) p).events.reverse =
      p.events.reverse ++
        (job.pagesAfter p.summary.total p.summary.failed
          (job.fates engine p.engine rs)).flatten := by
  induction rs generalizing p with
  | nil => exact (List.append_nil _).symm
  | cons r rest ih =>
      obtain ⟨htotal, hfailed⟩ := job.loadRecord_counts engine p r
      rw [List.foldl_cons, ih, loadRecord_events, loadRecord_engine, htotal, hfailed, fates,
        pagesAfter, List.flatten_cons, List.append_assoc]

section Pages

variable (job : Job) (total failed : Nat) (fates : List (Record × Fate))

theorem length_pagesAfter : (job.pagesAfter total failed fates).length = fates.length := by
  induction fates generalizing total failed with
  | nil => rfl
  | cons x rest ih => exact congrArg (· + 1) (ih _ _)

/-- The page about the record that comes after `k` others of them. -/
theorem getElem?_pagesAfter (k : Nat) :
    (job.pagesAfter total failed fates)[k]? =
      fates[k]?.map fun x =>
        job.about x.1 x.2 ++
          milestone (total + k + 1) (failed + (fates.take (k + 1)).countP (!·.2.isLoaded)) := by
  -- The counts are general, as each page goes on with those of the page before it.
  induction fates generalizing total failed k with
  | nil => rfl
  | cons x rest ih =>
      obtain ⟨r, fate⟩ := x
      cases k with
      | zero => cases h : fate.isLoaded <;> simp [pagesAfter, h]
      | succ k =>
          have hcount : ((r, fate) :: rest).take (k + 2) = (r, fate) :: rest.take (k + 1) := rfl
          have htotal : total + 1 + k + 1 = total + (k + 1) + 1 := by omega
          have hfailed (more : Nat) : failed + (if fate.isLoaded then 0 else 1) + more =
              failed + (more + if (!fate.isLoaded) = true then 1 else 0) := by
            cases fate.isLoaded with
            | true => rfl
            | false =>
                simp only [Bool.false_eq_true, Bool.not_false, if_false, if_true]
                omega
          rw [pagesAfter, List.getElem?_cons_succ, List.getElem?_cons_succ, ih, hcount,
            List.countP_cons, htotal, hfailed]

/-- Messages of which those about failures are some, and nothing else on a page is one. -/
structure Marks (P : Event → Bool) : Prop where
  failure : ∀ failure : RecordFailure, P failure.event = true
  sending : ∀ r query, P (sending r query) = false
  loaded : ∀ r answer, P (loaded r answer) = false
  progress : ∀ total failed, P (progress total failed) = false

variable {P : Event → Bool}

theorem verdict_cases (r : Record) (fate : Fate) :
    (∃ failure, job.failure? r fate = some failure ∧ job.verdict r fate = failure.event) ∨
      ∃ answer, job.failure? r fate = none ∧ job.verdict r fate = loaded r answer := by
  cases fate with
  | rejected fault | unlaunched fault => exact .inl ⟨_, rfl, rfl⟩
  | ran answer =>
      cases h : answer.succeeded with
      | true => exact .inr ⟨answer, by simp [failure?, Fate.complaint?, h], if_pos h⟩
      | false =>
          exact .inl ⟨_, by simp [failure?, Fate.complaint?, h], if_neg (by simp [h])⟩

/-- What holds alike of the messages about failures and of those about records that were loaded. -/
theorem verdict_alike {α : Type} {f : Event → α} {a : α} (r : Record) (fate : Fate)
    (hfailure : ∀ failure : RecordFailure, f failure.event = a)
    (hloaded : ∀ r answer, f (loaded r answer) = a) : f (job.verdict r fate) = a := by
  rcases job.verdict_cases r fate with ⟨failure, -, htold⟩ | ⟨answer, -, htold⟩
  · exact htold ▸ hfailure failure
  · exact htold ▸ hloaded r answer

theorem filter_verdict (h : Marks P) (r : Record) (fate : Fate) :
    [job.verdict r fate].filter P = ((job.failure? r fate).map (·.event)).toList := by
  rcases job.verdict_cases r fate with ⟨failure, hfailure, htold⟩ | ⟨answer, hnone, htold⟩
  · rw [hfailure, htold]
    exact List.filter_cons_of_pos (h.failure failure)
  · rw [hnone, htold]
    exact List.filter_cons_of_neg (by simp [h.loaded])

theorem filter_about (h : Marks P) (r : Record) (fate : Fate) :
    (job.about r fate).filter P = ((job.failure? r fate).map (·.event)).toList := by
  rw [about, List.filter_append, filter_verdict job h]
  cases job.insertOf? r with
  | none => rfl
  | some query => exact congrArg (· ++ _) (List.filter_cons_of_neg (by simp [h.sending]))

theorem filter_milestone (h : Marks P) : (milestone total failed).filter P = [] := by
  unfold milestone
  split_ifs
  · exact List.filter_cons_of_neg (by simp [h.progress])
  · rfl

/-- The messages about failures on the pages are those of the failures, in order. -/
theorem filter_pagesAfter (h : Marks P) :
    (job.pagesAfter total failed fates).flatten.filter P =
      (fates.filterMap fun x => job.failure? x.1 x.2).map (·.event) := by
  induction fates generalizing total failed with
  | nil => rfl
  | cons x rest ih =>
      rw [pagesAfter, List.flatten_cons, List.filter_append, List.filter_append, ih,
        filter_about job h, filter_milestone _ _ h, List.append_nil]
      cases hfailure : job.failure? x.1 x.2 <;> simp [hfailure]

end Pages

end Job

/-! Each record that was not loaded is told in a message of its own, and no other message is of that
kind. So the messages of a run give back the failures in order, those past the room of the summary
included. -/

section Complaints

/-- Whether an event is about a record that was not loaded: it names the kind of the failure. -/
def Event.isComplaint (e : Event) : Bool := e.fields.any (·.1 == "kind")

def Event.complaints (events : List Event) : List Event := events.filter (·.isComplaint)

namespace Event

theorem complaints_append (front back : List Event) :
    complaints (front ++ back) = complaints front ++ complaints back :=
  List.filter_append front back

theorem complaints_cons {e : Event} (h : e.isComplaint = false) (events : List Event) :
    complaints (e :: events) = complaints events :=
  List.filter_cons_of_neg (by simp [h])

end Event

namespace Job

open Event

variable {σ : Type} (job : Job) (engine : Engine σ)

theorem marks_isComplaint : Marks (·.isComplaint) :=
  ⟨fun _ => rfl, fun _ _ => rfl, fun _ _ => rfl, fun _ _ => rfl⟩

/-- The records of a run are told in order, as far as they were not loaded. -/
theorem complaints_foldl (rs : List Record) (p : Progress σ) :
    complaints (rs.foldl (job.loadRecord engine) p).events.reverse =
      complaints p.events.reverse ++
        ((job.fates engine p.engine rs).filterMap fun x => job.failure? x.1 x.2).map (·.event) := by
  rw [foldl_loadRecord_events, complaints_append]
  exact congrArg _ (filter_pagesAfter job _ _ _ marks_isComplaint)

theorem complaints_opened (state : σ) (created : Bool) :
    complaints (job.opened engine state created).events.reverse = [] := by
  unfold opened create
  rw [List.reverse_reverse]
  split_ifs
  · rcases engine.invoke job.database job.createQuery state with ⟨fault | i, after⟩
    · rfl
    · dsimp only
      split_ifs <;> rfl
  · rfl

end Job

end Complaints

end BulkLoad
