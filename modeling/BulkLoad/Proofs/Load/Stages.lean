import BulkLoad.Proofs.Load.Calls
import BulkLoad.Proofs.Load.Ends

/-!
Sessions over any number of runs.

Only a run that cannot hand over its create query leaves a session where it stands, and then nothing
else was asked and no item taken; every other run moves it on. So a session is pending as long as
every run so far was of that kind, whatever the runs were about.
-/
namespace BulkLoad

variable {σ : Type}

def Run.WasRefused (run : Run σ) : Prop := ∃ fault, run.outcome = .error (.createTable fault)

namespace Job

def runs (job : Job) (engine : Engine σ) :
    Session σ → List (List (Except SourceFault Record)) → List (Run σ)
  | _, [] => []
  | session, items :: rest =>
      job.run engine session items :: runs job engine (job.run engine session items).session rest

def sessionAfter (job : Job) (engine : Engine σ) (session : Session σ)
    (history : List (List (Except SourceFault Record))) : Session σ :=
  history.foldl (fun session items => (job.run engine session items).session) session

theorem pending_of_run_iff (job : Job) (engine : Engine σ) (session : Session σ)
    (items : List (Except SourceFault Record)) :
    (job.run engine session items).session.stage = .schemaPending ↔
      session.stage = .schemaPending ∧ (job.run engine session items).WasRefused := by
  have hends := job.run_ends engine session items
  unfold Run.WasRefused
  generalize (job.run engine session items).outcome = outcome at hends ⊢
  generalize (job.run engine session items).session = after at hends ⊢
  cases hends <;> simp

theorem pending_of_runs_iff (job : Job) (engine : Engine σ) (session : Session σ)
    (history : List (List (Except SourceFault Record))) :
    (job.sessionAfter engine session history).stage = .schemaPending ↔
      session.stage = .schemaPending ∧ ∀ run ∈ job.runs engine session history, run.WasRefused := by
  -- By induction on the runs; the session is general, as each run starts where the last one ended.
  induction history generalizing session with
  | nil => simp [sessionAfter, runs]
  | cons items rest ih =>
      have hrest := ih (job.run engine session items).session
      rw [pending_of_run_iff, and_assoc] at hrest
      rw [runs, List.forall_mem_cons]
      exact hrest

/-- What a run asks after the step that creates the table: nothing, unless that step is through. -/
theorem calls_after_create (job : Job) (engine : Engine σ) (session : Session σ)
    (items : List (Except SourceFault Record)) :
    ∃ sent, (job.watch engine session items).session.engine.calls = job.createCalls ++ sent ∧
      (sent = [] ∨ ∃ created, (job.create engine session.engine).1 = .ok created) := by
  obtain ⟨hcalls, -⟩ := job.watch_engine engine session items
  refine ⟨_, hcalls, ?_⟩
  cases hrefused : job.isRefused engine session.engine with
  | true => exact .inl (if_pos rfl)
  | false => exact .inr ((isRefused_eq_false_iff job engine session.engine).mp hrefused)

theorem watch_of_isRefused {job : Job} {engine : Engine σ} {session : Session σ}
    (items : List (Except SourceFault Record)) (h : job.isRefused engine session.engine = true) :
    (job.watch engine session items).session.engine.calls =
        [.invoke job.database job.createQuery] ∧
      (job.watch engine session items).session.engine.waiting = items := by
  obtain ⟨hcalls, hwaiting⟩ := job.watch_engine engine session items
  rw [h] at hcalls hwaiting
  have hcreate : job.options.createTable = true := (Bool.and_eq_true_iff.mp h).1
  rw [if_pos rfl, List.append_nil, createCalls, if_pos hcreate] at hcalls
  exact ⟨hcalls, hwaiting⟩

/-- **Where a session stands.** A new session is pending, and stays so exactly as long as every run
fails to hand over its create query. Wherever runs have brought it, one more run is done when it
succeeds, with a summary of its own records only; a fault of the source or of the engine's end
leaves it loading; a create query that cannot be handed over leaves it as it was, with no item taken
and nothing else asked; and there is no other fault. What a run asks beyond its create query it asks
when that step is through or left out. -/
theorem stages_of_runs (job : Job) (engine : Engine σ) (state : σ)
    (history : List (List (Except SourceFault Record))) :
    let start : Session σ := ⟨state, .schemaPending⟩
    let before := job.sessionAfter engine start history
    (before.stage = .schemaPending ↔ ∀ run ∈ job.runs engine start history, run.WasRefused) ∧
      ∀ items,
        let reach := limited job.options.limit items
        let rs := Items.records reach
        let run := job.run engine before items
        let watched := job.watch engine before items
        let asked := watched.session.engine
        watched.map Watched.engine = run ∧
          (∃ sent, asked.calls = job.createCalls ++ sent ∧
            (sent = [] ∨ ∃ created, (job.create engine before.engine).1 = .ok created)) ∧
          match run.outcome with
          | .ok s =>
              run.session.stage = .done ∧ reach = rs.map .ok ∧ s.total = rs.length ∧
                ∃ created, s = job.summaryOf created
                  (job.fates engine (job.begun engine before.engine) rs)
          | .error (.createTable _) =>
              run.session.stage = before.stage ∧
                asked.calls = [.invoke job.database job.createQuery] ∧ asked.waiting = items
          | .error (.source _) | .error (.engine _) => run.session.stage = .loadingRecords
          | .error _ => False := by
  intro start before
  refine ⟨(job.pending_of_runs_iff engine start history).trans (and_iff_right rfl), ?_⟩
  intro items reach rs run watched asked
  refine ⟨job.watch_map engine before items, job.calls_after_create engine before items, ?_⟩
  have hends : job.Ends engine before reach run.outcome run.session :=
    job.run_ends engine before items
  have hrefused := job.isRefused_iff engine before.engine
  generalize run.outcome = outcome at hends ⊢
  generalize run.session = after at hends ⊢
  cases hends with
  | refused hcreate => exact ⟨rfl, watch_of_isRefused items (hrefused.mpr ⟨_, hcreate⟩)⟩
  | stopped _ _ => rfl
  | unfinished _ _ _ => rfl
  | through hcreate hsound _ =>
      exact ⟨rfl, Items.eq_map_records hsound, length_fates job engine _ rs, _, rfl⟩

end Job

end BulkLoad
