import BulkLoad.Proofs.Load.Calls
import Mathlib.Data.List.Basic

/-!
Loading what a source gives: records in order and, if its stream failed, a fault after them.

A limit cuts the records; the fault is met only if the limit is beyond them. Engines that answer
alike are loaded alike from the same source.
-/
namespace BulkLoad

variable {σ τ : Type}

namespace Items

variable {ε α : Type}

def ofRecords (rs : List α) (fault : Option ε) : List (Except ε α) :=
  rs.map .ok ++ (fault.map .error).toList

theorem ofRecords_none (rs : List α) : ofRecords rs (none : Option ε) = rs.map .ok :=
  List.append_nil _

theorem records_ofRecords (rs : List α) (fault : Option ε) : records (ofRecords rs fault) = rs := by
  induction rs with
  | nil => cases fault <;> rfl
  | cons r rest ih => exact congrArg (r :: ·) ih

theorem fault?_ofRecords (rs : List α) (fault : Option ε) :
    fault? (ofRecords rs fault) = fault := by
  induction rs with
  | nil => cases fault <;> rfl
  | cons r rest ih => exact ih

theorem take_ofRecords (rs : List α) (fault : Option ε) (n : Nat) :
    (ofRecords rs fault).take n =
      ofRecords (rs.take n) (if n ≤ rs.length then none else fault) := by
  unfold ofRecords
  rw [List.take_append, List.length_map, ← List.map_take]
  congr 1
  split_ifs with hn
  · rw [Nat.sub_eq_zero_of_le hn]
    rfl
  · have hlength : (fault.map (.error : ε → Except ε α)).toList.length ≤ n - rs.length := by
      have hone : (fault.map (.error : ε → Except ε α)).toList.length ≤ 1 := by
        cases fault <;> simp
      omega
    exact List.take_of_length_le hlength

end Items

namespace Job

/-- A limit that is not beyond the records keeps the fault out. -/
theorem limited_ofRecords (limit : Option Nat) (rs : List Record) (fault : Option SourceFault) :
    limited limit (Items.ofRecords rs fault) =
      Items.ofRecords (limited limit rs)
        (if limit.any (· ≤ rs.length) then none else fault) := by
  cases limit with
  | none => rfl
  | some n =>
      simp only [limited, Items.take_ofRecords, Option.any_some, decide_eq_true_eq]

/-- The loop over what a source gives: the records within the limit, and the fault if the limit is
beyond them. -/
theorem loadItems_source (job : Job) (engine : Engine σ) (p : Progress σ) (source : Source) :
    job.loadItems engine p (limited job.options.limit source.items) =
      (if job.options.limit.any (· ≤ source.records.length) then none else source.fault?,
        (limited job.options.limit source.records).foldl (job.loadRecord engine) p) := by
  have hitems : limited job.options.limit source.items = _ :=
    limited_ofRecords job.options.limit source.records source.fault?
  rw [loadItems_eq, hitems, Items.records_ofRecords, Items.fault?_ofRecords]

section Alike

variable (job : Job) {engine : Engine σ} {f : σ → τ} {other : Engine τ}

theorem foldl_loadRecord_map (hf : engine.Projects f other) (rs : List Record) (p : Progress σ) :
    (rs.foldl (job.loadRecord engine) p).map f = rs.foldl (job.loadRecord other) (p.map f) := by
  induction rs generalizing p with
  | nil => rfl
  | cons r rest ih => rw [List.foldl_cons, List.foldl_cons, ih, loadRecord_map job hf]

theorem run_map (hf : engine.Projects f other) (session : Session σ)
    (items : List (Except SourceFault Record)) :
    (job.run engine session items).map f = job.run other (session.map f) items := by
  apply runWith_map job hf
  intro created
  rw [loadItems_eq, loadItems_eq, foldl_loadRecord_map job hf, opened_map job hf]

theorem loadSource_map (hf : engine.Projects f other) (state : σ) (source : Source) :
    (job.loadSource engine state source).map f = job.loadSource other (f state) source := by
  have hrun := run_map job hf ⟨state, .schemaPending⟩ source.items
  unfold loadSource
  change job.warned source.info ((job.run engine ⟨state, .schemaPending⟩ source.items).map f) = _
  rw [hrun]
  rfl

end Alike

section Loaded

variable {job : Job} {engine : Engine σ} {session : Session σ}
  {load : Progress σ → Option SourceFault × Progress σ} {created : Bool} {p : Progress σ}

theorem runWith_of_stopped (h : (job.create engine session.engine).1 = .ok created)
    {fault : SourceFault}
    (hload : load (job.opened engine session.engine created) = (some fault, p)) :
    job.runWith engine session load =
      ⟨.error (.source fault), p.events.reverse, ⟨p.engine, .loadingRecords⟩⟩ := by
  rw [runWith_of_opened h, hload]
  rfl

theorem runWith_of_through (h : (job.create engine session.engine).1 = .ok created)
    (hload : load (job.opened engine session.engine created) = (none, p)) :
    job.runWith engine session load = conclude engine p := by
  rw [runWith_of_opened h, hload]
  rfl

end Loaded

section Watch

variable (job : Job) (engine : Engine σ)

theorem foldl_loadRecord_watched (rs : List Record) (p : Progress (Watched σ)) :
    (rs.foldl (job.loadRecord engine.watched) p).engine.calls =
      p.engine.calls ++ job.insertCalls rs := by
  induction rs generalizing p with
  | nil => exact (List.append_nil _).symm
  | cons r rest ih =>
      have happend := insertCalls_append job [r] rest
      rw [List.foldl_cons, ih, (loadRecord_watched job engine p r).1, List.append_assoc,
        ← happend]
      rfl

/-- A source under watch whose create step goes through: every record within the limit is sent if it
can be written, and the engine is told the end unless the fault of the source is met. -/
theorem loadSource_watched {state : σ} (h : job.isRefused engine state = false) (source : Source) :
    let run := job.loadSource engine.watched ⟨state, [], []⟩ source
    let full := job.options.limit.any (· ≤ source.records.length)
    let fault := if full then none else source.fault?
    run.session.engine.calls =
        job.createCalls ++ job.insertCalls (limited job.options.limit source.records) ++
          (if fault.isSome then [] else [.finish]) ∧
      ∀ met, fault = some met → run.outcome = .error (.source met) := by
  intro run full fault
  let session : Session (Watched σ) := ⟨⟨state, [], []⟩, .schemaPending⟩
  obtain ⟨created, hcreate⟩ := (isRefused_eq_false_iff job engine state).mp h
  have hopened : (job.create engine.watched session.engine).1 = .ok created :=
    (create_watched job engine ⟨state, .schemaPending⟩ []).trans hcreate
  let start := job.opened engine.watched session.engine created
  let sent := limited job.options.limit source.records
  let ended := sent.foldl (job.loadRecord engine.watched) start
  have hended : ended.engine.calls = job.createCalls ++ job.insertCalls sent := by
    have hstart : start.engine.calls = job.createCalls :=
      congrArg Watched.calls (begun_watched job engine state [])
    rw [foldl_loadRecord_watched, hstart]
  have hload : job.loadItems engine.watched start (limited job.options.limit source.items) =
      (fault, ended) := loadItems_source job engine.watched start source
  cases hfault : fault with
  | none =>
      rw [hfault] at hload
      have hrun : job.run engine.watched session source.items = conclude engine.watched ended :=
        runWith_of_through hopened hload
      have hcalls : run.session.engine.calls = ended.engine.calls ++ [.finish] := by
        change (job.run engine.watched session source.items).session.engine.calls = _
        rw [hrun, conclude_engine]
        rfl
      rw [hcalls, hended]
      exact ⟨rfl, fun _ hmet => by cases hmet⟩
  | some met =>
      rw [hfault] at hload
      have hrun : job.run engine.watched session source.items =
          ⟨.error (.source met), ended.events.reverse, ⟨ended.engine, .loadingRecords⟩⟩ :=
        runWith_of_stopped hopened hload
      have hcalls : run.session.engine.calls = ended.engine.calls := by
        change (job.run engine.watched session source.items).session.engine.calls = _
        rw [hrun]
      have houtcome : run.outcome = .error (.source met) := by
        change (job.run engine.watched session source.items).outcome = _
        rw [hrun]
      rw [hcalls, hended, houtcome]
      refine ⟨(List.append_nil _).symm, fun _ hmet => ?_⟩
      cases hmet
      rfl

end Watch

end Job

end BulkLoad
