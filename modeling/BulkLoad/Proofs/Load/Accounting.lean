import BulkLoad.Proofs.Load.Course
import Mathlib.Data.List.Basic

/-!
The accounts of a run: every record is counted once, under what became of it, and the first failures
are listed as far as there is room.

One record changes the summary by what came of it; a fold over the records adds these changes up,
whatever the room for failures.
-/
namespace BulkLoad

namespace Summary

/-- The summary with the records counted under what came of each: the report of its failure, or
nothing when it was loaded. -/
def tally (s : Summary) (room : Nat) (outcomes : List (Option RecordFailure)) : Summary :=
  let failures := outcomes.filterMap id
  { total := s.total + outcomes.length
    succeeded := s.succeeded + outcomes.countP (·.isNone)
    rejected := s.rejected + failures.countP (·.kind.isRejection)
    launchFailures := s.launchFailures + failures.countP (·.kind == .engineLaunch)
    executionFailures := s.executionFailures + failures.countP (·.kind == .engineExecution)
    tableCreated := s.tableCreated
    failures := s.failures ++ failures.take (room - s.failures.length)
    failuresOmitted := s.failuresOmitted + (failures.length - (room - s.failures.length)) }

theorem countFailure_eq (s : Summary) (kind : FailureKind) :
    s.countFailure kind =
      { s with
        rejected := s.rejected + if kind.isRejection then 1 else 0
        launchFailures := s.launchFailures + if kind == .engineLaunch then 1 else 0
        executionFailures := s.executionFailures + if kind == .engineExecution then 1 else 0 } := by
  cases kind <;> rfl

theorem append_take_cons {α : Type} (kept : List α) (room : Nat) (x : α) (rest : List α) :
    kept ++ (x :: rest).take (room - kept.length) =
      if kept.length < room then kept ++ [x] ++ rest.take (room - (kept ++ [x]).length)
      else kept ++ rest.take (room - kept.length) := by
  split
  · rename_i h
    obtain ⟨left, hleft⟩ := Nat.exists_eq_add_of_lt h
    have hnow : room - kept.length = left + 1 := by omega
    have hthen : room - (kept ++ [x]).length = left := by
      rw [List.length_append, List.length_singleton]
      omega
    rw [hnow, hthen, List.take_succ_cons, List.append_assoc, List.singleton_append]
  · rename_i h
    have hfull : room - kept.length = 0 := by omega
    rw [hfull, List.take_zero, List.take_zero]

theorem tally_nil (s : Summary) (room : Nat) : s.tally room [] = s := by
  simp [tally]

theorem tally_cons_none (s : Summary) (room : Nat) (rest : List (Option RecordFailure)) :
    s.tally room (none :: rest) = s.countRecord.countSuccess.tally room rest := by
  simp [tally, countRecord, countSuccess, Nat.add_assoc, Nat.add_comm 1]

theorem tally_cons_some (s : Summary) (room : Nat) (failure : RecordFailure)
    (rest : List (Option RecordFailure)) :
    s.tally room (some failure :: rest) =
      (s.countRecord.addFailure room failure).tally room rest := by
  have hmap : (some failure :: rest).filterMap id = failure :: rest.filterMap id := rfl
  have hlist := append_take_cons s.failures room failure (rest.filterMap id)
  by_cases hroom : s.failures.length < room
  · rw [if_pos hroom] at hlist
    simp only [tally, hmap, hlist, addFailure, countFailure_eq, list, countRecord, hroom, if_true,
      List.countP_cons, List.length_cons, Option.isNone_some, Bool.false_eq_true, if_false,
      Summary.mk.injEq, List.length_append, List.length_nil]
    refine ⟨?_, rfl, ?_, ?_, ?_, trivial, trivial, ?_⟩ <;> omega
  · rw [if_neg hroom] at hlist
    simp only [tally, hmap, hlist, addFailure, countFailure_eq, list, countRecord, hroom, if_false,
      List.countP_cons, List.length_cons, Option.isNone_some, Bool.false_eq_true,
      Summary.mk.injEq]
    refine ⟨?_, rfl, ?_, ?_, ?_, trivial, trivial, ?_⟩ <;> omega

theorem tally_cons (s : Summary) (room : Nat) (outcome : Option RecordFailure)
    (rest : List (Option RecordFailure)) :
    s.tally room (outcome :: rest) = (s.countRecord.account room outcome).tally room rest := by
  cases outcome with
  | none => exact tally_cons_none s room rest
  | some failure => exact tally_cons_some s room failure rest

theorem foldl_account (s : Summary) (room : Nat) (outcomes : List (Option RecordFailure)) :
    outcomes.foldl (fun s outcome => s.countRecord.account room outcome) s =
      s.tally room outcomes := by
  induction outcomes generalizing s with
  | nil => exact (tally_nil s room).symm
  | cons outcome rest ih => rw [List.foldl_cons, ih, tally_cons]

theorem countP_kinds (failures : List RecordFailure) :
    failures.countP (·.kind.isRejection) + failures.countP (·.kind == .engineLaunch) +
        failures.countP (·.kind == .engineExecution) = failures.length := by
  induction failures with
  | nil => rfl
  | cons failure rest ih =>
      have hone : ∀ kind : FailureKind,
          (if kind.isRejection then 1 else 0) + (if kind == .engineLaunch then 1 else 0) +
            (if kind == .engineExecution then 1 else 0) = 1 := by
        intro kind
        cases kind <;> rfl
      have hhere := hone failure.kind
      simp only [List.countP_cons, List.length_cons]
      omega

theorem countP_isNone_add_length (outcomes : List (Option RecordFailure)) :
    outcomes.countP (·.isNone) + (outcomes.filterMap id).length = outcomes.length := by
  induction outcomes with
  | nil => rfl
  | cons outcome rest ih =>
      cases outcome with
      | none =>
          have hmap : (none :: rest).filterMap id = rest.filterMap id := rfl
          simp only [hmap, List.countP_cons, List.length_cons, Option.isNone_none, if_true]
          omega
      | some failure =>
          have hmap : (some failure :: rest).filterMap id = failure :: rest.filterMap id := rfl
          simp only [hmap, List.countP_cons, List.length_cons, Option.isNone_some,
            Bool.false_eq_true, if_false]
          omega

theorem failed_tally_start (created : Bool) (room : Nat)
    (outcomes : List (Option RecordFailure)) :
    ((start created).tally room outcomes).failed = (outcomes.filterMap id).length := by
  have h := countP_kinds (outcomes.filterMap id)
  simp only [failed, tally, start, Nat.zero_add]
  exact h

end Summary

namespace Job

variable {σ : Type}

theorem failure?_isRejection (job : Job) (r : Record) (fate : Fate) :
    ((job.failure? r fate).map (·.kind.isRejection)).getD false = fate.isRejected := by
  cases fate with
  | rejected fault => cases fault <;> rfl
  | unlaunched fault => rfl
  | ran answer =>
      cases h : answer.succeeded <;>
        simp [failure?, Fate.complaint?, h, FailureKind.isRejection, Fate.isRejected]

theorem failure?_engineLaunch (job : Job) (r : Record) (fate : Fate) :
    ((job.failure? r fate).map (·.kind == .engineLaunch)).getD false = fate.isUnlaunched := by
  cases fate with
  | rejected fault => cases fault <;> rfl
  | unlaunched fault => rfl
  | ran answer =>
      cases h : answer.succeeded <;> simp [failure?, Fate.complaint?, h, Fate.isUnlaunched]

theorem failure?_engineExecution (job : Job) (r : Record) (fate : Fate) :
    ((job.failure? r fate).map (·.kind == .engineExecution)).getD false = fate.isFailedRun := by
  cases fate with
  | rejected fault => cases fault <;> rfl
  | unlaunched fault => rfl
  | ran answer =>
      rw [Fate.isFailedRun_ran]
      cases h : answer.succeeded <;> simp [failure?, Fate.complaint?, h]

theorem failure?_isNone (job : Job) (r : Record) (fate : Fate) :
    (job.failure? r fate).isNone = fate.isLoaded := by
  rw [Bool.eq_iff_iff, Fate.isLoaded_iff, Option.isNone_iff_eq_none]
  exact Option.map_eq_none_iff

/-- The key of a record is the value with which it fills the first unique column. -/
theorem keyOf_eq_some_iff (job : Job) (r : Record) (key : String) :
    job.keyOf r = some key ↔
      ∃ column value, job.target.schema.dataColumns.find? (·.isUnique) = some column ∧
        r.get? column.name = some value ∧ value ≠ "" ∧ key = column.name ++ "=" ++ value := by
  unfold keyOf Schema.key?
  cases job.target.schema.dataColumns.find? (·.isUnique) with
  | none => simp
  | some column =>
      cases hv : r.get? column.name with
      | none => simp [hv]
      | some value =>
          by_cases he : value = ""
          · subst he
            simp [hv]
          · have hne : value.isEmpty = false := by simpa using he
            simp only [hv, hne, Bool.false_eq_true, if_false, Option.some.injEq]
            constructor
            · rintro rfl
              exact ⟨column, value, rfl, hv, he, rfl⟩
            · rintro ⟨_, _, rfl, hv', -, rfl⟩
              rw [hv, Option.some.injEq] at hv'
              rw [hv']

/-- A run that succeeds got past the create query and met no fault; its summary is that of its
records. -/
theorem summary_of_run {job : Job} {engine : Engine σ} {session : Session σ}
    {items : List (Except SourceFault Record)} {s : Summary}
    (h : (job.run engine session items).outcome = .ok s) :
    let reach := limited job.options.limit items
    ∃ created, (job.create engine session.engine).1 = .ok created ∧
      Items.fault? reach = none ∧
      s = (Summary.start created).tally job.options.maxFailures
        ((job.fates engine (job.begun engine session.engine) (Items.records reach)).map
          fun x => job.failure? x.1 x.2) := by
  intro reach
  cases hc : (job.create engine session.engine).1 with
  | error fault =>
      unfold run at h
      rw [runWith_of_refused hc] at h
      cases h
  | ok created =>
      unfold run at h
      rw [runWith_of_opened hc, loadItems_eq] at h
      cases hf : Items.fault? reach with
      | some fault =>
          simp only [reach] at hf
          simp only [hf] at h
          cases h
      | none =>
          simp only [reach] at hf
          simp only [hf] at h
          refine ⟨created, rfl, rfl, ?_⟩
          rw [conclude_outcome h, foldl_loadRecord_summary, Summary.foldl_account]
          rfl

theorem tally_fates (job : Job) (created : Bool) (fates : List (Record × Fate)) :
    (Summary.start created).tally job.options.maxFailures
        (fates.map fun x => job.failure? x.1 x.2) =
      let failures := fates.filterMap fun x => job.failure? x.1 x.2
      { total := fates.length
        succeeded := fates.countP (·.2.isLoaded)
        rejected := fates.countP (·.2.isRejected)
        launchFailures := fates.countP (·.2.isUnlaunched)
        executionFailures := fates.countP (·.2.isFailedRun)
        tableCreated := created
        failures := failures.take job.options.maxFailures
        failuresOmitted := failures.length - job.options.maxFailures } := by
  have hmap : (fates.map fun x => job.failure? x.1 x.2).filterMap id =
      fates.filterMap fun x => job.failure? x.1 x.2 := List.filterMap_map
  simp only [Summary.tally, Summary.start, hmap, List.countP_filterMap, List.countP_map,
    failure?_isRejection, failure?_engineLaunch, failure?_engineExecution, Function.comp_def,
    failure?_isNone, List.length_map, List.length_nil, Nat.zero_add, Nat.sub_zero,
    List.nil_append]

theorem created_iff {job : Job} {engine : Engine σ} {state : σ} {created : Bool}
    (h : (job.create engine state).1 = .ok created) :
    created = true ↔
      job.options.createTable = true ∧
        ∃ answer, (engine.invoke job.database job.createQuery state).1 = .ok answer ∧
          answer.succeeded = true := by
  rw [create_answer] at h
  cases hopt : job.options.createTable with
  | false =>
      rw [hopt] at h
      cases h
      simp
  | true =>
      rw [hopt, if_pos rfl] at h
      cases hanswer : (engine.invoke job.database job.createQuery state).1 with
      | error fault =>
          rw [hanswer] at h
          cases h
      | ok answer =>
          rw [hanswer] at h
          cases h
          simp

/-- **The accounts of a run that succeeds.** Every record within the limit is counted once, under
what became of it. The summary lists the first failures as far as there is room and counts the rest,
and says whether the create query was sent and did what it should. -/
theorem accounts_of_run (job : Job) (engine : Engine σ) (session : Session σ)
    (items : List (Except SourceFault Record)) (s : Summary)
    (h : (job.run engine session items).outcome = .ok s) :
    let rs := Items.records (limited job.options.limit items)
    let fates := job.fates engine (job.begun engine session.engine) rs
    let failures := fates.filterMap fun x => job.failure? x.1 x.2
    limited job.options.limit items = rs.map .ok ∧
      s.total = rs.length ∧
      s.total = min (job.options.limit.getD items.length) items.length ∧
      s.rejected = fates.countP (·.2.isRejected) ∧
      s.launchFailures = fates.countP (·.2.isUnlaunched) ∧
      s.executionFailures = fates.countP (·.2.isFailedRun) ∧
      s.succeeded = fates.countP (·.2.isLoaded) ∧
      s.total = s.succeeded + s.rejected + s.launchFailures + s.executionFailures ∧
      (s.isClean = true ↔ ∀ x ∈ fates, x.2.isLoaded = true) ∧
      failures.length = s.failed ∧
      s.failures = failures.take (min job.options.maxFailures s.failed) ∧
      s.failures.length + s.failuresOmitted = s.failed ∧
      (s.tableCreated = true ↔
        job.options.createTable = true ∧
          ∃ answer, (engine.invoke job.database job.createQuery session.engine).1 = .ok answer ∧
            answer.succeeded = true) ∧
      ∀ r key, job.keyOf r = some key ↔
        ∃ column value, job.target.schema.dataColumns.find? (·.isUnique) = some column ∧
          r.get? column.name = some value ∧ value ≠ "" ∧ key = column.name ++ "=" ++ value := by
  intro rs fates failures
  obtain ⟨created, hc, hf, hs⟩ := summary_of_run h
  have hreach : limited job.options.limit items = rs.map .ok := Items.eq_map_records hf
  have hlength : fates.length = rs.length := by
    simpa using congrArg List.length (map_fst_fates job engine (job.begun engine session.engine) rs)
  have hfailed : s.failed = failures.length := by
    rw [hs, Summary.failed_tally_start, List.filterMap_map]
    rfl
  have hsum := Summary.countP_isNone_add_length (fates.map fun x => job.failure? x.1 x.2)
  simp only [List.countP_map, List.filterMap_map, List.length_map, Function.comp_def,
    failure?_isNone, id] at hsum
  change fates.countP (·.2.isLoaded) + failures.length = fates.length at hsum
  change s = (Summary.start created).tally job.options.maxFailures
    (fates.map fun x => job.failure? x.1 x.2) at hs
  rw [tally_fates] at hs
  have htotal : s.total = rs.length := by rw [hs, ← hlength]
  have hloaded : s.succeeded = fates.countP (·.2.isLoaded) := by rw [hs]
  have hboth : s.succeeded + s.failed = s.total := by
    rw [hloaded, hfailed, htotal, ← hlength]
    exact hsum
  refine ⟨hreach, htotal, ?_, by rw [hs], by rw [hs], by rw [hs], hloaded, ?_, ?_,
    hfailed.symm, ?_, ?_, ?_, keyOf_eq_some_iff job⟩
  · rw [htotal, ← length_limited, hreach, List.length_map]
  · simp only [← hboth, Summary.failed, Nat.add_assoc]
  · rw [Summary.isClean, beq_iff_eq, ← List.countP_eq_length, ← hloaded, hlength, ← htotal,
      ← hboth]
    exact Nat.left_eq_add.symm
  · rw [hfailed, ← List.take_eq_take_min, hs]
  · rw [hfailed, hs]
    change (failures.take job.options.maxFailures).length +
      (failures.length - job.options.maxFailures) = failures.length
    rw [List.length_take]
    omega
  · have htable : s.tableCreated = created := by rw [hs]
    rw [htable]
    exact created_iff hc

def sampleJob : Job :=
  ⟨"demo.db", ⟨"t", ⟨[⟨"k", .char 8, false, true⟩, .plain "b" .bool], by decide⟩, by decide⟩,
    ⟨true, none, 1⟩⟩

/-- An engine whose second query is ended by a signal. -/
def sampleEngine : Engine Nat where
  invoke _ _ n := (.ok (if n = 1 then ⟨none, "", "no\n", false⟩ else .ok ""), n + 1)
  finish n := (.ok [], n)

def sampleItems : List (Except SourceFault Record) :=
  [.ok ⟨2, [("k", "a"), ("b", "SI")]⟩, .ok ⟨3, [("k", ""), ("b", "")]⟩,
    .ok ⟨4, [("b", "NO"), ("k", "\n")]⟩]

theorem accounts_of_sample :
    let s : Summary :=
      ⟨3, 1, 1, 0, 1, true, [⟨2, some "k=a", .engineExecution, "terminated by signal: no"⟩], 1⟩
    (sampleJob.run sampleEngine ⟨0, .schemaPending⟩ sampleItems).outcome = .ok s ∧
      s.total = s.succeeded + s.rejected + s.launchFailures + s.executionFailures ∧
      s.failures.length + s.failuresOmitted = s.failed ∧
      sampleJob.keyOf ⟨2, [("k", "a"), ("b", "SI")]⟩ = some "k=a" := by
  intro s
  have hrun : (sampleJob.run sampleEngine ⟨0, .schemaPending⟩ sampleItems).outcome = .ok s :=
    outcome_eq_ok (by decide +kernel)
  obtain ⟨-, -, -, -, -, -, -, hsum, -, -, -, hlisted, -, hkey⟩ :=
    accounts_of_run sampleJob sampleEngine ⟨0, .schemaPending⟩ sampleItems s hrun
  exact ⟨hrun, hsum, hlisted, (hkey _ _).mpr ⟨_, _, rfl, rfl, by decide, rfl⟩⟩

end Job

end BulkLoad
