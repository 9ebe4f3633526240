import BulkLoad.Proofs.Load.Rounds

/-!
What arrives of an input that is read while its records are sent.

Each block is read in the state that the records before it left, and none once the limit is reached.
The relation says this without a count of reads; a load that waits long enough sees what it says.
-/
namespace BulkLoad.Job

variable [Encoding.EastAsian.Decoders] {σ : Type}

/-- The records that arrive of a source, as far as so many are let through, and the fault that ends
them if one does. -/
inductive Arrives (job : Job) (engine : Engine σ) (read : σ → Nat → Stream.Answer) :
    Option Nat → OpenSource → σ → List Record → Option SourceFault → Prop
  | enough {n : Nat} {source : OpenSource} {state : σ} (h : n ≤ source.records.length) :
      Arrives job engine read (some n) source state (source.records.take n) none
  | ended {left : Option Nat} {source : OpenSource} {state : σ}
      (hmore : ∀ n ∈ left, source.records.length < n) (h : source.intake.inflow = .ended) :
      Arrives job engine read left source state source.records none
  | failed {left : Option Nat} {source : OpenSource} {state : σ} {message : String}
      (hmore : ∀ n ∈ left, source.records.length < n)
      (h : source.intake.inflow = .failed message) :
      Arrives job engine read left source state source.records (some (.unreadable 0 message))
  | block {left : Option Nat} {source : OpenSource} {state : σ} {rs : List Record}
      {fault : Option SourceFault} (hmore : ∀ n ∈ left, source.records.length < n)
      (h : source.intake.inflow = .running)
      (hlater : Arrives job engine read (left.map (· - source.records.length))
        (source.advance
          (read (job.passed engine state source.records) source.intake.position))
        (job.passed engine state source.records) rs fault) :
      Arrives job engine read left source state (source.records ++ rs) fault

variable {job : Job} {engine : Engine σ} {read : σ → Nat → Stream.Answer} {left : Option Nat}
  {source : OpenSource} {state : σ}

theorem isOver_of_enough {n : Nat} (h : n ≤ source.records.length) :
    isOver (some n) source = true := by
  have hlength : source.records.length = source.rows.length := List.length_map _
  simp [isOver, Nat.sub_eq_zero_of_le (hlength ▸ h)]

theorem isOver_of_more (hmore : ∀ n ∈ left, source.records.length < n) :
    isOver left source = !source.intake.isRunning := by
  have hlength : source.records.length = source.rows.length := List.length_map _
  cases left with
  | none => simp [isOver]
  | some n =>
      have hn : source.rows.length < n := hlength ▸ hmore n rfl
      have hne : n - source.rows.length ≠ 0 := by omega
      simp [isOver, hne]

/-- The items that are there, when more are let through. -/
theorem limited_of_more (hmore : ∀ n ∈ left, source.records.length < n) :
    limited left source.records = source.records ∧ limited left source.items = source.items := by
  cases left with
  | none => exact ⟨rfl, rfl⟩
  | some n =>
      have hn : source.records.length < n := hmore n rfl
      refine ⟨List.take_of_length_le (Nat.le_of_lt hn), List.take_of_length_le ?_⟩
      rw [← OpenSource.items_soFar, Source.items, List.length_append, List.length_map]
      have hrecords : source.soFar.records.length = source.records.length := rfl
      cases source.soFar.fault? <;> simp <;> omega

theorem items_of_failure (source : OpenSource) :
    source.items = Items.ofRecords source.records (Source.faultOf source.intake.failure?) := by
  rw [← OpenSource.items_soFar]
  rfl

theorem enough_or_more (left : Option Nat) (source : OpenSource) :
    (∃ n, left = some n ∧ n ≤ source.records.length) ∨
      ∀ n ∈ left, source.records.length < n := by
  cases left with
  | none => exact .inr fun n hn => by cases hn
  | some n =>
      rcases Nat.lt_or_ge source.records.length n with hn | hn
      · exact .inr fun m hm => by cases hm; exact hn
      · exact .inl ⟨n, rfl, hn⟩

theorem arriving_of_enough {n : Nat} (h : n ≤ source.records.length) (reads : Nat) :
    job.arriving engine read reads (some n) source state =
      some (Items.ofRecords (source.records.take n) none) := by
  rw [arriving_of_over (isOver_of_enough h), items_of_failure, limited, Items.take_ofRecords,
    if_pos h]

theorem arriving_of_settled (hmore : ∀ n ∈ left, source.records.length < n)
    (h : source.intake.isRunning = false) (reads : Nat) :
    job.arriving engine read reads left source state =
      some (Items.ofRecords source.records (Source.faultOf source.intake.failure?)) := by
  have hover : isOver left source = true := by
    rw [isOver_of_more hmore, h]
    rfl
  rw [arriving_of_over hover, (limited_of_more hmore).2, items_of_failure]

theorem arriving_of_block (hmore : ∀ n ∈ left, source.records.length < n)
    (h : source.intake.isRunning = true) (reads : Nat) :
    job.arriving engine read (reads + 1) left source state =
      (job.arriving engine read reads (left.map (· - source.records.length))
        (source.advance
          (read (job.passed engine state source.records) source.intake.position))
        (job.passed engine state source.records)).map (source.records.map .ok ++ ·) := by
  have hover : isOver left source = false := by
    rw [isOver_of_more hmore, h]
    rfl
  rw [arriving_step hover, (limited_of_more hmore).1]

theorem arrives_of_arriving {reads : Nat} {items : List (Except SourceFault Record)}
    (h : job.arriving engine read reads left source state = some items) :
    ∃ rs fault, items = Items.ofRecords rs fault ∧
      job.Arrives engine read left source state rs fault := by
  have hnow (reads : Nat) {left : Option Nat} {source : OpenSource} {state : σ}
      {items : List (Except SourceFault Record)}
      (hover : isOver left source = true)
      (h : job.arriving engine read reads left source state = some items) :
      ∃ rs fault, items = Items.ofRecords rs fault ∧
        job.Arrives engine read left source state rs fault := by
    rcases enough_or_more left source with ⟨n, rfl, hn⟩ | hmore
    · rw [arriving_of_enough hn, Option.some.injEq] at h
      exact ⟨_, _, h.symm, .enough hn⟩
    · have hsettled : source.intake.isRunning = false := by
        rw [isOver_of_more hmore, Bool.not_eq_true'] at hover
        exact hover
      rw [arriving_of_settled hmore hsettled, Option.some.injEq] at h
      refine ⟨_, _, h.symm, ?_⟩
      unfold Intake.isRunning at hsettled
      unfold Intake.failure?
      cases hflow : source.intake.inflow with
      | running =>
          rw [hflow] at hsettled
          cases hsettled
      | ended => exact .ended hmore hflow
      | failed message => exact .failed hmore hflow
  induction reads generalizing left source state items with
  | zero =>
      cases hover : isOver left source with
      | true => exact hnow 0 hover h
      | false =>
          rw [arriving_zero hover] at h
          cases h
  | succ reads ih =>
      cases hover : isOver left source with
      | true => exact hnow _ hover h
      | false =>
          rcases enough_or_more left source with ⟨n, rfl, hn⟩ | hmore
          · rw [isOver_of_enough hn] at hover
            cases hover
          · have hrunning := running_of_not_over hover
            rw [arriving_of_block hmore hrunning] at h
            obtain ⟨later, hlater, rfl⟩ := Option.map_eq_some_iff.mp h
            obtain ⟨rs, fault, rfl, hrest⟩ := ih hlater
            refine ⟨source.records ++ rs, fault, ?_,
              .block hmore ((Intake.isRunning_iff _).mp hrunning) hrest⟩
            rw [Items.ofRecords, Items.ofRecords, List.map_append, List.append_assoc]

theorem Arrives.arriving {rs : List Record} {fault : Option SourceFault}
    (h : job.Arrives engine read left source state rs fault) :
    ∃ reads, job.arriving engine read reads left source state =
      some (Items.ofRecords rs fault) := by
  induction h with
  | enough h => exact ⟨0, arriving_of_enough h 0⟩
  | @ended left source state hmore h =>
      have hsettled : source.intake.isRunning = false := by
        unfold Intake.isRunning
        rw [h]
      refine ⟨0, (arriving_of_settled hmore hsettled 0).trans ?_⟩
      unfold Intake.failure?
      rw [h]
      rfl
  | @failed left source state message hmore h =>
      have hsettled : source.intake.isRunning = false := by
        unfold Intake.isRunning
        rw [h]
      refine ⟨0, (arriving_of_settled hmore hsettled 0).trans ?_⟩
      unfold Intake.failure?
      rw [h]
      rfl
  | @block left source state rs fault hmore h _ ih =>
      obtain ⟨reads, hreads⟩ := ih
      refine ⟨reads + 1, ?_⟩
      rw [arriving_of_block hmore ((Intake.isRunning_iff _).mpr h), hreads, Option.map_some,
        Items.ofRecords, Items.ofRecords, List.map_append, List.append_assoc]

theorem loadOpen_of_arrives {created : Bool} {rs : List Record} {fault : Option SourceFault}
    (hcreate : (job.create engine state).1 = .ok created)
    (h : job.Arrives engine read job.options.limit source (job.begun engine state) rs fault) :
    ∃ reads run, job.loadOpen engine state read reads source = some run ∧
      job.Ends engine ⟨state, .schemaPending⟩ (Items.ofRecords rs fault) run.outcome
        run.session := by
  obtain ⟨reads, hreads⟩ := h.arriving
  have hrun : job.loadOpen engine state read reads source = _ := loadOpen_of_opened hcreate
  rw [hreads, Option.map_some] at hrun
  exact ⟨reads, _, hrun, ended_ends job engine ⟨state, .schemaPending⟩ hcreate _⟩

section Ends

omit [Encoding.EastAsian.Decoders]

variable {session : Session σ} {outcome : Except LoadFault Summary} {ended : Session σ}
  {created : Bool} {rs : List Record}

theorem Ends.of_fault {fault : SourceFault}
    (h : job.Ends engine session (Items.ofRecords rs (some fault)) outcome ended)
    (hcreate : (job.create engine session.engine).1 = .ok created) :
    outcome = .error (.source fault) ∧
      ended.engine = job.passed engine (job.begun engine session.engine) rs := by
  have hfault : Items.fault? (Items.ofRecords rs (some fault)) = some fault :=
    Items.fault?_ofRecords rs (some fault)
  have hrecords := Items.records_ofRecords rs (some fault)
  cases h with
  | refused h => cases hcreate.symm.trans h
  | stopped _ h =>
      cases hfault.symm.trans h
      exact ⟨rfl, by rw [hrecords]⟩
  | unfinished _ h _ | through _ h _ => cases hfault.symm.trans h

/-- A run whose records are through ends as the engine takes the end. -/
theorem Ends.of_sound
    (h : job.Ends engine session (Items.ofRecords rs none) outcome ended)
    (hcreate : (job.create engine session.engine).1 = .ok created) :
    let finished := engine.finish (job.passed engine (job.begun engine session.engine) rs)
    ended.engine = finished.2 ∧
      (∀ fault, finished.1 = .error fault → outcome = .error (.engine fault)) ∧
      ∀ told, finished.1 = .ok told → outcome = .ok (job.summaryOf created
        (job.fates engine (job.begun engine session.engine) rs)) := by
  intro finished
  have hfault : Items.fault? (Items.ofRecords rs (none : Option SourceFault)) = none :=
    Items.fault?_ofRecords rs none
  have hrecords := Items.records_ofRecords rs (none : Option SourceFault)
  cases h with
  | refused h => cases hcreate.symm.trans h
  | stopped _ h => cases hfault.symm.trans h
  | unfinished _ _ h =>
      rw [hrecords] at h
      simp [finished, h]
  | through hopens _ h =>
      cases hcreate.symm.trans hopens
      rw [hrecords] at h
      simp [finished, h, hrecords]

end Ends

end BulkLoad.Job
