import BulkLoad.Proofs.Load.Fate

/-!
The course of a run: the step that creates the table, the records, the end.

A run that cannot hand over its create query stops there; any other run goes through its records,
and ends with the fault of the source or with the engine's answer to the end. Two engines that
answer alike, where the state of one can be read off that of the other, give the same run.
-/
namespace BulkLoad

variable {σ τ : Type}

namespace Job

def begun (job : Job) (engine : Engine σ) (state : σ) : σ :=
  if job.options.createTable then (engine.invoke job.database job.createQuery state).2 else state

def isRefused (job : Job) (engine : Engine σ) (state : σ) : Bool :=
  job.options.createTable && !(engine.invoke job.database job.createQuery state).1.isOk

def opened (job : Job) (engine : Engine σ) (state : σ) (created : Bool) : Progress σ :=
  ⟨job.begun engine state, .start created,
    ((job.create engine state).2.1 ++
      [Event.info ("📥 Loading records into '" ++ job.target.name ++ "' (" ++ job.database ++
        ")...")]).reverse⟩

theorem create_answer (job : Job) (engine : Engine σ) (state : σ) :
    (job.create engine state).1 =
      if job.options.createTable then
        (engine.invoke job.database job.createQuery state).1.map (·.succeeded)
      else .ok false := by
  unfold create
  split
  · rcases engine.invoke job.database job.createQuery state with ⟨fault | i, after⟩ <;> rfl
  · rfl

theorem create_state (job : Job) (engine : Engine σ) (state : σ) :
    (job.create engine state).2.2 = job.begun engine state := by
  unfold create begun
  split
  · rcases engine.invoke job.database job.createQuery state with ⟨fault | i, after⟩ <;> rfl
  · rfl

theorem isRefused_iff (job : Job) (engine : Engine σ) (state : σ) :
    job.isRefused engine state = true ↔ ∃ fault, (job.create engine state).1 = .error fault := by
  rw [create_answer, isRefused]
  cases job.options.createTable with
  | false => simp
  | true =>
      cases (engine.invoke job.database job.createQuery state).1 <;>
        simp [Except.map, Except.isOk, Except.toBool]

theorem isRefused_eq_false_iff (job : Job) (engine : Engine σ) (state : σ) :
    job.isRefused engine state = false ↔ ∃ created, (job.create engine state).1 = .ok created := by
  rw [← Bool.not_eq_true, isRefused_iff]
  cases (job.create engine state).1 <;> simp

theorem length_limited {α : Type} (limit : Option Nat) (items : List α) :
    (limited limit items).length = min (limit.getD items.length) items.length := by
  cases limit <;> simp [limited]

theorem limited_map {α β : Type} (f : α → β) (limit : Option Nat) (xs : List α) :
    limited limit (xs.map f) = (limited limit xs).map f := by
  cases limit with
  | none => rfl
  | some n => exact List.map_take.symm

theorem limited_append {α : Type} (limit : Option Nat) (front back : List α) :
    limited limit (front ++ back) =
      limited limit front ++ limited (limit.map (· - front.length)) back := by
  cases limit with
  | none => rfl
  | some n => exact List.take_append

variable {job : Job} {engine : Engine σ} {session : Session σ}
  {load : Progress σ → Option SourceFault × Progress σ}

theorem begin?_of_refused {fault : EngineFault}
    (h : (job.create engine session.engine).1 = .error fault) :
    job.begin? engine session =
      .error ⟨.error (.createTable fault), (job.create engine session.engine).2.1,
        ⟨job.begun engine session.engine, session.stage⟩⟩ := by
  rw [← create_state]
  unfold begin?
  rcases hc : job.create engine session.engine with ⟨fault' | created, told, state⟩
  · obtain rfl : fault' = fault := by simpa [hc] using h
    rfl
  · simp [hc] at h

theorem begin?_of_opened {created : Bool}
    (h : (job.create engine session.engine).1 = .ok created) :
    job.begin? engine session = .ok (job.opened engine session.engine created) := by
  unfold begin? opened
  rw [← create_state]
  rcases hc : job.create engine session.engine with ⟨fault | created', told, state⟩
  · simp [hc] at h
  · obtain rfl : created' = created := by simpa [hc] using h
    rfl

theorem runWith_of_refused {fault : EngineFault}
    (h : (job.create engine session.engine).1 = .error fault) :
    job.runWith engine session load =
      ⟨.error (.createTable fault), (job.create engine session.engine).2.1,
        ⟨job.begun engine session.engine, session.stage⟩⟩ := by
  rw [runWith, begin?_of_refused h]

theorem runWith_of_opened {created : Bool}
    (h : (job.create engine session.engine).1 = .ok created) :
    job.runWith engine session load =
      ended engine (load (job.opened engine session.engine created)) := by
  rw [runWith, begin?_of_opened h]

theorem conclude_engine (engine : Engine σ) (p : Progress σ) :
    (conclude engine p).session.engine = (engine.finish p.engine).2 := by
  unfold conclude
  rcases engine.finish p.engine with ⟨fault | told, state⟩ <;> rfl

theorem conclude_outcome {engine : Engine σ} {p : Progress σ} {s : Summary}
    (h : (conclude engine p).outcome = .ok s) : s = p.summary := by
  unfold conclude at h
  rcases hf : engine.finish p.engine with ⟨fault | told, state⟩
  · simp [hf] at h
  · simpa [hf] using h.symm

theorem outcome_eq_ok {outcome : Except LoadFault Summary} {s : Summary}
    (h : outcome.toOption = some s) : outcome = .ok s := by
  cases outcome with
  | error fault => cases h
  | ok s' => cases h; rfl

theorem runWith_engine (created : Bool)
    (h : (job.create engine session.engine).1 = .ok created) :
    (job.runWith engine session load).session.engine =
      let ended := load (job.opened engine session.engine created)
      if ended.1.isSome then ended.2.engine else (engine.finish ended.2.engine).2 := by
  rw [runWith_of_opened h]
  rcases load (job.opened engine session.engine created) with ⟨_ | fault, p⟩
  · exact conclude_engine engine p
  · rfl

end Job

def Progress.map (f : σ → τ) (p : Progress σ) : Progress τ := ⟨f p.engine, p.summary, p.events⟩

def Session.map (f : σ → τ) (s : Session σ) : Session τ := ⟨f s.engine, s.stage⟩

def Run.map (f : σ → τ) (r : Run σ) : Run τ := ⟨r.outcome, r.events, r.session.map f⟩

/-- `f` reads the state of another engine off the state of an engine that answers alike. -/
structure Engine.Projects (engine : Engine σ) (f : σ → τ) (other : Engine τ) : Prop where
  invoke : ∀ database query state,
    other.invoke database query (f state) =
      ((engine.invoke database query state).1, f (engine.invoke database query state).2)
  finish : ∀ state, other.finish (f state) = ((engine.finish state).1, f (engine.finish state).2)

namespace Job

variable (job : Job) {engine : Engine σ} {f : σ → τ} {other : Engine τ}

theorem settle_map (r : Record) (answer : Except EngineFault Invocation)
    (p : Progress σ) (f : σ → τ) :
    (job.settle r answer p).map f = job.settle r answer (p.map f) := by
  cases answer with
  | error fault => rfl
  | ok i =>
      unfold settle
      dsimp only
      split <;> rfl

theorem tellProgress_map (p : Progress σ) (f : σ → τ) :
    (tellProgress p).map f = tellProgress (p.map f) := by
  unfold tellProgress
  by_cases h : p.summary.total % progressStep = 0
  · rw [if_pos h, if_pos (show (p.map f).summary.total % progressStep = 0 from h)]
    rfl
  · rw [if_neg h, if_neg (show ¬ (p.map f).summary.total % progressStep = 0 from h)]

theorem send_map (hf : engine.Projects f other) (r : Record) (p : Progress σ) :
    (job.send engine r p).map f = job.send other r (p.map f) := by
  unfold send
  cases Query.insert job.target.schema job.target.name r with
  | error fault => rfl
  | ok query =>
      have hanswer := hf.invoke job.database query p.engine
      simp only [Progress.map, hanswer]
      exact settle_map job r _ _ f

theorem loadRecord_map (hf : engine.Projects f other) (p : Progress σ) (r : Record) :
    (job.loadRecord engine p r).map f = job.loadRecord other (p.map f) r := by
  unfold loadRecord
  rw [tellProgress_map, send_map job hf]
  rfl

theorem create_map (hf : engine.Projects f other) (state : σ) :
    job.create other (f state) =
      ((job.create engine state).1, (job.create engine state).2.1,
        f (job.create engine state).2.2) := by
  unfold create
  split
  · simp only [hf.invoke]
    rcases engine.invoke job.database job.createQuery state with ⟨fault | i, after⟩ <;> rfl
  · rfl

theorem opened_map (hf : engine.Projects f other) (state : σ) (created : Bool) :
    (job.opened engine state created).map f = job.opened other (f state) created := by
  simp only [opened, Progress.map, ← create_state, create_map job hf]

theorem conclude_map (hf : engine.Projects f other) (p : Progress σ) :
    (conclude engine p).map f = conclude other (p.map f) := by
  unfold conclude
  simp only [Progress.map, hf.finish]
  rcases engine.finish p.engine with ⟨fault | told, state⟩ <;> rfl

/-- Engines that answer alike give the same run, if their records are loaded alike. -/
theorem runWith_map (hf : engine.Projects f other) {session : Session σ}
    {load : Progress σ → Option SourceFault × Progress σ}
    {load' : Progress τ → Option SourceFault × Progress τ}
    (hload : ∀ created,
      load' (job.opened other (f session.engine) created) =
        ((load (job.opened engine session.engine created)).1,
          (load (job.opened engine session.engine created)).2.map f)) :
    (job.runWith engine session load).map f = job.runWith other (session.map f) load' := by
  have hcreate := create_map job hf session.engine
  cases hc : (job.create engine session.engine).1 with
  | error fault =>
      have hc' : (job.create other (session.map f).engine).1 = .error fault := by
        simp only [Session.map, hcreate, hc]
      rw [runWith_of_refused hc, runWith_of_refused hc']
      simp only [Run.map, Session.map, ← create_state, hcreate]
  | ok created =>
      have hc' : (job.create other (session.map f).engine).1 = .ok created := by
        simp only [Session.map, hcreate, hc]
      rw [runWith_of_opened hc, runWith_of_opened hc']
      simp only [Session.map, hload]
      rcases load (job.opened engine session.engine created) with ⟨_ | fault, p⟩
      · exact conclude_map hf p
      · rfl

end Job

end BulkLoad
