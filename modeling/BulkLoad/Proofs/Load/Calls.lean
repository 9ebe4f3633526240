import BulkLoad.Proofs.Load.Course

/-!
What a run asks of its engine and of its input.

The run is watched: its engine notes what it is asked, and its input gives one item at a time and
keeps those that nobody asked for. Watching changes nothing in the run. What is asked follows from
the items and from whether the engine takes the create query; no other answer has a part in it.
-/
namespace BulkLoad

variable {σ τ : Type}

inductive Call where
  | invoke (database : String) (query : Query)
  | finish
  deriving DecidableEq, Repr

/-- An engine and an input under watch: the engine's state, what the engine was asked, in order, and
the items that were not taken from the input. -/
structure Watched (σ : Type) where
  engine : σ
  calls : List Call
  waiting : List (Except SourceFault Record)

namespace Watched

def next (w : Watched σ) : Option (Except SourceFault Record) × Watched σ :=
  match w.waiting with
  | [] => (none, w)
  | item :: rest => (some item, { w with waiting := rest })

end Watched

def Session.watched (session : Session σ) (items : List (Except SourceFault Record)) :
    Session (Watched σ) :=
  ⟨⟨session.engine, [], items⟩, session.stage⟩

def Engine.watched (engine : Engine σ) : Engine (Watched σ) where
  invoke database query w :=
    let (answer, state) := engine.invoke database query w.engine
    (answer, { w with engine := state, calls := w.calls ++ [.invoke database query] })
  finish w :=
    let (answer, state) := engine.finish w.engine
    (answer, { w with engine := state, calls := w.calls ++ [.finish] })

theorem Engine.watched_projects (engine : Engine σ) :
    engine.watched.Projects Watched.engine engine :=
  ⟨fun _ _ _ => rfl, fun _ => rfl⟩

/-- How many items of a list are looked at: those before the first fault, and the fault. -/
def Items.reached {ε α : Type} (items : List (Except ε α)) : Nat :=
  (Items.records items).length + (Items.fault? items).toList.length

theorem Items.reached_le_length {ε α : Type} (items : List (Except ε α)) :
    Items.reached items ≤ items.length := by
  induction items with
  | nil => simp [reached, records, fault?]
  | cons item rest ih =>
      cases item with
      | error fault => simp [reached, records, fault?]
      | ok r =>
          simp only [reached, records, fault?, List.length_cons] at ih ⊢
          omega

namespace Job

/-- Loads the items that `next` gives, asking for one after the other and for so many at most. -/
def loadPulled (job : Job) (engine : Engine σ)
    (next : σ → Option (Except SourceFault Record) × σ) :
    Nat → Progress σ → Option SourceFault × Progress σ
  | 0, p => (none, p)
  | left + 1, p =>
      match next p.engine with
      | (none, state) => (none, { p with engine := state })
      | (some (.error fault), state) => (some fault, { p with engine := state })
      | (some (.ok r), state) =>
          loadPulled job engine next left (job.loadRecord engine { p with engine := state } r)

/-- A run under watch; an input without a limit is asked until it has no more items. -/
def watch (job : Job) (engine : Engine σ) (session : Session σ)
    (items : List (Except SourceFault Record)) : Run (Watched σ) :=
  job.runWith engine.watched (session.watched items)
    (job.loadPulled engine.watched Watched.next (job.options.limit.getD (items.length + 1)))

def insertCalls (job : Job) (rs : List Record) : List Call :=
  rs.filterMap fun r =>
    (Query.insert job.target.schema job.target.name r).toOption.map (.invoke job.database)

theorem insertCalls_append (job : Job) (rs ss : List Record) :
    job.insertCalls (rs ++ ss) = job.insertCalls rs ++ job.insertCalls ss :=
  List.filterMap_append

theorem loadRecord_watched (job : Job) (engine : Engine σ) (p : Progress (Watched σ))
    (r : Record) :
    (job.loadRecord engine.watched p r).engine.calls =
        p.engine.calls ++ job.insertCalls [r] ∧
      (job.loadRecord engine.watched p r).engine.waiting = p.engine.waiting := by
  rw [loadRecord_engine]
  unfold fate
  cases hq : Query.insert job.target.schema job.target.name r with
  | error fault => simp [insertCalls, hq, Except.toOption]
  | ok query => simp [insertCalls, hq, Except.toOption, Engine.watched]

/-- The loop that asks for its items does what the loop over the list does, and leaves in the input
what it did not come to. -/
theorem loadPulled_eq (job : Job) (engine : Engine σ) (left : Nat) (p : Progress (Watched σ)) :
    let reach := p.engine.waiting.take left
    let ended := job.loadPulled engine.watched Watched.next left p
    ended.1 = Items.fault? reach ∧
      ended.2.map Watched.engine =
        (Items.records reach).foldl (job.loadRecord engine) (p.map Watched.engine) ∧
      ended.2.engine.calls = p.engine.calls ++ job.insertCalls (Items.records reach) ∧
      ended.2.engine.waiting = p.engine.waiting.drop (Items.reached reach) := by
  induction left generalizing p with
  | zero => simp [loadPulled, Items.fault?, Items.records, Items.reached, insertCalls]
  | succ left ih =>
      obtain ⟨⟨state, calls, waiting⟩, summary, events⟩ := p
      cases waiting with
      | nil =>
          simp [loadPulled, Watched.next, Items.fault?, Items.records, Items.reached, insertCalls]
      | cons item rest =>
          cases item with
          | error fault =>
              simp [loadPulled, Watched.next, Items.fault?, Items.records, Items.reached,
                insertCalls, Progress.map]
          | ok r =>
              let taken : Progress (Watched σ) := ⟨⟨state, calls, rest⟩, summary, events⟩
              obtain ⟨hcalls, hwaiting⟩ := loadRecord_watched job engine taken r
              have hmap := loadRecord_map job engine.watched_projects taken r
              have hrest := ih (job.loadRecord engine.watched taken r)
              rw [hcalls, hwaiting, hmap] at hrest
              obtain ⟨hfault, hrun, hasked, hleft⟩ := hrest
              refine ⟨hfault, hrun, hasked.trans ?_, hleft.trans ?_⟩
              · have happend : job.insertCalls (r :: Items.records (rest.take left)) =
                    job.insertCalls [r] ++ job.insertCalls (Items.records (rest.take left)) :=
                  insertCalls_append job [r] _
                rw [List.append_assoc, ← happend]
                rfl
              · simp only [taken, Items.reached, List.take_succ_cons, Items.records,
                  Items.fault?, List.length_cons]
                rw [Nat.add_right_comm, List.drop_succ_cons]

theorem limited_eq_take (limit : Option Nat) (items : List (Except SourceFault Record)) :
    limited limit items = items.take (limit.getD (items.length + 1)) := by
  cases limit with
  | none => exact (List.take_of_length_le (Nat.le_succ _)).symm
  | some n => rfl

def createCalls (job : Job) : List Call :=
  if job.options.createTable then [.invoke job.database job.createQuery] else []

theorem begun_watched (job : Job) (engine : Engine σ) (state : σ)
    (items : List (Except SourceFault Record)) :
    job.begun engine.watched ⟨state, [], items⟩ =
      ⟨job.begun engine state, job.createCalls, items⟩ := by
  unfold begun createCalls
  split <;> rfl

theorem loadPulled_opened (job : Job) (engine : Engine σ) (state : σ)
    (items : List (Except SourceFault Record)) (created : Bool) :
    let reach := limited job.options.limit items
    let ended := job.loadPulled engine.watched Watched.next
      (job.options.limit.getD (items.length + 1))
      (job.opened engine.watched ⟨state, [], items⟩ created)
    (ended.1, ended.2.map Watched.engine) =
        job.loadItems engine (job.opened engine state created) reach ∧
      ended.1 = Items.fault? reach ∧
      ended.2.engine.calls = job.createCalls ++ job.insertCalls (Items.records reach) ∧
      ended.2.engine.waiting = items.drop (Items.reached reach) := by
  have h := loadPulled_eq job engine (job.options.limit.getD (items.length + 1))
    (job.opened engine.watched ⟨state, [], items⟩ created)
  have hstart : (job.opened engine.watched ⟨state, [], items⟩ created).engine =
      ⟨job.begun engine state, job.createCalls, items⟩ := begun_watched job engine state items
  rw [hstart, opened_map job engine.watched_projects, ← limited_eq_take] at h
  obtain ⟨hfault, hrun, hcalls, hwaiting⟩ := h
  refine ⟨?_, hfault, hcalls, hwaiting⟩
  rw [loadItems_eq, ← hfault, ← hrun]

/-- Watching changes nothing in a run. -/
theorem watch_map (job : Job) (engine : Engine σ) (session : Session σ)
    (items : List (Except SourceFault Record)) :
    (job.watch engine session items).map Watched.engine = job.run engine session items := by
  apply runWith_map job engine.watched_projects
  intro created
  exact (loadPulled_opened job engine session.engine items created).1.symm

theorem create_watched (job : Job) (engine : Engine σ) (session : Session σ)
    (items : List (Except SourceFault Record)) :
    (job.create engine.watched (session.watched items).engine).1 =
      (job.create engine session.engine).1 :=
  (congrArg Prod.fst (create_map job engine.watched_projects (session.watched items).engine)).symm

theorem watch_of_refused {job : Job} {engine : Engine σ} {session : Session σ}
    (items : List (Except SourceFault Record)) {fault : EngineFault}
    (h : (job.create engine session.engine).1 = .error fault) :
    (job.watch engine session items).session.engine =
      ⟨job.begun engine session.engine, job.createCalls, items⟩ := by
  unfold watch
  rw [runWith_of_refused ((create_watched job engine session items).trans h)]
  exact begun_watched job engine session.engine items

theorem watch_of_opened {job : Job} {engine : Engine σ} {session : Session σ}
    (items : List (Except SourceFault Record)) {created : Bool}
    (h : (job.create engine session.engine).1 = .ok created) :
    let reach := limited job.options.limit items
    let after := (job.watch engine session items).session.engine
    after.calls =
        job.createCalls ++ job.insertCalls (Items.records reach) ++
          (if reach.all (·.isOk) then [.finish] else []) ∧
      after.waiting = items.drop (Items.reached reach) := by
  intro reach after
  obtain ⟨-, hfault, hcalls, hwaiting⟩ :=
    loadPulled_opened job engine session.engine items created
  have hall := Items.all_isOk_iff reach
  have hafter : after = _ :=
    runWith_engine created ((create_watched job engine session items).trans h)
  rw [hafter]
  cases hf : Items.fault? reach with
  | none =>
      rw [hf] at hfault hall
      simp only [Session.watched, hfault, hall, Option.isSome_none, Bool.false_eq_true, if_false,
        if_true]
      exact ⟨congrArg (· ++ [Call.finish]) hcalls, hwaiting⟩
  | some fault =>
      rw [hf] at hfault hall
      simp only [Session.watched, hfault, hall, Option.isSome_some, if_true, reduceCtorEq,
        if_false, List.append_nil]
      exact ⟨hcalls, hwaiting⟩

theorem watch_engine (job : Job) (engine : Engine σ) (session : Session σ)
    (items : List (Except SourceFault Record)) :
    let reach := limited job.options.limit items
    let refused := job.isRefused engine session.engine
    let after := (job.watch engine session items).session.engine
    after.calls =
        job.createCalls ++
          (if refused then []
          else
            job.insertCalls (Items.records reach) ++
              if reach.all (·.isOk) then [.finish] else []) ∧
      after.waiting = items.drop (if refused then 0 else Items.reached reach) := by
  intro reach refused after
  cases hr : refused with
  | true =>
      obtain ⟨fault, hc⟩ := (isRefused_iff job engine session.engine).mp hr
      simp only [after, watch_of_refused items hc, if_true, List.append_nil, List.drop_zero,
        and_self]
  | false =>
      obtain ⟨created, hc⟩ := (isRefused_eq_false_iff job engine session.engine).mp hr
      obtain ⟨hcalls, hwaiting⟩ := watch_of_opened items hc
      simp only [Bool.false_eq_true, if_false, ← List.append_assoc]
      exact ⟨hcalls, hwaiting⟩

/-- **What a run asks.** A run asks for the create query first, if the table is to be created.
Unless the engine cannot be handed that query, the run goes on with the insert query of each record
before the first fault within the limit, skips those without one, and tells the end once if there is
no fault. Nothing past the limit is taken from the input, and engines that agree about the create
query are asked the same. -/
theorem calls_of_run (job : Job) (engine : Engine σ) (session : Session σ)
    (items : List (Except SourceFault Record)) :
    let reach := limited job.options.limit items
    let refused := job.isRefused engine session.engine
    let watched := job.watch engine session items
    watched.map Watched.engine = job.run engine session items ∧
      watched.session.engine.calls =
        job.createCalls ++
          (if refused then []
          else
            job.insertCalls (Items.records reach) ++
              if reach.all (·.isOk) then [.finish] else []) ∧
      watched.session.engine.waiting =
        items.drop (if refused then 0 else Items.reached reach) ∧
      items.drop (job.options.limit.getD items.length) <:+ watched.session.engine.waiting ∧
      ∀ {τ : Type} (other : Engine τ) (start : Session τ),
        job.isRefused other start.engine = refused →
          (job.watch other start items).session.engine.calls = watched.session.engine.calls := by
  intro reach refused watched
  obtain ⟨hcalls, hwaiting⟩ := watch_engine job engine session items
  refine ⟨watch_map job engine session items, hcalls, hwaiting, ?_, ?_⟩
  · have hreached : Items.reached reach ≤ job.options.limit.getD items.length := by
      have hle := Items.reached_le_length reach
      have hlength := length_limited job.options.limit items
      change reach.length = _ at hlength
      omega
    rw [hwaiting]
    apply List.drop_suffix_drop_left
    split
    · exact Nat.zero_le _
    · exact hreached
  · intro τ other start hsame
    rw [hcalls, (watch_engine job other start items).1, hsame]

end Job

end BulkLoad
