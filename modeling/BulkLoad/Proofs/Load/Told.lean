import BulkLoad.Log.Filter
import BulkLoad.Proofs.Load.Calls
import BulkLoad.Proofs.Load.Chronicle
import Mathlib.Tactic.SplitIfs

/-!
The log of a run, in step with the run.

The queries told are the queries sent, the warnings are the records that were not loaded, and the
progress is told where it is due, however the run ends. What the engine itself tells is left aside.

All events are of the program itself, so where no filter is named it is the level asked for that
decides on them, and not the one for other programs. The log up to a level is what the whole log has
of that level and the graver ones, in its order.
-/
namespace BulkLoad

section Levels

theorem Level.within_trace (level : Level) : level.within .trace = true := by
  cases level <;> rfl

theorem Event.origin_of_program (e : Event) :
    "elena_load".toList.isPrefixOf e.origin.toList = true := by
  unfold origin
  split_ifs <;> decide

namespace Filter

theorem upTo_shows (bound : Level) (e : Event) : (upTo bound).shows e = e.level.within bound := by
  have hothers : (⟨none, [], some .warn⟩ : Directive).covers e = true := rfl
  have hown : (⟨some "elena_load", [], some bound⟩ : Directive).covers e = true := by
    rw [Directive.covers]
    exact (Bool.and_true _).trans e.origin_of_program
  have hcloser : (⟨some "elena_load", [], some bound⟩ : Directive).atLeast
      ⟨none, [], some .warn⟩ = true := by
    cases bound <;> decide
  simp only [shows, deciding?, upTo, List.filter_cons, hothers, hown, if_true, List.filter_nil,
    List.foldl_cons, List.foldl_nil, closer, hcloser]
  rfl

/-- What is shown where no filter is named is what is visible up to the level. -/
theorem filter_shows (bound : Level) (events : List Event) :
    events.filter (ofVariable none bound).shows = Event.visible bound events := by
  have hshows : (ofVariable none bound).shows = fun e => e.level.within bound :=
    funext (upTo_shows bound)
  rw [hshows, Event.visible]

end Filter

namespace Event

theorem visible_trace (events : List Event) : visible .trace events = events := by
  rw [visible, List.filter_eq_self]
  exact fun e _ => e.level.within_trace

end Event

end Levels

def Call.queryText? : Call → Option String
  | .invoke _ query => some query.text
  | .finish => none

namespace Job

open Event

variable {σ : Type}

section Pages

variable (job : Job) (r : Record) (fate : Fate)

theorem failure_isUnloaded (failure : RecordFailure) : failure.event.isUnloaded = true := by
  have hfront : "record not loaded: ".toList <+:
      ("record not loaded: " ++ failure.message).toList := by
    rw [String.toList_append]
    exact List.prefix_append _ _
  exact List.isPrefixOf_iff_prefix.mpr hfront

theorem marks_isUnloaded : Marks (·.isUnloaded) :=
  ⟨failure_isUnloaded, fun _ _ => rfl, fun _ _ => rfl, fun _ _ => rfl⟩

theorem filterMap_query?_about :
    (job.about r fate).filterMap query? = ((job.insertOf? r).map Query.text).toList := by
  have hverdict : query? (job.verdict r fate) = none :=
    job.verdict_alike r fate (fun _ => rfl) (fun _ _ => rfl)
  rw [about, List.filterMap_append, List.filterMap_cons_none hverdict]
  cases job.insertOf? r <;> rfl

theorem filter_isProgress_about : (job.about r fate).filter (·.isProgress) = [] := by
  have hverdict : (job.verdict r fate).isProgress = false :=
    job.verdict_alike r fate (fun _ => rfl) (fun _ _ => rfl)
  rw [about, List.filter_append, List.filter_cons_of_neg (by simp [hverdict])]
  cases job.insertOf? r <;> rfl

theorem filterMap_query?_pagesAfter (total failed : Nat) (fates : List (Record × Fate)) :
    (job.pagesAfter total failed fates).flatten.filterMap query? =
      ((fates.map Prod.fst).filterMap job.insertOf?).map Query.text := by
  induction fates generalizing total failed with
  | nil => rfl
  | cons x rest ih =>
      have hmilestone (total failed : Nat) : (milestone total failed).filterMap query? = [] := by
        unfold milestone
        split_ifs <;> rfl
      rw [pagesAfter, List.flatten_cons, List.filterMap_append, List.filterMap_append, ih,
        filterMap_query?_about, hmilestone, List.append_nil, List.map_cons]
      cases h : job.insertOf? x.1 <;> simp [h]

end Pages

section Room

variable (job : Job) (room : Nat)

def withRoom (job : Job) (room : Nat) : Job :=
  { job with options := { job.options with maxFailures := room } }

theorem fates_withRoom (engine : Engine σ) (state : σ) (rs : List Record) :
    (job.withRoom room).fates engine state rs = job.fates engine state rs := by
  induction rs generalizing state with
  | nil => rfl
  | cons r rest ih => exact congrArg (_ :: ·) (ih _)

theorem pagesAfter_withRoom (total failed : Nat) (fates : List (Record × Fate)) :
    (job.withRoom room).pagesAfter total failed fates = job.pagesAfter total failed fates := by
  induction fates generalizing total failed with
  | nil => rfl
  | cons x rest ih => exact congrArg (_ :: ·) (ih _ _)

theorem parting_withRoom (engine : Engine σ) (after : σ) (created : Bool)
    (fates : List (Record × Fate)) :
    parting engine after ((job.withRoom room).summaryOf created fates) =
      parting engine after (job.summaryOf created fates) := rfl

theorem chronicle_withRoom (engine : Engine σ) (state : σ)
    (items : List (Except SourceFault Record)) :
    (job.withRoom room).chronicle engine state items = job.chronicle engine state items := by
  have hcreate : (job.withRoom room).create engine state = job.create engine state := rfl
  have hopened (created : Bool) :
      (job.withRoom room).opened engine state created = job.opened engine state created := rfl
  have hbegun : (job.withRoom room).begun engine state = job.begun engine state := rfl
  have hpassed (rs : List Record) :
      (job.withRoom room).passed engine (job.begun engine state) rs =
        job.passed engine (job.begun engine state) rs := rfl
  simp only [chronicle, hcreate, hopened, hbegun, hpassed, fates_withRoom, pagesAfter_withRoom,
    parting_withRoom]

end Room

theorem queries_insertCalls (job : Job) (rs : List Record) :
    (job.insertCalls rs).filterMap Call.queryText? =
      (rs.filterMap job.insertOf?).map Query.text := by
  unfold insertCalls insertOf?
  rw [List.filterMap_filterMap, List.map_filterMap]
  congr 1
  funext r
  cases (Query.insert job.target.schema job.target.name r).toOption <;> rfl

/-- The queries that the engine of a run is asked. -/
theorem queries_calls (job : Job) (engine : Engine σ) (session : Session σ)
    (items : List (Except SourceFault Record)) :
    (job.watch engine session items).session.engine.calls.filterMap Call.queryText? =
      (job.queries (if job.isRefused engine session.engine then []
        else Items.records (limited job.options.limit items))).map Query.text := by
  have hfinish (sound : Bool) :
      (if sound then [Call.finish] else []).filterMap Call.queryText? = [] := by
    cases sound <;> rfl
  rw [(job.watch_engine engine session items).1, List.filterMap_append, queries, List.map_append]
  congr 1
  · unfold createCalls createQueries
    split_ifs <;> rfl
  · cases job.isRefused engine session.engine with
    | true => rfl
    | false =>
        rw [if_neg Bool.false_ne_true, if_neg Bool.false_ne_true, List.filterMap_append,
          queries_insertCalls, hfinish, List.append_nil]

/-- The queries that a run tells by itself. -/
theorem queries_own (job : Job) (engine : Engine σ) (state : σ)
    (items : List (Except SourceFault Record)) :
    (job.chronicle engine state items).own.filterMap query? =
      (job.queries (if job.isRefused engine state then []
        else Items.records items)).map Query.text := by
  obtain ⟨before, after, hopening, hbefore, hafter⟩ := job.chronicle_opening engine state items
  obtain ⟨-, hclosing⟩ := job.chronicle_end engine state items
  have hcreating : (if job.options.createTable then [job.creating] else []).filterMap query? =
      job.createQueries.map Query.text := by
    unfold createQueries
    split_ifs <;> rfl
  rw [Chronicle.own, hopening, chronicle_pages]
  simp only [List.filterMap_append, filterMap_query?_pagesAfter, map_fst_fates, hcreating,
    (filters_of_remarks hbefore).1, (filters_of_remarks hafter).1,
    (filters_of_remarks hclosing).1, List.append_nil, List.nil_append, queries, List.map_append]

theorem unloaded_own (job : Job) (engine : Engine σ) (state : σ)
    (items : List (Except SourceFault Record)) :
    (job.chronicle engine state items).own.filter (·.isUnloaded) =
      ((job.fates engine (job.begun engine state)
        (if job.isRefused engine state then [] else Items.records items)).filterMap
          fun x => job.failure? x.1 x.2).map (·.event) := by
  obtain ⟨before, after, hopening, hbefore, hafter⟩ := job.chronicle_opening engine state items
  obtain ⟨-, hclosing⟩ := job.chronicle_end engine state items
  have hcreating : (if job.options.createTable then [job.creating] else []).filter
      (·.isUnloaded) = [] := by
    split_ifs <;> rfl
  rw [Chronicle.own, hopening, chronicle_pages]
  simp only [List.filter_append, filter_pagesAfter job _ _ _ marks_isUnloaded, hcreating,
    (filters_of_remarks hbefore).2.1, (filters_of_remarks hafter).2.1,
    (filters_of_remarks hclosing).2.1, List.append_nil, List.nil_append]

theorem progress_own (job : Job) (engine : Engine σ) (state : σ)
    (items : List (Except SourceFault Record)) :
    let c := job.chronicle engine state items
    (c.opening ++ c.closing).filter (·.isProgress) = [] := by
  intro c
  obtain ⟨before, after, hopening, hbefore, hafter⟩ := job.chronicle_opening engine state items
  obtain ⟨-, hclosing⟩ := job.chronicle_end engine state items
  have hcreating : (if job.options.createTable then [job.creating] else []).filter
      (·.isProgress) = [] := by
    split_ifs <;> rfl
  simp only [c, hopening, List.filter_append, hcreating, (filters_of_remarks hbefore).2.2,
    (filters_of_remarks hafter).2.2, (filters_of_remarks hclosing).2.2, List.append_nil]

/-- **The log tells the whole run.** However a run ends, its own messages are in step with it. The
queries that they tell are those that the engine was asked, in order. The warnings about records are
the records that were not loaded, in order, whatever room the summary has for them; each is called
by its key, or else by its line. After each thousandth record, and nowhere else, the progress is
told, with how many records there were and how many of them failed. And the log up to a level is the
whole log without the messages that are less grave. -/
theorem log_of_run (job : Job) (engine : Engine σ) (session : Session σ)
    (items : List (Except SourceFault Record)) :
    let reach := limited job.options.limit items
    let rs := if job.isRefused engine session.engine then [] else Items.records reach
    let fates := job.fates engine (job.begun engine session.engine) rs
    let run := job.run engine session items
    let watched := job.watch engine session items
    let c := job.chronicle engine session.engine reach
    let after := job.passed engine (job.begun engine session.engine) (Items.records reach)
    watched.map Watched.engine = run ∧
      run.events = c.opening ++ c.pages.flatten ++ c.engine ++ c.closing ∧
      (c.engine = [] ∨ (engine.finish after).1 = .ok c.engine) ∧
      c.own.filterMap Event.query? =
        watched.session.engine.calls.filterMap Call.queryText? ∧
      c.own.filter (·.isUnloaded) =
        (fates.filterMap fun x => job.failure? x.1 x.2).map (·.event) ∧
      (∀ failure : RecordFailure, failure.event =
        ⟨.warn, "record not loaded: " ++ failure.message,
          [("record", .text (match failure.key with
              | some key => key
              | none => "line " ++ Decimal.text failure.line)),
            ("kind", .text failure.kind.name)]⟩) ∧
      (∀ room, ((job.withRoom room).run engine session items).events = run.events) ∧
      (c.opening ++ c.closing).filter (·.isProgress) = [] ∧
      c.pages.length = rs.length ∧
      (∀ k, c.pages[k]? = fates[k]?.map fun x =>
        job.about x.1 x.2 ++
          if (k + 1) % 1000 = 0 then
            [progress (k + 1) ((fates.take (k + 1)).countP (!·.2.isLoaded))]
          else []) ∧
      (∀ r fate,
        (job.about r fate).filterMap Event.query? = ((job.insertOf? r).map Query.text).toList ∧
          (job.about r fate).filter (·.isUnloaded) =
            ((job.failure? r fate).map (·.event)).toList ∧
          (job.about r fate).filter (·.isProgress) = []) ∧
      ∀ bound,
        run.events.filter (Filter.ofVariable none bound).shows =
            (run.events.filter (Filter.ofVariable none .trace).shows).filter
              (·.level.within bound) ∧
          (run.events.filter (Filter.ofVariable none bound).shows).Sublist
            (run.events.filter (Filter.ofVariable none .trace).shows) := by
  intro reach rs fates run watched c after
  obtain ⟨hengine, -⟩ := job.chronicle_end engine session.engine reach
  refine ⟨job.watch_map engine session items, job.events_of_run engine items session, hengine,
    ?_, job.unloaded_own engine session.engine reach, RecordFailure.event_eq, ?_,
    job.progress_own engine session.engine reach, ?_, ?_, ?_, ?_⟩
  · rw [queries_calls]
    exact job.queries_own engine session.engine reach
  · intro room
    exact (events_of_run _ engine items session).trans
      ((congrArg _ (job.chronicle_withRoom room engine session.engine reach)).trans
        (job.events_of_run engine items session).symm)
  · rw [chronicle_pages, length_pagesAfter, length_fates]
  · intro k
    rw [chronicle_pages, getElem?_pagesAfter]
    simp only [Nat.zero_add]
    rfl
  · intro r fate
    exact ⟨job.filterMap_query?_about r fate, filter_about job marks_isUnloaded r fate,
      job.filter_isProgress_about r fate⟩
  · intro bound
    rw [Filter.filter_shows, Filter.filter_shows, visible_trace]
    exact ⟨rfl, List.filter_sublist⟩

end Job

end BulkLoad
