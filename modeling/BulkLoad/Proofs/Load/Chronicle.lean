import BulkLoad.Proofs.Load.Ends
import BulkLoad.Proofs.Load.Telling

/-!
The messages of a run in its parts: those before its records, a page for each record, what the
engine tells at the end, and the message that closes the run.

Before the records and at the end there are remarks to a reader, and the message about the create
query. Messages are known by their level and by what they begin with; a remark begins otherwise than
a message about a record or about the progress.
-/
namespace BulkLoad

namespace Event

def query? (e : Event) : Option String :=
  if e.level = .debug ∧ (e.message = "create table" ∨ e.message = "insert") then
    match e.fields.lookup "query" with
    | some (.text query) => some query
    | _ => none
  else none

def isUnloaded (e : Event) : Bool :=
  e.level == .warn && "record not loaded: ".toList.isPrefixOf e.message.toList

def isProgress (e : Event) : Bool := e.level == .info && e.message == "progress"

/-- Messages that tell of no query, no record and no progress: their first letter shows it. -/
structure IsRemark (e : Event) : Prop where
  level : e.level ≠ .debug
  front : ∀ c ∈ e.message.toList.head?, c ≠ 'r' ∧ c ≠ 'p'

section Remarks

variable {e : Event} {events : List Event}

theorem IsRemark.query? (h : e.IsRemark) : e.query? = none :=
  if_neg fun hquery => h.level hquery.1

theorem IsRemark.isUnloaded (h : e.IsRemark) : e.isUnloaded = false := by
  have hfront := h.front
  unfold Event.isUnloaded
  cases hmessage : e.message.toList with
  | nil => simp
  | cons c rest =>
      rw [hmessage] at hfront
      have hc : ('r' == c) = false := beq_eq_false_iff_ne.mpr (hfront c rfl).1.symm
      simp [List.isPrefixOf, hc]

theorem IsRemark.isProgress (h : e.IsRemark) : e.isProgress = false := by
  have hmessage : e.message ≠ "progress" := fun hmessage =>
    (h.front 'p' (by rw [hmessage]; rfl)).2 rfl
  simp [Event.isProgress, hmessage]

theorem filters_of_remarks (h : ∀ e ∈ events, e.IsRemark) :
    events.filterMap Event.query? = [] ∧ events.filter (·.isUnloaded) = [] ∧
      events.filter (·.isProgress) = [] := by
  refine ⟨?_, ?_, ?_⟩
  · exact List.filterMap_eq_nil_iff.mpr fun e he => (h e he).query?
  · exact List.filter_eq_nil_iff.mpr fun e he => by simp [(h e he).isUnloaded]
  · exact List.filter_eq_nil_iff.mpr fun e he => by simp [(h e he).isProgress]

end Remarks

end Event

structure Chronicle where
  opening : List Event
  pages : List (List Event)
  engine : List Event
  closing : List Event

namespace Chronicle

def events (c : Chronicle) : List Event :=
  c.opening ++ c.pages.flatten ++ c.engine ++ c.closing

def own (c : Chronicle) : List Event := c.opening ++ c.pages.flatten ++ c.closing

end Chronicle

namespace Job

open Event

variable {σ : Type}

def parting (engine : Engine σ) (after : σ) (s : Summary) : List Event × List Event :=
  match (engine.finish after).1 with
  | .ok told => (told, [closing s])
  | .error _ => ([], [])

def chronicle (job : Job) (engine : Engine σ) (state : σ)
    (items : List (Except SourceFault Record)) : Chronicle :=
  match (job.create engine state).1 with
  | .error _ => ⟨(job.create engine state).2.1, [], [], []⟩
  | .ok created =>
      let rs := Items.records items
      let fates := job.fates engine (job.begun engine state) rs
      let after := job.passed engine (job.begun engine state) rs
      let parting :=
        if (Items.fault? items).isSome then ([], [])
        else parting engine after (job.summaryOf created fates)
      ⟨(job.opened engine state created).events.reverse, job.pagesAfter 0 0 fates, parting.1,
        parting.2⟩

def creating (job : Job) : Event :=
  ⟨.debug, "create table", [("query", .text job.createQuery.text)]⟩

theorem conclude_events (engine : Engine σ) (p : Progress σ) :
    (conclude engine p).events =
      p.events.reverse ++ (parting engine p.engine p.summary).1 ++
        (parting engine p.engine p.summary).2 := by
  unfold conclude parting
  rcases engine.finish p.engine with ⟨fault | told, after⟩
  · simp
  · rfl

section Parts

variable (job : Job) (engine : Engine σ) (state : σ) (items : List (Except SourceFault Record))

theorem events_of_run (session : Session σ) :
    (job.run engine session items).events =
      (job.chronicle engine session.engine (limited job.options.limit items)).events := by
  unfold run chronicle Chronicle.events
  cases hcreate : (job.create engine session.engine).1 with
  | error fault =>
      rw [runWith_of_refused hcreate]
      simp
  | ok created =>
      obtain ⟨hstate, hsummary⟩ := job.foldl_opened engine session.engine created
        (Items.records (limited job.options.limit items))
      have hevents := job.foldl_loadRecord_events engine
        (job.opened engine session.engine created)
        (Items.records (limited job.options.limit items))
      rw [runWith_of_opened hcreate, loadItems_eq]
      cases hfault : Items.fault? (limited job.options.limit items) with
      | some fault =>
          dsimp only [ended]
          rw [hevents]
          exact (List.append_nil _).symm.trans (List.append_nil _).symm
      | none =>
          dsimp only [ended]
          rw [conclude_events, hstate, hsummary, hevents]
          rfl

/-- The step that creates the table tells its query, and nothing else but remarks. -/
theorem create_told :
    ∃ before after, (job.create engine state).2.1 =
        before ++ (if job.options.createTable then [job.creating] else []) ++ after ∧
      (∀ e ∈ before, e.IsRemark) ∧ ∀ e ∈ after, e.IsRemark := by
  unfold create
  cases job.options.createTable with
  | false =>
      refine ⟨[.info ("Skipping create step for '" ++ job.target.name ++ "'")], [], rfl, ?_, ?_⟩
      · rw [List.forall_mem_singleton]
        constructor <;> simp [Event.info]
      · simp
  | true =>
      let before : Event := .info ("🧱 Creating table '" ++ job.target.name ++ "'...")
      have hbefore : ∀ e ∈ [before], e.IsRemark := by
        rw [List.forall_mem_singleton]
        constructor <;> simp [before, Event.info]
      rcases engine.invoke job.database job.createQuery state with ⟨fault | i, after⟩
      · exact ⟨[before], [], rfl, hbefore, by simp⟩
      · refine ⟨[before], [_, _], rfl, hbefore, ?_⟩
        rw [List.forall_mem_cons, List.forall_mem_singleton]
        refine ⟨by constructor <;> simp, ?_⟩
        cases i.succeeded <;> constructor <;> simp [Event.success, Event.warning]

theorem closing_isRemark (s : Summary) : (closing s).IsRemark := by
  unfold closing
  split_ifs <;> constructor <;> simp [Event.success, Event.warning]

/-- The opening of a run tells the create query if the table is to be created. -/
theorem chronicle_opening :
    ∃ before after, (job.chronicle engine state items).opening =
        before ++ (if job.options.createTable then [job.creating] else []) ++ after ∧
      (∀ e ∈ before, e.IsRemark) ∧ ∀ e ∈ after, e.IsRemark := by
  obtain ⟨before, after, htold, hbefore, hafter⟩ := job.create_told engine state
  unfold chronicle
  cases (job.create engine state).1 with
  | error fault => exact ⟨before, after, htold, hbefore, hafter⟩
  | ok created =>
      let loading : Event :=
        .info ("📥 Loading records into '" ++ job.target.name ++ "' (" ++ job.database ++ ")...")
      have hloading : loading.IsRemark := by
        constructor <;> simp [loading, Event.info]
      refine ⟨before, after ++ [loading], ?_, hbefore, ?_⟩
      · dsimp only [opened]
        rw [List.reverse_reverse, htold, List.append_assoc _ after]
      · rw [List.forall_mem_append, List.forall_mem_singleton]
        exact ⟨hafter, hloading⟩

/-- A run has a page for each record that is read after the table was created. -/
theorem chronicle_pages :
    (job.chronicle engine state items).pages =
      job.pagesAfter 0 0 (job.fates engine (job.begun engine state)
        (if job.isRefused engine state then [] else Items.records items)) := by
  unfold chronicle
  cases hcreate : (job.create engine state).1 with
  | error fault => rw [(job.isRefused_iff engine state).mpr ⟨fault, hcreate⟩]; rfl
  | ok created => rw [(job.isRefused_eq_false_iff engine state).mpr ⟨created, hcreate⟩]; rfl

theorem chronicle_end :
    let c := job.chronicle engine state items
    let after := job.passed engine (job.begun engine state) (Items.records items)
    (c.engine = [] ∨ (engine.finish after).1 = .ok c.engine) ∧ ∀ e ∈ c.closing, e.IsRemark := by
  unfold chronicle
  cases (job.create engine state).1 with
  | error fault => exact ⟨.inl rfl, by simp⟩
  | ok created =>
      dsimp only
      split_ifs
      · exact ⟨.inl rfl, by simp⟩
      · unfold parting
        cases (engine.finish
            (job.passed engine (job.begun engine state) (Items.records items))).1 with
        | error fault => exact ⟨.inl rfl, by simp⟩
        | ok told => exact ⟨.inr rfl, by simpa using closing_isRemark _⟩

end Parts

end Job

end BulkLoad
