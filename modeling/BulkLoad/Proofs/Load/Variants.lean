import BulkLoad.Proofs.Load.Accounting
import BulkLoad.Proofs.Load.Calls
import BulkLoad.Proofs.Query.Refusal
import Mathlib.Logic.Relation

/-!
Runs over records that differ in what does not matter for the table.

A query takes of each column that records fill the first field with its name. So it does not matter
how fields of different names are ordered, which fields there are under other names, or what follows
under a name that was there before. Each such change keeps what the columns find, and so does any
number of them.

Such records have the same query and the same key, so they meet the same fate. Two runs over them,
record by record, stay in step: the engine is asked the same and is left in the same state, and the
summaries differ in the lines of the listed failures at most. What the two runs tell may differ,
since it names lines.
-/
namespace BulkLoad

/-- A change of the fields of a record that does not matter for a table. -/
inductive Schema.Immaterial (s : Schema) :
    List (String × String) → List (String × String) → Prop
  | reordered {xs ys : List (String × String)} (hperm : xs.Perm ys)
      (hsame : ∀ name, ys.filter (·.1 == name) = xs.filter (·.1 == name)) : Immaterial s xs ys
  | added {front back : List (String × String)} {name value : String}
      (hother : ∀ c ∈ s.dataColumns, c.name ≠ name) :
      Immaterial s (front ++ back) (front ++ (name, value) :: back)
  | removed {front back : List (String × String)} {name value : String}
      (hother : ∀ c ∈ s.dataColumns, c.name ≠ name) :
      Immaterial s (front ++ (name, value) :: back) (front ++ back)
  | repeated {xs : List (String × String)} {name value : String} (hname : name ∈ xs.map (·.1)) :
      Immaterial s xs (xs ++ [(name, value)])

def Record.IsVariant (s : Schema) (r other : Record) : Prop :=
  Relation.ReflTransGen s.Immaterial r.fields other.fields

section Fields

variable {s : Schema}

theorem find?_insert_of_ne {front back : List (String × String)} {name value other : String}
    (h : name ≠ other) :
    (front ++ (name, value) :: back).find? (·.1 == other) =
      (front ++ back).find? (·.1 == other) := by
  simp [List.find?_append, h]

theorem Schema.Immaterial.find? {xs ys : List (String × String)} (h : s.Immaterial xs ys)
    {c : Column} (hc : c ∈ s.dataColumns) :
    ys.find? (·.1 == c.name) = xs.find? (·.1 == c.name) := by
  cases h with
  | reordered _ hsame => rw [← List.head?_filter, ← List.head?_filter, hsame]
  | added hother => exact find?_insert_of_ne (hother c hc).symm
  | removed hother => exact (find?_insert_of_ne (hother c hc).symm).symm
  | @repeated _ name value hname =>
      rw [List.find?_append]
      by_cases hsame : name = c.name
      · obtain ⟨field, hfield, hkey⟩ := List.mem_map.mp hname
        have hfound : (xs.find? (·.1 == c.name)).isSome = true :=
          List.find?_isSome.mpr ⟨field, hfield, by simp [hkey, hsame]⟩
        rw [Option.or_of_isSome hfound]
      · simp [hsame]

theorem Schema.find?_of_immaterial {xs ys : List (String × String)}
    (h : Relation.ReflTransGen s.Immaterial xs ys) {c : Column} (hc : c ∈ s.dataColumns) :
    ys.find? (·.1 == c.name) = xs.find? (·.1 == c.name) := by
  induction h with
  | refl => rfl
  | tail _ hstep ih => exact (hstep.find? hc).trans ih

namespace Record

variable {r other : Record}

theorem IsVariant.get? (h : r.IsVariant s other) {c : Column} (hc : c ∈ s.dataColumns) :
    other.get? c.name = r.get? c.name := by
  rw [Record.get?, Record.get?, Schema.find?_of_immaterial h hc]

theorem IsVariant.insert (h : r.IsVariant s other) (table : String) :
    Query.insert s table other = Query.insert s table r :=
  Query.insert_congr table fun _ hc => h.get? hc

end Record

end Fields

variable {σ : Type}

def RecordFailure.unnumbered (f : RecordFailure) : RecordFailure := { f with line := 0 }

def Summary.unnumbered (s : Summary) : Summary :=
  { s with failures := s.failures.map (·.unnumbered) }

inductive Schema.SameItem (s : Schema) :
    Except SourceFault Record → Except SourceFault Record → Prop
  | record {r other : Record} (h : r.IsVariant s other) : SameItem s (.ok r) (.ok other)
  | fault {fault : SourceFault} : SameItem s (.error fault) (.error fault)

/-- Two runs in step: the engine in the same state, the summaries the same up to lines. -/
structure Progress.InStep (p q : Progress σ) : Prop where
  engine : q.engine = p.engine
  summary : q.summary.unnumbered = p.summary.unnumbered

theorem Summary.unnumbered_account (s : Summary) (room : Nat) (outcome : Option RecordFailure) :
    (s.countRecord.account room outcome).unnumbered =
      s.unnumbered.countRecord.account room (outcome.map (·.unnumbered)) := by
  cases outcome with
  | none => rfl
  | some failure =>
      simp only [account, addFailure, countFailure_eq, list, unnumbered, countRecord,
        Option.map_some, List.length_map, RecordFailure.unnumbered]
      split <;> simp

namespace Job

variable {job : Job} {engine : Engine σ} {r other : Record}

theorem keyOf_of_variant (h : r.IsVariant job.target.schema other) :
    job.keyOf other = job.keyOf r := by
  unfold keyOf
  cases hkey : job.target.schema.key? with
  | none => rfl
  | some c =>
      have hc : c ∈ job.target.schema.dataColumns := List.mem_of_find?_eq_some hkey
      simp only [h.get? hc]

theorem fate_of_variant (h : r.IsVariant job.target.schema other) (state : σ) :
    job.fate engine state other = job.fate engine state r := by
  rw [fate, fate, h.insert]

theorem failure?_of_variant (h : r.IsVariant job.target.schema other) (fate : Fate) :
    (job.failure? other fate).map (·.unnumbered) =
      (job.failure? r fate).map (·.unnumbered) := by
  rw [failure?, failure?, Option.map_map, Option.map_map, keyOf_of_variant h]
  rfl

/-- Records that differ in what does not matter leave two runs in step. -/
theorem loadRecord_inStep {p q : Progress σ} (hp : p.InStep q)
    (h : r.IsVariant job.target.schema other) :
    (job.loadRecord engine p r).InStep (job.loadRecord engine q other) where
  engine := by rw [loadRecord_engine, loadRecord_engine, hp.engine, fate_of_variant h]
  summary := by
    rw [loadRecord_summary, loadRecord_summary, Summary.unnumbered_account,
      Summary.unnumbered_account, hp.summary, hp.engine, fate_of_variant h,
      failure?_of_variant h]

theorem loadItems_inStep (engine : Engine σ) {items others : List (Except SourceFault Record)}
    (h : List.Forall₂ job.target.schema.SameItem items others) {p q : Progress σ}
    (hp : p.InStep q) :
    (job.loadItems engine q others).1 = (job.loadItems engine p items).1 ∧
      (job.loadItems engine p items).2.InStep (job.loadItems engine q others).2 := by
  induction h generalizing p q with
  | nil => exact ⟨rfl, hp⟩
  | cons hitem _ ih =>
      cases hitem with
      | record hr => exact ih (loadRecord_inStep hp hr)
      | fault => exact ⟨rfl, hp⟩

theorem conclude_inStep {p q : Progress σ} (hp : p.InStep q) :
    (conclude engine q).outcome.map (·.unnumbered) =
        (conclude engine p).outcome.map (·.unnumbered) ∧
      (conclude engine q).session = (conclude engine p).session := by
  unfold conclude
  rw [hp.engine]
  rcases engine.finish p.engine with ⟨fault | told, state⟩
  · exact ⟨rfl, rfl⟩
  · exact ⟨congrArg Except.ok hp.summary, rfl⟩

theorem limited_sameItem {items others : List (Except SourceFault Record)}
    (h : List.Forall₂ job.target.schema.SameItem items others) (limit : Option Nat) :
    List.Forall₂ job.target.schema.SameItem (limited limit items) (limited limit others) := by
  cases limit with
  | none => exact h
  | some n => exact List.forall₂_take n h

theorem calls_of_sameItems {items others : List (Except SourceFault Record)}
    (h : List.Forall₂ job.target.schema.SameItem items others) :
    job.insertCalls (Items.records others) = job.insertCalls (Items.records items) ∧
      others.all (·.isOk) = items.all (·.isOk) := by
  induction h with
  | nil => exact ⟨rfl, rfl⟩
  | cons hitem _ ih =>
      cases hitem with
      | @record r other hr =>
          refine ⟨?_, ih.2⟩
          simp only [Items.records, insertCalls, List.filterMap_cons, hr.insert]
          have hrest := ih.1
          simp only [insertCalls] at hrest
          rw [hrest]
      | fault => exact ⟨rfl, rfl⟩

theorem run_inStep {items others : List (Except SourceFault Record)} {session : Session σ}
    (h : List.Forall₂ job.target.schema.SameItem items others) :
    (job.run engine session others).outcome.map (·.unnumbered) =
        (job.run engine session items).outcome.map (·.unnumbered) ∧
      (job.run engine session others).session = (job.run engine session items).session := by
  have hreach := limited_sameItem h job.options.limit
  cases hcreate : (job.create engine session.engine).1 with
  | error fault =>
      rw [run, run, runWith_of_refused hcreate, runWith_of_refused hcreate]
      exact ⟨rfl, rfl⟩
  | ok created =>
      -- The table is created before a record is looked at, so both runs start from one progress.
      have hstart : (job.opened engine session.engine created).InStep
          (job.opened engine session.engine created) := ⟨rfl, rfl⟩
      obtain ⟨hfault, hend⟩ := loadItems_inStep engine hreach hstart
      rw [run, run, runWith_of_opened hcreate, runWith_of_opened hcreate]
      generalize job.loadItems engine (job.opened engine session.engine created)
        (limited job.options.limit items) = ended at hfault hend ⊢
      generalize job.loadItems engine (job.opened engine session.engine created)
        (limited job.options.limit others) = ended' at hfault hend ⊢
      obtain ⟨fault?, p⟩ := ended
      obtain ⟨fault?', q⟩ := ended'
      obtain rfl : fault?' = fault? := hfault
      cases fault?' with
      | none => exact conclude_inStep hend
      | some fault =>
          have hstate : q.engine = p.engine := hend.engine
          refine ⟨rfl, ?_⟩
          simp only [ended, hstate]

/-- **What a record contributes.** Records that differ in the order of their fields, in fields that
no column asks for and in what follows under a name that is there already have the same query, or
are refused for the same fault, and have the same key. A run over the one asks what a run over the
other asks, ends alike up to the lines of the listed failures, and leaves the session in the same
state. -/
theorem run_of_variants (job : Job) (engine : Engine σ) (session : Session σ) :
    (∀ r other, r.IsVariant job.target.schema other →
        (∀ table, Query.insert job.target.schema table other =
          Query.insert job.target.schema table r) ∧
        job.keyOf other = job.keyOf r) ∧
      (∀ items, (job.watch engine session items).map Watched.engine =
        job.run engine session items) ∧
      ∀ items others, List.Forall₂ job.target.schema.SameItem items others →
        (job.watch engine session others).session.engine.calls =
            (job.watch engine session items).session.engine.calls ∧
          (job.run engine session others).outcome.map (·.unnumbered) =
            (job.run engine session items).outcome.map (·.unnumbered) ∧
          (job.run engine session others).session = (job.run engine session items).session := by
  refine ⟨fun r other h => ⟨h.insert, keyOf_of_variant h⟩, job.watch_map engine session, ?_⟩
  intro items others h
  obtain ⟨hinserts, hall⟩ := calls_of_sameItems (limited_sameItem h job.options.limit)
  refine ⟨?_, run_inStep h⟩
  rw [(watch_engine job engine session others).1, (watch_engine job engine session items).1,
    hinserts, hall]

/-- Two fields in the other order, a field that no column asks for, and a second value for the
key. -/
theorem variant_of_shuffle :
    (⟨2, [("k", "a"), ("b", "SI")]⟩ : Record).IsVariant sampleJob.target.schema
      ⟨9, [("_3", "x"), ("b", "SI"), ("k", "a"), ("k", "z")]⟩ := by
  have hswapped : sampleJob.target.schema.Immaterial [("k", "a"), ("b", "SI")]
      [("b", "SI"), ("k", "a")] := by
    refine .reordered (by decide) fun name => ?_
    by_cases hname : "k" = name
    · subst hname
      rfl
    · simp [List.filter_cons, hname]
  have hadded : sampleJob.target.schema.Immaterial [("b", "SI"), ("k", "a")]
      [("_3", "x"), ("b", "SI"), ("k", "a")] := @Schema.Immaterial.added _ [] _ _ _ (by decide)
  have hrepeated : sampleJob.target.schema.Immaterial [("_3", "x"), ("b", "SI"), ("k", "a")]
      [("_3", "x"), ("b", "SI"), ("k", "a"), ("k", "z")] := .repeated (by decide)
  exact ((Relation.ReflTransGen.single hswapped).tail hadded).tail hrepeated

/-- The engine does not take the record, so the summary names it. -/
theorem run_of_shuffle :
    let r : Record := ⟨2, [("k", "a"), ("b", "SI")]⟩
    let other : Record := ⟨9, [("_3", "x"), ("b", "SI"), ("k", "a"), ("k", "z")]⟩
    let summary (line : Nat) : Summary :=
      ⟨1, 0, 0, 0, 1, true, [⟨line, some "k=a", .engineExecution, "terminated by signal: no"⟩], 0⟩
    r.IsVariant sampleJob.target.schema other ∧
      sampleJob.keyOf other = some "k=a" ∧
      (sampleJob.run sampleEngine ⟨0, .schemaPending⟩ [.ok r]).outcome = .ok (summary 2) ∧
      (sampleJob.run sampleEngine ⟨0, .schemaPending⟩ [.ok other]).outcome.map (·.unnumbered) =
        .ok (summary 0) := by
  intro r other summary
  have hrun : (sampleJob.run sampleEngine ⟨0, .schemaPending⟩ [.ok r]).outcome =
      .ok (summary 2) := outcome_eq_ok (by decide +kernel)
  obtain ⟨hrecords, -, hruns⟩ := run_of_variants sampleJob sampleEngine ⟨0, .schemaPending⟩
  obtain ⟨-, hkey⟩ := hrecords r other variant_of_shuffle
  obtain ⟨-, houtcome, -⟩ := hruns [.ok r] [.ok other] (.cons (.record variant_of_shuffle) .nil)
  refine ⟨variant_of_shuffle, hkey.trans rfl, hrun, houtcome.trans ?_⟩
  rw [hrun]
  rfl

end Job

end BulkLoad
