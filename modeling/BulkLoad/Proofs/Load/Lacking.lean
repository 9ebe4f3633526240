import BulkLoad.Proofs.Load.Accounting
import BulkLoad.Proofs.Load.FromSource
import BulkLoad.Proofs.Query.Refusal
import BulkLoad.Proofs.Source.Quoting

/-!
Sources whose header does not name every column that records fill.

A record has no value for such a column, unless its row is long enough for a field beyond the header
to get the name of the column as its number. Without a value for every column there is no query: the
record is rejected, and the engine is not asked.
-/
namespace BulkLoad

variable {σ : Type}

namespace Source

def IsExtra (headers : List String) (row : Delimited.Row) (name : String) : Prop :=
  ∃ place < row.fields.length, headers.length ≤ place ∧ name = extraName place

instance (headers : List String) (row : Delimited.Row) (name : String) :
    Decidable (IsExtra headers row name) :=
  inferInstanceAs (Decidable (∃ place < row.fields.length, _))

theorem get?_eq_none_iff {headers : List String} {name : String} (h : name ∉ headers)
    (row : Delimited.Row) :
    (recordUnder headers row).get? name = none ↔ ¬ IsExtra headers row name := by
  rw [recordUnder, get?_of_not_header row.line 0 h, Nat.zero_add]
  constructor
  · rintro hnone ⟨place, hplace, hbeyond, rfl⟩
    obtain ⟨k, rfl⟩ := Nat.exists_eq_add_of_le hbeyond
    rw [get?_extra, List.getElem?_drop, Option.map_eq_none_iff, List.getElem?_eq_none_iff] at hnone
    omega
  · intro hextra
    apply get?_of_not_extra
    rintro k hk rfl
    rw [List.length_drop] at hk
    exact hextra ⟨headers.length + k, by omega, Nat.le_add_right _ _, rfl⟩

theorem mem_missingColumns {source : Source} {schema : Schema} {name : String} :
    name ∈ source.missingColumns schema ↔
      (∃ c ∈ schema.dataColumns, c.name = name) ∧ name ∉ source.info.headers := by
  simp [missingColumns, SourceInfo.missingColumns]

end Source

namespace Query

theorem insert_eq_error {s : Schema} {r : Record} (table : String)
    (h : ∃ c ∈ s.dataColumns, r.get? c.name = none) : ∃ fault, insert s table r = .error fault := by
  obtain ⟨c, hc, hnone⟩ := h
  cases hinsert : insert s table r with
  | error fault => exact ⟨fault, rfl⟩
  | ok q =>
      obtain ⟨value, hvalue, -⟩ := insert_eq_ok_iff.mp ⟨q, hinsert⟩ c hc
      cases hnone.symm.trans (Record.get?_eq_some_iff.mpr hvalue)

end Query

namespace Job

def Unwritable (job : Job) (r : Record) : Prop :=
  ∃ fault, Query.insert job.target.schema job.target.name r = .error fault

section Unwritable

variable {job : Job} {engine : Engine σ} {rs : List Record}

variable (engine) in
theorem fate_of_unwritable {r : Record} (h : job.Unwritable r) (state : σ) :
    (job.fate engine state r).1.isRejected = true ∧ (job.fate engine state r).2 = state := by
  obtain ⟨fault, hinsert⟩ := h
  simp [fate, hinsert, Fate.isRejected]

theorem foldl_loadRecord_of_unwritable (h : ∀ r ∈ rs, job.Unwritable r) (p : Progress σ) :
    (rs.foldl (job.loadRecord engine) p).engine = p.engine := by
  induction rs generalizing p with
  | nil => rfl
  | cons r rest ih =>
      obtain ⟨hr, hrest⟩ := List.forall_mem_cons.mp h
      rw [List.foldl_cons, ih hrest, loadRecord_engine, (fate_of_unwritable engine hr p.engine).2]

theorem fates_of_unwritable (h : ∀ r ∈ rs, job.Unwritable r) (state : σ) :
    ∀ x ∈ job.fates engine state rs, x.2.isRejected = true := by
  induction rs with
  | nil => simp [fates]
  | cons r rest ih =>
      obtain ⟨hr, hrest⟩ := List.forall_mem_cons.mp h
      obtain ⟨hfate, hstate⟩ := fate_of_unwritable engine hr state
      rw [fates, hstate]
      exact List.forall_mem_cons.mpr ⟨hfate, ih hrest⟩

theorem insertCalls_of_unwritable (h : ∀ r ∈ rs, job.Unwritable r) : job.insertCalls rs = [] := by
  apply List.filterMap_eq_nil_iff.mpr
  intro r hr
  obtain ⟨fault, hinsert⟩ := h r hr
  rw [hinsert]
  rfl

end Unwritable

end Job

theorem Fate.isRejected_only {fate : Fate} (h : fate.isRejected = true) :
    fate.isLoaded = false ∧ fate.isUnlaunched = false ∧ fate.isFailedRun = false := by
  cases fate with
  | rejected fault => exact ⟨rfl, rfl, rfl⟩
  | unlaunched fault | ran answer => cases h

namespace Job

theorem mem_of_mem_limited {α : Type} {limit : Option Nat} {xs : List α} {x : α}
    (h : x ∈ limited limit xs) : x ∈ xs := by
  cases limit with
  | none => exact h
  | some n => exact List.mem_of_mem_take h

section Unwritable

variable {job : Job} {source : Source}

/-- Records that all are rejected are counted so, and nothing else is counted. -/
theorem summary_of_unwritable {engine : Engine σ} {session : Session σ} {s : Summary}
    (h : ∀ r ∈ limited job.options.limit source.records, job.Unwritable r)
    (hrun : (job.run engine session source.items).outcome = .ok s) :
    s.total = (limited job.options.limit source.records).length ∧ s.rejected = s.total ∧
      s.succeeded = 0 ∧ s.launchFailures = 0 ∧ s.executionFailures = 0 := by
  obtain ⟨created, -, -, hs⟩ := summary_of_run hrun
  have hitems : limited job.options.limit source.items = _ :=
    limited_ofRecords job.options.limit source.records source.fault?
  let fates := job.fates engine (job.begun engine session.engine)
    (limited job.options.limit source.records)
  have hrejected : ∀ x ∈ fates, x.2.isRejected = true := fates_of_unwritable h _
  have hlength : fates.length = (limited job.options.limit source.records).length := by
    rw [← List.length_map, map_fst_fates]
  have hnone : ∀ p : Fate → Bool, (∀ fate : Fate, fate.isRejected = true → p fate = false) →
      fates.countP (fun x => p x.2) = 0 := by
    intro p hp
    rw [List.countP_eq_zero]
    intro x hx
    simp [hp x.2 (hrejected x hx)]
  rw [hitems, Items.records_ofRecords, tally_fates] at hs
  rw [hs]
  refine ⟨hlength, ?_, hnone _ ?_, hnone _ ?_, hnone _ ?_⟩
  · exact List.countP_eq_length.mpr hrejected
  · exact fun _ hfate => (Fate.isRejected_only hfate).1
  · exact fun _ hfate => (Fate.isRejected_only hfate).2.1
  · exact fun _ hfate => (Fate.isRejected_only hfate).2.2

theorem conclude_isOk (engine : Engine σ) (p : Progress σ) :
    (conclude engine p).outcome.isOk = (engine.finish p.engine).1.isOk := by
  unfold conclude
  rcases engine.finish p.engine with ⟨fault | told, after⟩ <;> rfl

/-- A load of records that all are rejected comes to its end unless the create query is refused, the
fault of the source is met, or the engine fails at the end; the engine is told nothing between. -/
theorem loadSource_of_unwritable
    (h : ∀ r ∈ limited job.options.limit source.records, job.Unwritable r) (engine : Engine σ)
    (state : σ) :
    let fault :=
      if job.options.limit.any (· ≤ source.records.length) then none else source.fault?
    (job.loadSource engine state source).outcome.isOk = true ↔
      job.isRefused engine state = false ∧ fault = none ∧
        (engine.finish (job.begun engine state)).1.isOk = true := by
  intro fault
  change (job.run engine ⟨state, .schemaPending⟩ source.items).outcome.isOk = true ↔ _
  unfold run
  cases hrefused : job.isRefused engine state with
  | true =>
      obtain ⟨refusal, hcreate⟩ := (isRefused_iff job engine state).mp hrefused
      rw [runWith_of_refused hcreate]
      simp [Except.isOk, Except.toBool]
  | false =>
      obtain ⟨created, hcreate⟩ := (isRefused_eq_false_iff job engine state).mp hrefused
      have hload := loadItems_source job engine (job.opened engine state created) source
      change _ = (fault, _) at hload
      cases hfault : fault with
      | some met =>
          rw [hfault] at hload
          rw [runWith_of_stopped hcreate hload]
          simp [Except.isOk, Except.toBool]
      | none =>
          rw [hfault] at hload
          rw [runWith_of_through hcreate hload, conclude_isOk, foldl_loadRecord_of_unwritable h]
          simp [opened]

/-- Nor is the engine asked to insert any of them. -/
theorem calls_of_unwritable
    (h : ∀ r ∈ limited job.options.limit source.records, job.Unwritable r) (engine : Engine σ)
    (state : σ) :
    let fault :=
      if job.options.limit.any (· ≤ source.records.length) then none else source.fault?
    (job.loadSource engine.watched ⟨state, [], []⟩ source).session.engine.calls =
      job.createCalls ++
        (if job.isRefused engine state || fault.isSome then [] else [.finish]) := by
  intro fault
  cases hrefused : job.isRefused engine state with
  | true =>
      obtain ⟨refusal, hcreate⟩ := (isRefused_iff job engine state).mp hrefused
      let session : Session (Watched σ) := ⟨⟨state, [], []⟩, .schemaPending⟩
      have hwatched : (job.create engine.watched session.engine).1 = .error refusal :=
        (create_watched job engine ⟨state, .schemaPending⟩ []).trans hcreate
      have hbegun : job.begun engine.watched session.engine = _ := begun_watched job engine state []
      change (job.run engine.watched session source.items).session.engine.calls = _
      unfold run
      rw [runWith_of_refused hwatched, hbegun]
      exact (List.append_nil _).symm
  | false =>
      obtain ⟨hcalls, -⟩ := loadSource_watched job engine hrefused source
      rw [hcalls, insertCalls_of_unwritable h, List.append_nil]
      rfl

end Unwritable

/-- **Sources that lack columns.** A record has no value for a missing column exactly when no field
of its row beyond the header has the column's name as its number. If every row within the limit
leaves a missing column so, no record has a query: all are rejected, and the engine is asked for the
create query and told the end, and nothing else. -/
theorem loadSource_of_missing (job : Job) (engine : Engine σ) (state : σ) (source : Source)
    (h : ∀ row ∈ limited job.options.limit source.rows,
      ∃ name ∈ source.missingColumns job.target.schema,
        ¬ Source.IsExtra source.info.headers row name) :
    let missing := source.missingColumns job.target.schema
    let sent := limited job.options.limit source.records
    let fault :=
      if job.options.limit.any (· ≤ source.records.length) then none else source.fault?
    let run := job.loadSource engine.watched ⟨state, [], []⟩ source
    (∀ row ∈ source.rows, ∀ name ∈ missing,
        (Source.recordUnder source.info.headers row).get? name = none ↔
          ¬ Source.IsExtra source.info.headers row name) ∧
      (∀ r ∈ sent, ∃ reason,
        Query.insert job.target.schema job.target.name r = .error reason) ∧
      run.map Watched.engine = job.loadSource engine state source ∧
      run.session.engine.calls =
        job.createCalls ++
          (if job.isRefused engine state || fault.isSome then [] else [.finish]) ∧
      (missing ≠ [] → run.events.head? = some (.warning
        ("Header row lacks schema columns: " ++ ", ".intercalate missing ++
          " (those rows will be rejected)"))) ∧
      (run.outcome.isOk = true ↔
        job.isRefused engine state = false ∧ fault = none ∧
          (engine.finish (job.begun engine state)).1.isOk = true) ∧
      ∀ s, run.outcome = .ok s →
        s.total = sent.length ∧ s.rejected = s.total ∧ s.succeeded = 0 ∧
          s.launchFailures = 0 ∧ s.executionFailures = 0 := by
  intro missing sent fault run
  have habsent : ∀ row ∈ source.rows, ∀ name ∈ missing,
      (Source.recordUnder source.info.headers row).get? name = none ↔
        ¬ Source.IsExtra source.info.headers row name :=
    fun row _ name hname =>
      Source.get?_eq_none_iff (Source.mem_missingColumns.mp hname).2 row
  have hsent : sent = (limited job.options.limit source.rows).map
      (Source.recordUnder source.info.headers) := limited_map _ _ _
  have hunwritable : ∀ r ∈ sent, job.Unwritable r := by
    intro r hr
    rw [hsent] at hr
    obtain ⟨row, hrow, rfl⟩ := List.mem_map.mp hr
    obtain ⟨name, hname, hextra⟩ := h row hrow
    obtain ⟨⟨c, hc, rfl⟩, -⟩ := Source.mem_missingColumns.mp hname
    have hnone := (habsent row (mem_of_mem_limited hrow) c.name hname).mpr hextra
    exact Query.insert_eq_error job.target.name ⟨c, hc, hnone⟩
  have hmap : run.map Watched.engine = job.loadSource engine state source :=
    loadSource_map job engine.watched_projects _ source
  have houtcome : run.outcome = (job.loadSource engine state source).outcome :=
    congrArg Run.outcome hmap
  refine ⟨habsent, hunwritable, hmap, calls_of_unwritable hunwritable engine state, ?_, ?_, ?_⟩
  · intro hmissing
    have hwarned : columnWarnings missing = _ := if_neg (by simpa using hmissing)
    change (columnWarnings missing ++ _).head? = _
    rw [hwarned]
    rfl
  · rw [houtcome]
    exact loadSource_of_unwritable hunwritable engine state
  · intro s hs
    exact summary_of_unwritable hunwritable hs

/-- A table with a column that is called like the second field of a row without a header. -/
def numberedJob (rest : List Column)
    (sound : Schema.fault? (.plain "a" .int :: .plain "_2" .int :: rest) = none) : Job :=
  ⟨"demo.db", ⟨"notas", ⟨.plain "a" .int :: .plain "_2" .int :: rest, sound⟩, by decide⟩,
    ⟨true, none, 1⟩⟩

def willingEngine : Engine Unit where
  invoke _ _ _ := (.ok (.ok ""), ())
  finish _ := (.ok [], ())

def narrowSource : Source := ⟨⟨"utf-8", ',', ["a"]⟩, [⟨2, [[0x31]]⟩, ⟨3, [[0x31], [0x32]]⟩], none⟩

/-- Both rows leave the third column without a value, and the second one fills the numbered one. -/
theorem loadSource_of_narrow :
    let job := numberedJob [.plain "b" .int] (by decide)
    let run := job.loadSource willingEngine.watched ⟨(), [], []⟩ narrowSource
    narrowSource.missingColumns job.target.schema = ["_2", "b"] ∧
      narrowSource.records.map (·.get? "_2") = [none, some "2"] ∧
      narrowSource.records.map (·.get? "b") = [none, none] ∧
      run.session.engine.calls = job.createCalls ++ [.finish] ∧
      ∃ s, run.outcome = .ok s ∧ s.total = 2 ∧ s.rejected = 2 := by
  intro job run
  obtain ⟨-, -, -, hcalls, -, hends, hcounts⟩ :=
    loadSource_of_missing job willingEngine () narrowSource (by decide +kernel)
  refine ⟨by decide +kernel, by decide +kernel, by decide +kernel, hcalls, ?_⟩
  cases houtcome : run.outcome with
  | error fault =>
      have hok : run.outcome.isOk = true := hends.mpr ⟨rfl, rfl, rfl⟩
      rw [houtcome] at hok
      cases hok
  | ok s =>
      obtain ⟨htotal, hrejected, -⟩ := hcounts s houtcome
      exact ⟨s, rfl, htotal, hrejected.trans htotal⟩

/-- Without the third column the long row has a value for everything, and is loaded. -/
theorem loadSource_of_numbered :
    letI := Encoding.Katakana.decoders
    let job := numberedJob [] (by decide)
    let read := Source.ofReader ⟨some ',', some "utf-8"⟩
      ⟨Encoding.Utf8.encode "a\n1,2\n".toList, 0, [], none⟩
    let long : Source := ⟨⟨"utf-8", ',', ["a"]⟩, [⟨2, [[0x31], [0x32]]⟩], none⟩
    let run := job.loadSource willingEngine.watched ⟨(), [], []⟩ long
    read.toOption = some long ∧ long.missingColumns job.target.schema = ["_2"] ∧
      long.records.map (·.get? "_2") = [some "2"] ∧
      run.session.engine.calls =
        job.createCalls ++
          [.invoke "demo.db" ⟨"mete \x7b a: 1, _2: 2 \x7d en notas pe"⟩, .finish] ∧
      run.outcome.toOption = some ⟨1, 1, 0, 0, 0, true, [], 0⟩ := by
  let := Encoding.Katakana.decoders
  refine ⟨?_, ?_, ?_, ?_, ?_⟩ <;> decide +kernel

end Job

end BulkLoad
