import BulkLoad.Load.Files
import BulkLoad.Proofs.Load.Ends
import BulkLoad.Proofs.Load.FromSource
import BulkLoad.Proofs.Source.Reads

/-!
Loads whose input is read meanwhile.

Such a load goes round by round, and each round's block is read in the state that the records before
it left. Where the engine's states have no part in what is read, the rounds come to what one pass
over the source read out at once would do. A load over an input that its own engine keeps writing to
may never come to its end; then there is no run.
-/
namespace BulkLoad

variable [Encoding.EastAsian.Decoders]

namespace OpenSource

theorem failure?_of_running {s : OpenSource} (h : s.intake.isRunning = true) :
    s.intake.failure? = none := by
  rw [Intake.failure?, (Intake.isRunning_iff s.intake).mp h]

theorem items_of_running {s : OpenSource} (h : s.intake.isRunning = true) :
    s.items = Items.ofRecords s.records none := by
  rw [← items_soFar]
  unfold Source.items Source.fault? soFar
  rw [failure?_of_running h]
  rfl

end OpenSource

namespace Job

variable {σ : Type} {job : Job} {engine : Engine σ}

omit [Encoding.EastAsian.Decoders] in
theorem loadItems_append (p : Progress σ) (rs : List Record)
    (items : List (Except SourceFault Record)) :
    job.loadItems engine p (rs.map .ok ++ items) =
      job.loadItems engine (rs.foldl (job.loadRecord engine) p) items := by
  induction rs generalizing p with
  | nil => rfl
  | cons r rest ih => exact ih (job.loadRecord engine p r)

omit [Encoding.EastAsian.Decoders] in
theorem passed_reached (Reached : σ → Prop)
    (hstep : ∀ state r, Reached state → Reached (job.fate engine state r).2)
    (rs : List Record) {state : σ} (h : Reached state) : Reached (job.passed engine state rs) := by
  induction rs generalizing state with
  | nil => exact h
  | cons r rest ih => exact ih (hstep state r h)

variable (job engine) in
/-- The items that a source gives to a load by which it is read meanwhile, as far as so many are let
through. Each block is read in the state that the records before it left. There are none yet if the
input goes on after so many reads. -/
def arriving (read : σ → Nat → Stream.Answer) :
    Nat → Option Nat → OpenSource → σ → Option (List (Except SourceFault Record))
  | reads, left, source, state =>
    let there := limited left source.items
    let left := left.map (· - source.rows.length)
    if left = some 0 || !source.intake.isRunning then some there
    else
      match reads with
      | 0 => none
      | reads + 1 =>
        let state := job.passed engine state (Items.records there)
        (arriving read reads left (source.advance (read state source.intake.position)) state).map
          (there ++ ·)

/-- Whether nothing more is read, as so many records are still let through. -/
def isOver (left : Option Nat) (source : OpenSource) : Bool :=
  left.map (· - source.rows.length) = some 0 || !source.intake.isRunning

theorem isOver_of_settled (left : Option Nat) {source : OpenSource}
    (h : source.intake.isRunning = false) : isOver left source = true := by
  rw [isOver, h, Bool.not_false, Bool.or_true]

theorem running_of_not_over {left : Option Nat} {source : OpenSource}
    (h : isOver left source = false) : source.intake.isRunning = true := by
  simp only [isOver, Bool.or_eq_false_iff, Bool.not_eq_false'] at h
  exact h.2

section Arriving

variable {read : σ → Nat → Stream.Answer} {left : Option Nat} {source : OpenSource} {state : σ}

theorem arriving_of_over (h : isOver left source = true) (reads : Nat) :
    job.arriving engine read reads left source state = some (limited left source.items) := by
  unfold arriving
  exact if_pos h

theorem arriving_zero (h : isOver left source = false) :
    job.arriving engine read 0 left source state = none := by
  unfold arriving
  exact if_neg (ne_true_of_eq_false h)

/-- From a running source come the records that are there, and what the next block brings. -/
theorem arriving_step (h : isOver left source = false) (reads : Nat) :
    let there := limited left source.records
    let after := job.passed engine state there
    job.arriving engine read (reads + 1) left source state =
      (job.arriving engine read reads (left.map (· - source.records.length))
        (source.advance (read after source.intake.position)) after).map (there.map .ok ++ ·) := by
  intro there after
  have hitems : limited left source.items = there.map .ok := by
    rw [OpenSource.items_of_running (running_of_not_over h), Items.ofRecords_none, limited_map]
  have hrecords : Items.records (there.map .ok : List (Except SourceFault Record)) = there := by
    rw [← Items.ofRecords_none, Items.records_ofRecords]
  have hlength : source.rows.length = source.records.length := by
    simp only [OpenSource.records, List.length_map]
  rw [arriving]
  refine (if_neg (ne_true_of_eq_false h)).trans ?_
  simp only [hitems, hrecords, hlength]
  rfl

/-- The rounds of a load come to one pass over what arrives. -/
theorem loadRounds_eq (reads : Nat) (left : Option Nat) (source : OpenSource) (p : Progress σ) :
    job.loadRounds engine read reads left source p =
      (job.arriving engine read reads left source p.engine).map (job.loadItems engine p) := by
  have hover (reads : Nat) {left : Option Nat} {source : OpenSource} (p : Progress σ)
      (h : isOver left source = true) : job.loadRounds engine read reads left source p =
        some (job.loadItems engine p (limited left source.items)) := by
    unfold loadRounds
    rcases job.loadItems engine p (limited left source.items) with ⟨_ | fault, after⟩
    · exact if_pos h
    · rfl
  have hround {left : Option Nat} {source : OpenSource} (p : Progress σ)
      (h : isOver left source = false) : job.loadItems engine p (limited left source.items) =
        (none, (limited left source.records).foldl (job.loadRecord engine) p) := by
    rw [OpenSource.items_of_running (running_of_not_over h), Items.ofRecords_none, limited_map,
      ← Items.ofRecords_none, loadItems_eq, Items.records_ofRecords, Items.fault?_ofRecords]
  induction reads generalizing left source p with
  | zero =>
      cases h : isOver left source with
      | true => rw [hover 0 p h, arriving_of_over h]; rfl
      | false =>
          rw [arriving_zero h, loadRounds, hround p h]
          exact if_neg (ne_true_of_eq_false h)
  | succ reads ih =>
      cases h : isOver left source with
      | true => rw [hover _ p h, arriving_of_over h]; rfl
      | false =>
          have hlength : source.rows.length = source.records.length := by
            simp only [OpenSource.records, List.length_map]
          rw [arriving_step h, loadRounds, hround p h]
          refine (if_neg (ne_true_of_eq_false h)).trans ?_
          simp only [ih, hlength, Option.map_map, Function.comp_def, loadItems_append,
            foldl_loadRecord_engine]

theorem arriving_lasting (left : Option Nat) (source : OpenSource) (state : σ) :
    Lasting fun reads => job.arriving engine read reads left source state := by
  intro reads
  induction reads generalizing left source state with
  | zero =>
      intro items hitems
      cases h : isOver left source with
      | true =>
          simp only [arriving_of_over h] at hitems ⊢
          exact hitems
      | false => simp only [arriving_zero h, reduceCtorEq] at hitems
  | succ reads ih =>
      intro items hitems
      cases h : isOver left source with
      | true =>
          simp only [arriving_of_over h] at hitems ⊢
          exact hitems
      | false =>
          simp only [arriving_step h] at hitems ⊢
          obtain ⟨rest, hrest, rfl⟩ := Option.map_eq_some_iff.mp hitems
          exact Option.map_eq_some_iff.mpr ⟨rest, ih _ _ _ rest hrest, rfl⟩

/-- If in no state that the load reaches there is anything to read from some place on, all items
arrive. -/
theorem arriving_isSome (Reached : σ → Prop) {bound : Nat}
    (hend : ∀ state, Reached state → Stream.EndsBy (read state) bound)
    (hstep : ∀ state r, Reached state → Reached (job.fate engine state r).2)
    (left : Option Nat) (source : OpenSource) (hstate : Reached state) {reads : Nat}
    (hpos : 0 < reads) (hreads : bound < source.intake.position + reads) :
    (job.arriving engine read reads left source state).isSome = true := by
  induction reads generalizing left source state with
  | zero => exact absurd hpos (Nat.lt_irrefl 0)
  | succ reads ih =>
      cases h : isOver left source with
      | true =>
          rw [arriving_of_over h]
          rfl
      | false =>
          have hafter := passed_reached Reached hstep (limited left source.records) hstate
          rw [arriving_step h, Option.isSome_map]
          cases hnext : (source.advance (read _ source.intake.position)).intake.isRunning with
          | true =>
              obtain ⟨hplace, hlater⟩ := source.intake.take_before (hend _ hafter) hnext
              exact ih _ _ hafter (by omega) (Nat.lt_of_lt_of_le (by omega)
                (Nat.add_le_add_right hlater reads))
          | false =>
              rw [arriving_of_over (isOver_of_settled _ hnext)]
              rfl

/-- If no state that the load reaches has a part in what is read, what arrives are the items of the
source read out at once. -/
theorem arriving_of_readOut {still : Nat → Stream.Answer} (Reached : σ → Prop)
    (hread : ∀ state, Reached state → read state = still)
    (hstep : ∀ state r, Reached state → Reached (job.fate engine state r).2)
    (left : Option Nat) {source : OpenSource} (hstate : Reached state) {reads : Nat}
    {whole : Source} (h : source.readOut still reads [] = some whole) :
    job.arriving engine read reads left source state = some (limited left whole.items) := by
  -- By induction on the reads: each leaves a state in which the next block is the still one.
  induction reads generalizing left source state whole with
  | zero =>
      obtain ⟨-, ⟨hflow, rfl⟩ | ⟨-, _, _, hreads, -⟩⟩ := OpenSource.readOut_eq_some still h
      · rw [arriving_of_over (isOver_of_settled left hflow), OpenSource.items_soFar]
      · cases hreads
  | succ reads ih =>
      obtain ⟨-, ⟨hflow, rfl⟩ | ⟨hflow, before, rest, hreads, hrest, hitems⟩⟩ :=
        OpenSource.readOut_eq_some still h
      · rw [arriving_of_over (isOver_of_settled left hflow), OpenSource.items_soFar]
      · cases hreads
        have hsplit : limited left whole.items = (limited left source.records).map .ok ++
            limited (left.map (· - source.records.length)) rest.items := by
          rw [hitems, limited_append, limited_map, List.length_map]
        cases hover : isOver left source with
        | true =>
            have hnone : left.map (· - source.records.length) = some 0 := by
              simpa [isOver, hflow, OpenSource.records] using hover
            rw [arriving_of_over hover, OpenSource.items_of_running hflow, Items.ofRecords_none,
              limited_map, hsplit, hnone]
            exact congrArg some (List.append_nil _).symm
        | false =>
            have hafter := passed_reached Reached hstep (limited left source.records) hstate
            rw [arriving_step hover, hread _ hafter, ih _ hafter hrest, hsplit]
            rfl

end Arriving

section LoadOpen

variable {read : σ → Nat → Stream.Answer} {state : σ} {source : OpenSource} {reads : Nat}

theorem loadOpen_of_refused {fault : EngineFault}
    (h : (job.create engine state).1 = .error fault) :
    job.loadOpen engine state read reads source =
      some (job.warned source.info
        ⟨.error (.createTable fault), (job.create engine state).2.1,
          ⟨job.begun engine state, .schemaPending⟩⟩) := by
  unfold loadOpen
  rw [begin?_of_refused h]
  rfl

theorem loadOpen_of_opened {created : Bool} (h : (job.create engine state).1 = .ok created) :
    job.loadOpen engine state read reads source =
      (job.arriving engine read reads job.options.limit source (job.begun engine state)).map
        fun items => job.warned source.info
          (ended engine (job.loadItems engine (job.opened engine state created) items)) := by
  unfold loadOpen
  rw [begin?_of_opened h]
  simp only [loadRounds_eq, Option.map_map]
  rfl

/-- A load by which its source is read meanwhile ends as a run over what arrives. -/
theorem loadOpen_ends {run : Run σ}
    (h : job.loadOpen engine state read reads source = some run) :
    ∃ items, (job.isRefused engine state = false →
        job.arriving engine read reads job.options.limit source (job.begun engine state) =
          some items) ∧
      job.Ends engine ⟨state, .schemaPending⟩ items run.outcome run.session := by
  cases hcreate : (job.create engine state).1 with
  | error fault =>
      rw [loadOpen_of_refused hcreate, Option.some.injEq] at h
      subst h
      refine ⟨[], fun hopens => ?_, .refused hcreate⟩
      rw [(isRefused_iff job engine state).mpr ⟨fault, hcreate⟩] at hopens
      cases hopens
  | ok created =>
      rw [loadOpen_of_opened hcreate] at h
      obtain ⟨items, hitems, rfl⟩ := Option.map_eq_some_iff.mp h
      exact ⟨items, fun _ => hitems, ended_ends job engine ⟨state, .schemaPending⟩ hcreate items⟩

variable (job engine) in
theorem loadOpen_lasting (read : σ → Nat → Stream.Answer) (state : σ) (source : OpenSource) :
    Lasting fun reads => job.loadOpen engine state read reads source := by
  intro reads run h
  cases hcreate : (job.create engine state).1 with
  | error fault =>
      simp only [loadOpen_of_refused hcreate] at h ⊢
      exact h
  | ok created =>
      simp only [loadOpen_of_opened hcreate] at h ⊢
      exact (arriving_lasting _ _ _).map _ reads run h

/-- A load by which the items of another source arrive is the load of the other. -/
theorem loadOpen_of_arriving {sent : Source} (hinfo : sent.info = source.info)
    (h : job.arriving engine read reads job.options.limit source (job.begun engine state) =
      some (limited job.options.limit sent.items)) :
    job.loadOpen engine state read reads source = some (job.loadSource engine state sent) := by
  unfold loadSource run
  rw [hinfo]
  cases hcreate : (job.create engine state).1 with
  | error fault => rw [loadOpen_of_refused hcreate, runWith_of_refused hcreate]
  | ok created =>
      rw [loadOpen_of_opened hcreate, runWith_of_opened hcreate, h]
      rfl

/-- A source that is read meanwhile is loaded as if it had been read out before. -/
theorem loadOpen_of_readOut {still : Nat → Stream.Answer} (Reached : σ → Prop)
    (hread : ∀ state, Reached state → read state = still)
    (hstep : ∀ state r, Reached state → Reached (job.fate engine state r).2)
    (hstart : Reached (job.begun engine state)) {whole : Source}
    (h : source.readOut still reads [] = some whole) :
    job.loadOpen engine state read reads source =
      some (job.loadSource engine state whole) :=
  loadOpen_of_arriving (OpenSource.readOut_eq_some still h).1
    (arriving_of_readOut Reached hread hstep _ hstart h)

end LoadOpen

end Job

end BulkLoad
