import BulkLoad.CommandLine.Loading
import BulkLoad.Proofs.Load.Rounds
import BulkLoad.Proofs.Load.Scripted
import BulkLoad.Proofs.Workspace.Frame
import Mathlib.Data.List.TakeDrop

/-!
What a load into a script leaves behind.

While the script is written, whatever is read from elsewhere stays as it was, so the load goes as if
its source had been read out before. A script in the place of its input empties it; as long as its
lines are held back the input has no second block.
-/
namespace BulkLoad

namespace CommandLine

def Told.events (told : List Told) : List Event :=
  told.filterMap fun
    | .event e => some e
    | .text _ => none

theorem Told.events_append (front back : List Told) :
    events (front ++ back) = events front ++ events back :=
  List.filterMap_append

theorem Told.events_map (told : List Event) : events (told.map .event) = told := by
  rw [events, List.filterMap_map]
  exact List.filterMap_some

/-- Events that are told in two parts, with something between them that is none. -/
theorem Told.events_split (first : Event) (events : List Event) (p : Event → Bool)
    (bytes : List UInt8) :
    Told.events ((first :: (events.span p).1).map .event ++
      .text bytes :: (events.span p).2.map .event) = first :: events := by
  have hbetween (rest : List Told) : Told.events (.text bytes :: rest) = Told.events rest := rfl
  rw [Told.events_append, hbetween, Told.events_map, Told.events_map,
    List.span_eq_takeWhile_dropWhile, List.cons_append, List.takeWhile_append_dropWhile]

namespace LoadRequest

variable {job : Job} {path : String} {input file : Handle}
  {files created left : Workspace}

theorem begun_file (s : ScriptFile) : (job.begun ScriptFile.engine s).file = s.file := by
  unfold Job.begun
  split_ifs
  · exact ScriptFile.write_file s job.createQuery
  · rfl

theorem fate_file (s : ScriptFile) (r : Record) :
    (job.fate ScriptFile.engine s r).2.file = s.file := by
  unfold Job.fate
  cases Query.insert job.target.schema job.target.name r with
  | error fault => rfl
  | ok query => exact ScriptFile.write_file s query

/-- While a script is written, what is read from anything but its file stays as it was. -/
theorem block_script (hfile : files.create path = .ok (file, created))
    (hother : ∀ place, file = .file place → input ≠ .file place) {s : ScriptFile}
    (hs : s.file = file) :
    ScriptFile.block (created.truncate file) input s = files.block input := by
  funext position
  unfold ScriptFile.block Workspace.block
  rw [← Workspace.readAt_created hfile hother]
  congr 1
  cases input with
  | file place =>
      have hne : Handle.file place ≠ s.file := fun heq => hother place (hs ▸ heq.symm) rfl
      simp only [ScriptFile.readAt, hne, if_false]
  | device _ | directory _ => rfl

variable (job path) in
/-- A script that its file takes holds the lines of the queries, and what became of the records does
not depend on the file. -/
theorem scriptDelivery_of_written {sent : Source} (hlimit : job.options.limit = none)
    (hleft : (created.truncate file).writeAt file 0 (Script.lines (job.queries sent.records)) =
      .ok left) :
    let delivery := scriptDelivery path (created.truncate file)
      (job.loadSource ScriptFile.engine (.empty path file) sent)
    delivery.files = left ∧
      Event.complaints (Told.events delivery.told) =
        (sent.records.filterMap job.scriptFailure?).map (·.event) ∧
      delivery.outcome = job.scriptOutcome sent := by
  intro delivery
  have hroom : (ScriptFile.empty path file).file = .device .full →
      ∀ query ∈ job.queries sent.records, Script.hasBreak query.text = true := by
    intro hfull query hquery
    have hfile : file = .device .full := hfull
    rw [hfile, Workspace.writeAt] at hleft
    split_ifs at hleft with hnone
    exact Script.hasBreak_of_lines_eq_nil (List.isEmpty_iff.mp hnone) hquery
  obtain ⟨hlines, hcomplaints, houtcome⟩ :=
    Job.loaded_script sent (ScriptFile.empty_sound path file) hroom hlimit
  have hcontent :
      (job.loadSource ScriptFile.engine (.empty path file) sent).session.engine.content =
      Script.lines (job.queries sent.records) := hlines.content
  rw [← hcontent, ← show _ = file from hlines.file] at hleft
  simp only [delivery, scriptDelivery]
  refine ⟨ScriptFile.leave_eq hlines.sound (hlines.file ▸ hleft), ?_, houtcome⟩
  rw [Told.between, Told.events_split, Event.complaints_cons rfl, hcomplaints]

section ToScript

variable [Encoding.EastAsian.Decoders] {source : OpenSource} {whole : Source} {reads : Nat}

theorem toScript_of_created (hfile : files.create path = .ok (file, created)) :
    toScript path job input source files reads =
      (job.loadOpen ScriptFile.engine (.empty path file)
        (ScriptFile.block (created.truncate file) input) reads source).map
          (scriptDelivery path (created.truncate file)) := by
  have hcreate : ScriptFile.create files path =
      .ok (.empty path file, created.truncate file) := by
    rw [ScriptFile.create, hfile]
  simp only [toScript, hcreate]

variable (job) in
/-- A script that is not in the place of its input is loaded from the source as it is read out. -/
theorem toScript_of_readOut (hfile : files.create path = .ok (file, created))
    (hother : ∀ place, file = .file place → input ≠ .file place)
    (hwhole : source.readOut (files.block input) reads [] = some whole) :
    toScript path job input source files reads =
      some (scriptDelivery path (created.truncate file)
        (job.loadSource ScriptFile.engine (.empty path file) whole)) := by
  have hopen : job.loadOpen ScriptFile.engine (.empty path file)
      (ScriptFile.block (created.truncate file) input) reads source =
        some (job.loadSource ScriptFile.engine (.empty path file) whole) :=
    Job.loadOpen_of_readOut (·.file = file) (fun s hs => block_script hfile hother hs)
      (fun s r hs => (fate_file s r).trans hs) (begun_file (.empty path file)) hwhole
  rw [toScript_of_created hfile, hopen, Option.map_some]

end ToScript

theorem begun_waiting (job : Job) {s : ScriptFile} (h : s.Waiting) :
    (job.begun ScriptFile.engine s).Waiting := by
  unfold Job.begun
  split_ifs
  · exact ScriptFile.write_waiting h job.createQuery
  · exact h

theorem fate_waiting (job : Job) {s : ScriptFile} (h : s.Waiting) (r : Record) :
    (job.fate ScriptFile.engine s r).2.Waiting := by
  unfold Job.fate
  cases Query.insert job.target.schema job.target.name r with
  | error fault => exact h
  | ok query => exact ScriptFile.write_waiting h query

/-- Lines that may all be held back are held back: nothing is in the file before the script ends. -/
theorem bytes_of_short (job : Job) (path : String) (hfile : file ≠ .device .full)
    {rs : List Record} (hshort : (Script.lines (job.queries rs)).length < ScriptFile.capacity) :
    (job.passed ScriptFile.engine (job.begun ScriptFile.engine (.empty path file)) rs).bytes =
      [] := by
  have hstart : (ScriptFile.empty path file).Waiting := ScriptFile.empty_waiting path hfile
  have hbegun := begun_waiting job hstart
  have hended := Job.passed_reached ScriptFile.Waiting (fun s r hs => fate_waiting job hs r) rs
    hbegun
  obtain ⟨-, hcreated⟩ := job.begun_script hstart.sound fun hfull => absurd hfull hstart.file
  obtain ⟨-, hloaded⟩ := job.fates_script rs hbegun.sound fun hfull => absurd hfull hbegun.file
  have hcontent := (hcreated.trans hloaded).content
  rw [← Script.lines_append] at hcontent
  change _ = Script.lines (job.queries rs) at hcontent
  rcases hended.patient with hfull | hnone
  · rw [hcontent] at hfull
    exact absurd hshort (Nat.not_lt.mpr hfull)
  · exact hnone

/-- A script in the place of its input: if its lines are held back the file is still empty when the
second block is asked for, so the rows that were there are all. -/
theorem toScript_over_input [Encoding.EastAsian.Decoders] {source : OpenSource} (job : Job)
    {place : List String} (hlimit : job.options.limit = none)
    (hfile : files.create path = .ok (.file place, created))
    (hrunning : source.intake.isRunning = true)
    (hshort : (Script.lines (job.queries source.records)).length < ScriptFile.capacity)
    (reads : Nat) :
    let next := source.advance (.ok [])
    next.items = [] →
      toScript path job (.file place) source files (reads + 1) =
        some (scriptDelivery path (created.truncate (.file place))
          (job.loadSource ScriptFile.engine (.empty path (.file place)) source.soFar)) := by
  intro next hnone
  let start := ScriptFile.empty path (.file place)
  let after := job.passed ScriptFile.engine (job.begun ScriptFile.engine start) source.records
  have hheld : after.bytes = [] := bytes_of_short job path (by rintro ⟨⟩) hshort
  have hplace : after.file = .file place :=
    Job.passed_reached (·.file = .file place) (fun s r hs => (fate_file s r).trans hs)
      source.records (begun_file start)
  -- Wherever the second block is asked for, the file has nothing there yet.
  have hread (position : Nat) :
      ScriptFile.block (created.truncate (.file place)) (.file place) after position =
        .ok [] := by
    simp only [ScriptFile.block, ScriptFile.readAt, hplace, if_true, hheld, List.drop_nil,
      List.take_nil]
    rfl
  have hsettled : next.intake.isRunning = false := source.intake.takeEnd_settled
  have harriving : job.arriving ScriptFile.engine
      (ScriptFile.block (created.truncate (.file place)) (.file place)) (reads + 1) none source
        (job.begun ScriptFile.engine start) = some (Job.limited none source.soFar.items) := by
    have hover : Job.isOver none source = false := by
      rw [Job.isOver, hrunning]
      rfl
    rw [Job.arriving_step hover]
    change (Job.arriving _ _ _ _ _ (source.advance (ScriptFile.block _ _ after _)) _).map _ = _
    rw [hread, Job.arriving_of_over (Job.isOver_of_settled _ hsettled), hnone,
      OpenSource.items_soFar, OpenSource.items_of_running hrunning, Items.ofRecords_none]
    exact congrArg some (List.append_nil _)
  rw [toScript_of_created hfile,
    Job.loadOpen_of_arriving rfl (hlimit.symm ▸ harriving), Option.map_some]

theorem run_of_delivery [Encoding.EastAsian.Decoders] {r : LoadRequest} {s : Surroundings}
    {target : Definition} {source : OpenSource} {delivery : Delivery} {reads : Nat}
    (htarget : r.target.resolve s.files = .ok target)
    (hsource : r.input.openSource r.source (r.target.filesAfter s.files) reads =
      some (.ok (input, source)))
    (hdelivery : r.deliver target input source (r.target.filesAfter s.files) s reads =
      some delivery) :
    r.run s reads = some (r.finish target source.info s delivery) := by
  simp only [run, htarget, hsource, hdelivery, Option.map_some]

/-- The status with which a load ends whose outcome is told but not reported. -/
def exitOf (r : LoadRequest) (outcome : Except LoadFault Summary) : Nat :=
  match outcome with
  | .error _ => Ending.failure
  | .ok summary => r.status summary

/-- The end of a load without a report, as its delivery went. -/
theorem finish_of_unreported {r : LoadRequest} (hreport : r.report = none) (target : Definition)
    (info : SourceInfo) (s : Surroundings) (delivery : Delivery) :
    let ending := r.finish target info s delivery
    ending.files = delivery.files ∧
      Event.complaints (Told.events ending.told) =
        Event.complaints (Told.events delivery.told) ∧
      ending.status = r.exitOf delivery.outcome := by
  intro ending
  simp only [ending, finish]
  -- What is told about the opening and about the summary is no complaint.
  have hfront (rest : List Told) :
      Event.complaints (Told.events
        (.event r.input.opening :: .event (Input.found info) :: rest)) =
          Event.complaints (Told.events rest) := by
    have hopening : r.input.opening.isComplaint = false := by cases r.input <;> rfl
    have hfound : (Input.found info).isComplaint = false := rfl
    change Event.complaints (r.input.opening :: Input.found info :: Told.events rest) = _
    rw [Event.complaints_cons hopening, Event.complaints_cons hfound]
  cases houtcome : delivery.outcome with
  | error fault =>
      simp only [Ending.failed, List.cons_append, hfront, exitOf, true_and, and_true]
      rw [Told.events_append, Event.complaints_append]
      exact List.append_nil _
  | ok summary =>
      have htold : Event.complaints (told summary) = [] := by
        unfold told
        split_ifs <;> rfl
      simp only [conclude, hreport, List.cons_append, hfront, exitOf, true_and, and_true]
      rw [Told.events_append, Event.complaints_append, Told.events_map, htold, List.append_nil]

end LoadRequest

end CommandLine

end BulkLoad
