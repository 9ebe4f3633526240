import BulkLoad.Load.Summary
import BulkLoad.Proofs.Json.Members

/-!
The text of a report read back.

A report says what was loaded, where and when, how many records fared how, and which of them did not
load and why. All of this is read back from its text, whatever the texts in it are made of, if 64
bits hold its numbers.
-/
namespace BulkLoad

open Json

def FailureKind.ofWord? : String → Option FailureKind
  | "missing_field" => some .missingField
  | "unrepresentable_value" => some .unrepresentableValue
  | "engine_launch" => some .engineLaunch
  | "engine_execution" => some .engineExecution
  | _ => none

namespace RecordFailure

def ofJson? (v : Json) : Option RecordFailure := do
  let line ← v.member? natural? "line"
  let key ← v.member? optionalText? "key"
  let kind ← (v.member? text? "kind").bind FailureKind.ofWord?
  let message ← v.member? text? "message"
  return ⟨line, key, kind, message⟩

theorem readable_toJson {f : RecordFailure} (h : f.line < Decimal.wordBound) (depth : Nat) :
    Readable (depth + 1) f.toJson := by
  apply Readable.object
  simp only [List.forall_mem_cons, List.not_mem_nil, false_implies, implies_true, and_true]
  exact ⟨readable_nat h depth, readable_optional f.key depth, .string depth _,
    .string depth _⟩

theorem ofJson?_ordered (f : RecordFailure) : ofJson? f.toJson.ordered = some f := by
  have hkind : FailureKind.ofWord? f.kind.word = some f.kind := by
    cases f.kind <;> rfl
  rw [toJson]
  simp [ofJson?, member?_ordered, lookup_cons, natural?_nat, optionalText?_optional, text?_string,
    hkind]

end RecordFailure

namespace Summary

structure InWords (s : Summary) : Prop where
  counts : ∀ n ∈ [s.total, s.succeeded, s.rejected, s.launchFailures, s.executionFailures,
    s.failuresOmitted], n < Decimal.wordBound
  lines : ∀ f ∈ s.failures, f.line < Decimal.wordBound

def ofJson? (v : Json) : Option Summary := do
  let total ← v.member? natural? "total"
  let succeeded ← v.member? natural? "succeeded"
  let rejected ← v.member? natural? "rejected"
  let launchFailures ← v.member? natural? "launchFailures"
  let executionFailures ← v.member? natural? "executionFailures"
  let tableCreated ← v.member? truth? "tableCreated"
  let failures ← v.member? (list? RecordFailure.ofJson?) "failures"
  let failuresOmitted ← v.member? natural? "failuresOmitted"
  return ⟨total, succeeded, rejected, launchFailures, executionFailures, tableCreated, failures,
    failuresOmitted⟩

theorem readable_toJson {s : Summary} (h : s.InWords) (depth : Nat) :
    Readable (depth + 3) s.toJson := by
  have hcounts := h.counts
  simp only [List.forall_mem_cons, List.not_mem_nil, false_implies, implies_true, and_true]
    at hcounts
  obtain ⟨htotal, hsucceeded, hrejected, hlaunch, hexecution, homitted⟩ := hcounts
  have hfailures : Readable (depth + 2) (.array (s.failures.map RecordFailure.toJson)) := by
    apply Readable.array
    intro item hitem
    obtain ⟨f, hf, rfl⟩ := List.mem_map.mp hitem
    exact RecordFailure.readable_toJson (h.lines f hf) depth
  apply Readable.object
  simp only [List.forall_mem_cons, List.not_mem_nil, false_implies, implies_true, and_true]
  exact ⟨readable_nat htotal _, readable_nat hsucceeded _, readable_nat hrejected _,
    readable_nat hlaunch _, readable_nat hexecution _, .bool _ _, hfailures,
    readable_nat homitted _⟩

theorem ofJson?_ordered (s : Summary) : ofJson? s.toJson.ordered = some s := by
  have hfailures := list?_map fun f (_ : f ∈ s.failures) => f.ofJson?_ordered
  rw [toJson]
  simp [ofJson?, member?_ordered, lookup_cons, natural?_nat, truth?_bool, hfailures]

end Summary

namespace Report

structure Contents where
  runId : String
  startedAt : String
  finishedAt : String
  database : String
  table : String
  input : Option String
  summary : Summary
  deriving DecidableEq, Repr

def contents (r : Report) : Contents :=
  ⟨r.runId, r.startedAt.text, r.finishedAt.text, r.database, r.table, r.input, r.summary⟩

def Contents.ofJson? (v : Json) : Option Contents := do
  let runId ← v.member? text? "runId"
  let startedAt ← v.member? text? "startedAt"
  let finishedAt ← v.member? text? "finishedAt"
  let database ← v.member? text? "database"
  let table ← v.member? text? "table"
  let input ← v.member? optionalText? "input"
  let summary ← v.member? Summary.ofJson? "summary"
  return ⟨runId, startedAt, finishedAt, database, table, input, summary⟩

theorem readable_toJson {r : Report} (h : r.summary.InWords) (depth : Nat) :
    Readable (depth + 4) r.toJson := by
  apply Readable.object
  simp only [List.forall_mem_cons, List.not_mem_nil, false_implies, implies_true, and_true]
  exact ⟨.string _ _, .string _ _, .string _ _, .string _ _, .string _ _,
    readable_optional r.input _, Summary.readable_toJson h depth⟩

theorem contents_ordered (r : Report) : Contents.ofJson? r.toJson.ordered = some r.contents := by
  rw [toJson]
  simp [Contents.ofJson?, member?_ordered, lookup_cons, text?_string, optionalText?_optional,
    Summary.ofJson?_ordered, contents]

/-- The text of a report is read as an object from which its contents are recovered. -/
theorem parse_text {r : Report} (h : r.summary.InWords) :
    ∃ members, Json.parse r.text = .ok (.object members) ∧
      Contents.ofJson? (.object members) = some r.contents := by
  have hparse : Json.parse r.text = .ok r.toJson.ordered :=
    parse_pretty (readable_toJson h 123)
  exact ⟨_, hparse, r.contents_ordered⟩

/-- **Reports lose nothing.** The text of a report is JSON for an object from which its run, its
times, the database, the table, the input and the whole summary with every listed failure are read
back. So reports that differ in any of these have different texts. -/
theorem contents_of_text (r : Report) (h : r.summary.InWords) :
    (∃ members, Json.parse r.text = .ok (.object members) ∧
      Contents.ofJson? (.object members) = some r.contents) ∧
      ∀ other : Report, other.summary.InWords →
        other.contents ≠ r.contents → other.text ≠ r.text := by
  refine ⟨parse_text h, ?_⟩
  intro other hother hdiffers htext
  obtain ⟨members, hparse, hread⟩ := parse_text h
  obtain ⟨members', hparse', hread'⟩ := parse_text hother
  rw [htext, hparse] at hparse'
  cases hparse'
  exact hdiffers (Option.some.inj (hread'.symm.trans hread))

def tangledReport : Report where
  runId := "1"
  startedAt := ⟨0, 0⟩
  finishedAt := ⟨86400, 500000000⟩
  database := "\"demo\".db"
  table := "notas"
  input := some "C:\\datos\n2020.csv"
  summary :=
    { total := 18446744073709551615
      succeeded := 18446744073709551613
      rejected := 1
      launchFailures := 1
      executionFailures := 0
      tableCreated := true
      failures :=
        [ ⟨2, some "codigo=\",\x00\x1f\x7f", .missingField, "línea 1\r\nlínea 2\t\\u0041"⟩,
          ⟨18446744073709551615, none, .engineLaunch, ""⟩ ]
      failuresOmitted := 0 }

theorem contents_of_tangledText :
    tangledReport.summary.InWords ∧
      (∃ members, Json.parse tangledReport.text = .ok (.object members) ∧
        Contents.ofJson? (.object members) = some tangledReport.contents) ∧
      { tangledReport with input := none }.text ≠ tangledReport.text := by
  have hwords : tangledReport.summary.InWords := by
    constructor <;> simp [tangledReport, Decimal.wordBound]
  obtain ⟨hread, hother⟩ := contents_of_text tangledReport hwords
  have hdiffers : { tangledReport with input := none }.contents ≠ tangledReport.contents := by
    simp [contents, tangledReport]
  exact ⟨hwords, hread, hother { tangledReport with input := none } hwords hdiffers⟩

end Report

end BulkLoad
