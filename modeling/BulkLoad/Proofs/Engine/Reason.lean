import BulkLoad.Engine.Basic
import BulkLoad.Proofs.Decimal.Numerals
import BulkLoad.Proofs.Text.Lines

/-!
Why a run of the engine is taken for failed, on one line.

A reason is a headline, which says how the run ended, and a detail, which is the last line of what
the run printed. The status in the headline stops where no number goes on, so the exit code and the
mark of a failure can be told from the reason whatever the detail imitates.
-/
namespace BulkLoad

def Decimal.isSigned (c : Char) : Bool := c.isDigit || c == '+' || c == '-'

theorem Decimal.isSigned_of_mem {z : Int} {c : Char} (hc : c ∈ (intText z).toList) :
    isSigned c = true := by
  rcases (denotes_intText z).mem hc with hdigit | rfl | rfl
  · simp [isSigned, hdigit]
  · rfl
  · rfl

/-- Where no number goes on behind them, numerals that begin two equal texts are of one number. -/
theorem Decimal.eq_of_intText_append {y z : Int} {rest rest' : List Char}
    (hrest : Text.Stops isSigned rest) (hrest' : Text.Stops isSigned rest')
    (h : (intText y).toList ++ rest = (intText z).toList ++ rest') : y = z := by
  have hy := (Text.span_append (fun c => isSigned_of_mem (z := y)) hrest).1
  have hz := (Text.span_append (fun c => isSigned_of_mem (z := z)) hrest').1
  rw [h, hz] at hy
  exact (intText_injective (String.toList_inj.mp hy)).symm

namespace Invocation

def headline (i : Invocation) : String :=
  if i.flagged then "engine reported an error (" ++ i.status ++ ")" else i.status

theorem failureReason_eq (i : Invocation) :
    i.failureReason = if i.detail.isEmpty then i.headline else i.headline ++ ": " ++ i.detail := rfl

theorem detail_of_errors {i : Invocation} (h : Text.allBlank i.errors = false) :
    Text.EndsIn i.errors i.detail := by
  obtain ⟨line, hline, hends⟩ := Text.endsIn_of_not_blank h
  have hdetail : i.detail = line := by
    rw [detail, List.find?_cons_of_pos (by rw [Text.isEmpty_trim, h]; rfl)]
    simp only [hline, Option.getD_some]
  rwa [hdetail]

theorem detail_of_output {i : Invocation} (hblank : Text.allBlank i.errors = true)
    (h : Text.allBlank i.output = false) : Text.EndsIn i.output i.detail := by
  obtain ⟨line, hline, hends⟩ := Text.endsIn_of_not_blank h
  have hdetail : i.detail = line := by
    rw [detail, List.find?_cons_of_neg (by simp [Text.isEmpty_trim, hblank]),
      List.find?_cons_of_pos (by rw [Text.isEmpty_trim, h]; rfl)]
    simp only [hline, Option.getD_some]
  rwa [hdetail]

theorem detail_of_blank {i : Invocation} (herrors : Text.allBlank i.errors = true)
    (houtput : Text.allBlank i.output = true) : i.detail = "" := by
  rw [detail, List.find?_cons_of_neg (by simp [Text.isEmpty_trim, herrors]),
    List.find?_cons_of_neg (by simp [Text.isEmpty_trim, houtput])]
  rfl

/-- The detail is the last line of one of the texts, or there is none. -/
theorem detail_cases (i : Invocation) :
    i.detail = "" ∨ ∃ text, Text.EndsIn text i.detail := by
  cases herrors : Text.allBlank i.errors with
  | false => exact .inr ⟨_, detail_of_errors herrors⟩
  | true =>
      cases houtput : Text.allBlank i.output with
      | false => exact .inr ⟨_, detail_of_output herrors houtput⟩
      | true => exact .inl (detail_of_blank herrors houtput)

theorem failureReason_of_endsIn {i : Invocation} {text : String} (h : Text.EndsIn text i.detail) :
    i.failureReason = i.headline ++ ": " ++ i.detail := by
  have hne : ¬ i.detail.isEmpty = true := by
    rw [String.isEmpty_iff]
    intro hempty
    exact h.nonempty (by rw [hempty]; rfl)
  rw [failureReason_eq, if_neg hne]

def before (i : Invocation) : List Char :=
  if i.flagged then "engine reported an error (".toList else []

def after (i : Invocation) : List Char :=
  (if i.flagged then [')'] else []) ++
    if i.detail.isEmpty then [] else ": ".toList ++ i.detail.toList

theorem failureReason_toList (i : Invocation) :
    i.failureReason.toList = i.before ++ (i.status.toList ++ i.after) := by
  rw [failureReason_eq, headline, before, after]
  cases i.flagged <;> cases i.detail.isEmpty <;> simp

theorem not_mem_before (i : Invocation) : '\n' ∉ i.before := by
  rw [before]
  split <;> decide

theorem not_mem_status (i : Invocation) : '\n' ∉ i.status.toList := by
  rw [status]
  split
  · rw [String.toList_append, List.mem_append]
    rintro (hword | hcode)
    · exact absurd hword (by decide)
    · exact absurd (Decimal.isSigned_of_mem hcode) (by decide)
  · decide

theorem not_mem_after (i : Invocation) : '\n' ∉ i.after := by
  have hdetail : '\n' ∉ i.detail.toList := by
    rcases i.detail_cases with hnone | ⟨text, hends⟩
    · rw [hnone]
      decide
    · obtain ⟨core, -, hbehind⟩ := hends.behind
      exact hbehind.lineless
  rw [after]
  cases i.flagged <;> cases i.detail.isEmpty <;> simp [hdetail]

theorem not_mem_failureReason (i : Invocation) : '\n' ∉ i.failureReason.toList := by
  rw [failureReason_toList, List.mem_append, List.mem_append]
  rintro (hbefore | hstatus | hafter)
  · exact i.not_mem_before hbefore
  · exact i.not_mem_status hstatus
  · exact i.not_mem_after hafter

theorem stops_after (i : Invocation) : Text.Stops Decimal.isSigned i.after := by
  rw [after]
  cases i.flagged
  · cases i.detail.isEmpty
    · exact Text.stops_cons rfl _
    · exact Text.stops_nil
  · exact Text.stops_cons rfl _

/-- Where no number goes on behind it, a status tells the exit code. -/
theorem exitCode_of_status {i j : Invocation} {rest rest' : List Char}
    (hrest : Text.Stops Decimal.isSigned rest) (hrest' : Text.Stops Decimal.isSigned rest')
    (h : i.status.toList ++ rest = j.status.toList ++ rest') : i.exitCode = j.exitCode := by
  have htext : ∀ code : Int, ("exit status " ++ Decimal.intText code).toList =
      "exit status ".toList ++ (Decimal.intText code).toList :=
    fun code => String.toList_append
  cases hi : i.exitCode with
  | none =>
      cases hj : j.exitCode with
      | none => rfl
      | some code => simp [status, hi, hj] at h
  | some code =>
      cases hj : j.exitCode with
      | none => simp [status, hi, hj] at h
      | some code' =>
          rw [status, status, hi, hj] at h
          simp only [htext, List.append_assoc] at h
          rw [Decimal.eq_of_intText_append hrest hrest' (List.append_cancel_left h)]

/-- A status does not begin like the headline of a flagged run. -/
theorem status_ne_opening (i : Invocation) (rest rest' : List Char) :
    i.status.toList ++ rest ≠ "engine reported an error (".toList ++ rest' := by
  rw [status]
  split <;> simp

/-- A reason tells how the run ended and whether it was flagged. -/
theorem eq_of_failureReason {i j : Invocation} (h : i.failureReason = j.failureReason) :
    i.exitCode = j.exitCode ∧ i.flagged = j.flagged := by
  have hlist := congrArg String.toList h
  rw [failureReason_toList, failureReason_toList, before, before] at hlist
  cases hi : i.flagged <;> cases hj : j.flagged <;> simp only [hi, hj] at hlist
  · exact ⟨exitCode_of_status i.stops_after j.stops_after hlist, rfl⟩
  · exact absurd hlist (status_ne_opening i _ _)
  · exact absurd hlist.symm (status_ne_opening j _ _)
  · have hrest := List.append_cancel_left hlist
    exact ⟨exitCode_of_status i.stops_after j.stops_after hrest, rfl⟩

/-- **A reason is one informative line.** It holds no line feed. It is the headline, a colon and the
line in which the errors end, or the output if the errors are blank, and the headline alone if both
are. The status in the headline names the exit code or the signal, and no two runs that ended in
different ways, or of which one was flagged, have the same reason. -/
theorem failureReason_one_line (i : Invocation) :
    '\n' ∉ i.failureReason.toList ∧
      (Text.allBlank i.errors = false →
        ∃ line, Text.EndsIn i.errors line ∧ i.failureReason = i.headline ++ ": " ++ line) ∧
      (Text.allBlank i.errors = true → Text.allBlank i.output = false →
        ∃ line, Text.EndsIn i.output line ∧ i.failureReason = i.headline ++ ": " ++ line) ∧
      (Text.allBlank i.errors = true → Text.allBlank i.output = true →
        i.failureReason = i.headline) ∧
      (∀ code, i.exitCode = some code →
        ∃ numeral : String, Decimal.Denotes numeral.toList code ∧
          i.status = "exit status " ++ numeral) ∧
      (i.exitCode = none → i.status = "terminated by signal") ∧
      ∀ j : Invocation, j.failureReason = i.failureReason →
        j.exitCode = i.exitCode ∧ j.flagged = i.flagged := by
  refine ⟨i.not_mem_failureReason, ?_, ?_, ?_, ?_, ?_, fun j => eq_of_failureReason⟩
  · intro herrors
    have hends := detail_of_errors herrors
    exact ⟨i.detail, hends, failureReason_of_endsIn hends⟩
  · intro herrors houtput
    have hends := detail_of_output herrors houtput
    exact ⟨i.detail, hends, failureReason_of_endsIn hends⟩
  · intro herrors houtput
    rw [failureReason_eq, detail_of_blank herrors houtput]
    rfl
  · intro code hcode
    exact ⟨Decimal.intText code, Decimal.denotes_intText code, by rw [status, hcode]⟩
  · intro hsignal
    rw [status, hsignal]

/-- A flagged run that ended with a negative code and printed errors over two lines, blanks around
them. -/
def tracedRun : Invocation :=
  ⟨some (-1), "ok\n", "\u00a0boom: 7\r\n  at: line 2\t\r\n\u2003", true⟩

/-- A run that a signal ended, whose output imitates a status. -/
def mimickedRun : Invocation := ⟨none, "rows\n\nexit status 7\n", " \n\t", false⟩

def silentRun : Invocation := ⟨some 3, "\n", "", false⟩

theorem failureReason_one_line_samples :
    Text.allBlank tracedRun.errors = false ∧
      (∃ line, Text.EndsIn tracedRun.errors line ∧
        tracedRun.failureReason = "engine reported an error (exit status -1): " ++ line) ∧
      tracedRun.failureReason = "engine reported an error (exit status -1):   at: line 2" ∧
      Text.allBlank mimickedRun.errors = true ∧ Text.allBlank mimickedRun.output = false ∧
      (∃ line, Text.EndsIn mimickedRun.output line ∧
        mimickedRun.failureReason = "terminated by signal: " ++ line) ∧
      mimickedRun.failureReason = "terminated by signal: exit status 7" ∧
      Text.allBlank silentRun.errors = true ∧ Text.allBlank silentRun.output = true ∧
      silentRun.failureReason = "exit status 3" := by
  obtain ⟨-, htraced, -⟩ := failureReason_one_line tracedRun
  obtain ⟨-, -, hmimicked, -⟩ := failureReason_one_line mimickedRun
  obtain ⟨-, -, -, hsilent, -⟩ := failureReason_one_line silentRun
  have htracedErrors : Text.allBlank tracedRun.errors = false := by decide
  have hmimickedErrors : Text.allBlank mimickedRun.errors = true := by decide
  have hmimickedOutput : Text.allBlank mimickedRun.output = false := by decide
  have hsilentErrors : Text.allBlank silentRun.errors = true := by decide
  have hsilentOutput : Text.allBlank silentRun.output = true := by decide
  have htracedHeadline : tracedRun.headline ++ ": " =
      "engine reported an error (exit status -1): " := by decide +kernel
  have hmimickedHeadline : mimickedRun.headline ++ ": " = "terminated by signal: " := by decide
  have hsilentHeadline : silentRun.headline = "exit status 3" := by decide +kernel
  rw [htracedHeadline] at htraced
  rw [hmimickedHeadline] at hmimicked
  exact ⟨htracedErrors, htraced htracedErrors, by decide +kernel, hmimickedErrors, hmimickedOutput,
    hmimicked hmimickedErrors hmimickedOutput, by decide +kernel, hsilentErrors, hsilentOutput,
    (hsilent hsilentErrors hsilentOutput).trans hsilentHeadline⟩

end Invocation

end BulkLoad
