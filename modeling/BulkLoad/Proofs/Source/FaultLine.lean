import BulkLoad.Proofs.Source.Interruption
import BulkLoad.Proofs.Source.Lines

/-!
The line that a failure of the stream is put on.

The lines of records count from one and come up to the line on which the stream broke. The failure
is not among them: only the read that takes the sample has a line, the first, and every later
failure is put on line zero, before all records.
-/
namespace BulkLoad

open BulkLoad.Stream (Feed Reader)
open Delimited (lineAt lineFeed)

namespace Delimited

theorem lineAt_le (bytes : List UInt8) (place : Nat) :
    lineAt bytes place ≤ lineAt bytes bytes.length := by
  have hfront := (List.take_prefix place bytes).sublist.count_le lineFeed
  rw [lineAt, lineAt, List.take_length]
  omega

theorem lineAt_drop_le (bytes : List UInt8) (n : Nat) :
    lineAt (bytes.drop n) (bytes.drop n).length ≤ lineAt bytes bytes.length := by
  have hback := (List.drop_suffix n bytes).sublist.count_le lineFeed
  rw [lineAt, lineAt, List.take_length, List.take_length]
  omega

/-- The lines of rows count from one up to the line on which the bytes end. -/
theorem line_of_row {delimiter : UInt8} {bytes : List UInt8} {row : Row}
    (h : row ∈ rowsOf delimiter bytes true) :
    0 < row.line ∧ row.line ≤ lineAt bytes bytes.length := by
  have hline := (map_line_rowsOf delimiter bytes).subset (List.mem_map_of_mem h)
  obtain ⟨sought, -, hsought⟩ := List.mem_map.mp hline
  rw [← hsought]
  exact ⟨Nat.succ_pos _, lineAt_le bytes sought⟩

theorem line_of_terminated {delimiter : UInt8} {pieces : List (List UInt8)} {ending : Nat × Row}
    (h : ending ∈ terminated delimiter pieces) :
    0 < ending.2.line ∧ ending.2.line ≤ lineAt pieces.flatten pieces.flatten.length := by
  have hrow : ending.2 ∈ rowsOf delimiter (unmarked pieces) true := by
    rw [rowsOf_eq delimiter (skipped pieces)]
    exact List.mem_append_left _ (List.mem_map_of_mem h)
  obtain ⟨hpos, hle⟩ := line_of_row hrow
  rw [unmarked_eq_drop] at hle
  exact ⟨hpos, hle.trans (lineAt_drop_le _ _)⟩

end Delimited

namespace Source

def Tells (opened : Except SourceFault Source) (line : Nat) (message : String) : Prop :=
  opened = .error (.unreadable line message) ∨
    ∃ s, opened = .ok s ∧ .error (.unreadable line message) ∈ s.items

theorem items_of_failure {message : String} {s : Source} (h : s.failure = some message) :
    s.items = s.records.map .ok ++ [.error (.unreadable 0 message)] := by
  rw [items, fault?, h]
  rfl

variable [Encoding.EastAsian.Decoders] {delimiter : Char} {label : String} {feed : Feed}
  {message : String}

/-- Once a piece has arrived the failure is on line zero, whatever is opened by then. -/
theorem tells_of_failure (hpieces : feed.pieces ≠ []) (hfailure : feed.failure = some message)
    {line : Nat} {cause : String}
    (h : Tells (ofFeed ⟨some delimiter, some label⟩ feed) line cause) :
    line = 0 ∧ cause = message := by
  rcases h with h | ⟨s, h, hmem⟩
  · by_cases hascii : delimiter.toNat < 0x80
    · rw [ofFeed_of_given hascii label hpieces] at h
      dsimp only at h
      have hplain := (plainFeed_of_failure (.ofLabel label) hfailure).1
      cases hrows : Delimited.rows delimiter.toNat.toUInt8 (textFeed (.ofLabel label) feed) with
      | nil =>
          rw [hrows, textFeed_eq] at h
          by_cases hmark : (plainFeed (.ofLabel label) feed).pieces.head? = some Delimited.mark
          · rw [Delimited.asRead_of_head_eq hmark] at h
            cases h
          · rw [Delimited.asRead_of_head_ne hmark, hplain] at h
            cases h
            exact ⟨rfl, rfl⟩
      | cons header rest =>
          rw [hrows] at h
          simp only [ofFirstRows] at h
          split_ifs at h
          cases h
    · have hbyte : delimiterByte? delimiter = none := if_neg hascii
      obtain ⟨sample, rest, hsample⟩ := List.exists_cons_of_ne_nil hpieces
      simp only [ofFeed, hsample, manner, delimiterOf, Option.getD_some, hbyte] at h
      cases h
  · obtain ⟨header, rest, -, -, -, rfl⟩ := ofFeed_of_failure hfailure h
    rw [items_of_failure rfl] at hmem
    rcases List.mem_append.mp hmem with hrecord | hfault
    · obtain ⟨r, -, hr⟩ := List.mem_map.mp hrecord
      cases hr
    · cases List.mem_singleton.mp hfault
      exact ⟨rfl, rfl⟩

/-- The records before a failure are on lines of the text that arrived. -/
theorem line_of_failure {s : Source} (hfailure : feed.failure = some message)
    (h : ofFeed ⟨some delimiter, some label⟩ feed = .ok s) :
    let arrived := textSoFar (.ofLabel label) feed.bytes
    s.failure = some message ∧
      ∀ r ∈ s.records, 0 < r.line ∧ r.line ≤ lineAt arrived arrived.length := by
  intro arrived
  obtain ⟨header, rest, -, hended, -, rfl⟩ := ofFeed_of_failure hfailure h
  have hflat : (plainFeed (.ofLabel label) feed).pieces.flatten = arrived :=
    (plainFeed_of_failure (.ofLabel label) hfailure).2
  refine ⟨rfl, ?_⟩
  intro r hr
  obtain ⟨row, hrow, rfl⟩ := List.mem_map.mp hr
  have hmem : row ∈ (Delimited.terminated delimiter.toNat.toUInt8
      (plainFeed (.ofLabel label) feed).pieces).map Prod.snd :=
    hended ▸ List.mem_cons_of_mem header hrow
  obtain ⟨ending, hending, rfl⟩ := List.mem_map.mp hmem
  have hline := Delimited.line_of_terminated hending
  rw [hflat] at hline
  exact hline

/-- **A failure of the stream is not located.** A stream that breaks before its first byte fails on
line one. Wherever else it breaks, whatever was opened and read by then, the only failure of reading
is on line zero. The records before it are on lines from one up to the line on which the text broke
off. -/
theorem ofReader_fault_line (delimiter : Char) (label : String) (content : List UInt8)
    (sizes : List Nat) (hsizes : ∀ size ∈ sizes, 0 < size) (after : Nat)
    (hafter : after ≤ content.length) (message : String) :
    let opened := ofReader ⟨some delimiter, some label⟩
      ⟨content, 0, sizes, some ⟨after, message⟩⟩
    let arrived := textSoFar (.ofLabel label) (content.take after)
    (after = 0 → opened = .error (.unreadable 1 message)) ∧
      (0 < after → ∀ line cause, Tells opened line cause → line = 0 ∧ cause = message) ∧
      ∀ s, opened = .ok s →
        s.items = s.records.map .ok ++ [.error (.unreadable 0 message)] ∧
          ∀ r ∈ s.records, 0 < r.line ∧ r.line ≤ lineAt arrived arrived.length := by
  intro opened arrived
  obtain ⟨-, hfailure, hbytes, -, -⟩ := feeds_of_break hsizes hafter message
  refine ⟨?_, ?_, ?_⟩
  · rintro rfl
    have hfeed := Reader.feedWithin_at_break
      (r := ⟨content, 0, sizes, some ⟨0, message⟩⟩) rfl (Nat.le_refl 0) sampleSize content.length
    simp only [opened, ofReader, Reader.feed, hfeed, ofFeed]
  · intro hpos line cause htells
    refine tells_of_failure ?_ hfailure htells
    intro hnone
    rw [Feed.bytes, hnone] at hbytes
    have hlength := congrArg List.length hbytes
    rw [List.length_take_of_le hafter] at hlength
    exact Nat.ne_of_lt hpos hlength
  · intro s hopened
    obtain ⟨hfailed, hlines⟩ := line_of_failure hfailure hopened
    rw [hbytes] at hlines
    exact ⟨items_of_failure hfailed, hlines⟩

/-- A header, a row and a quoted field with a line feed; the stream breaks behind that line feed. -/
def brokenFieldContent : List UInt8 := Encoding.Utf8.encode "a;b\n1;2\n\"x\ny\";3\n".toList

omit [Encoding.EastAsian.Decoders] in
theorem ofReader_fault_line_brokenField :
    letI := Encoding.Katakana.decoders
    let opened := ofReader ⟨some ';', some "utf-8"⟩
      ⟨brokenFieldContent, 0, [3], some ⟨11, "reset"⟩⟩
    (∀ size ∈ [3], 0 < size) ∧ 0 < 11 ∧ 11 ≤ brokenFieldContent.length ∧
      (∀ line cause, Tells opened line cause → line = 0 ∧ cause = "reset") ∧
      ∃ s, opened = .ok s ∧ s.items = s.records.map .ok ++ [.error (.unreadable 0 "reset")] ∧
        s.records.map (·.line) = [2] ∧ ∀ r ∈ s.records, r.line ≤ 4 := by
  let := Encoding.Katakana.decoders
  intro opened
  have hsizes : ∀ size ∈ [3], 0 < size := by decide
  have hafter : 11 ≤ brokenFieldContent.length := by decide
  have hread : opened.toOption.map (fun s => s.records.map (·.line)) = some [2] := by
    decide +kernel
  obtain ⟨s, hopened, hlines⟩ := ok_of_map_eq_some hread
  obtain ⟨-, htells, hrecords⟩ :=
    ofReader_fault_line ';' "utf-8" brokenFieldContent [3] hsizes 11 hafter "reset"
  obtain ⟨hitems, hbounds⟩ := hrecords s hopened
  have hline : lineAt (brokenFieldContent.take 11) (brokenFieldContent.take 11).length = 4 := by
    decide
  refine ⟨hsizes, by decide, hafter, htells (by decide), s, hopened, hitems, hlines, ?_⟩
  intro r hr
  exact hline ▸ (hbounds r hr).2

omit [Encoding.EastAsian.Decoders] in
/-- The stream breaks on the third line, behind the record of the second. -/
theorem ofReader_fault_line_before_records :
    letI := Encoding.Katakana.decoders
    let content := Encoding.Utf8.encode "a\n1\n2\n".toList
    let opened := ofReader ⟨some ',', some "utf-8"⟩ ⟨content, 0, [], some ⟨4, "gone"⟩⟩
    opened.toOption.map items =
        some [.ok ⟨2, [("a", "1")]⟩, .error (.unreadable 0 "gone")] ∧
      (SourceFault.unreadable 0 "gone").message = "Failed to read input at line 0: gone" ∧
      lineAt (content.take 4) 4 = 3 := by
  let := Encoding.Katakana.decoders
  refine ⟨?_, ?_, ?_⟩ <;> decide +kernel

end Source

end BulkLoad
