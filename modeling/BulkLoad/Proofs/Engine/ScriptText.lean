import BulkLoad.Engine.ScriptFile
import BulkLoad.Proofs.Encoding.Utf8Text

/-!
What a script holds while it is written.

A script in the making stands for the bytes that are in its file followed by those held back.
Whatever it accepts comes after them, whether it is held back, goes out or makes room first; so the
queries that fit on a line are all there in order, and nothing else. Only the file that has no room
for anything refuses bytes.
-/
namespace BulkLoad

namespace Script

/-- The line of a query: nothing if it does not fit on one. -/
def lineOf (query : Query) : List UInt8 :=
  if hasBreak query.text then [] else Encoding.Utf8.encodeText (query.text ++ "\n")

def lines (queries : List Query) : List UInt8 := queries.flatMap lineOf

def page (queries : List Query) : String := String.join (queries.map (·.text ++ "\n"))

def answer (query : Query) : Invocation := if hasBreak query.text then refusal else .ok ""

theorem answer_succeeded (query : Query) : (answer query).succeeded = !hasBreak query.text := by
  unfold answer
  split_ifs with h
  · rw [h]
    rfl
  · rw [Bool.eq_false_iff.mpr h]
    rfl

theorem hasBreak_of_lines_eq_nil {queries : List Query} (h : lines queries = []) {query : Query}
    (hquery : query ∈ queries) : hasBreak query.text = true := by
  have hline := List.flatMap_eq_nil_iff.mp h query hquery
  by_contra hbreak
  rw [lineOf, if_neg hbreak, Encoding.Utf8.encodeText_append] at hline
  exact List.cons_ne_nil 0x0A [] (List.append_eq_nil_iff.mp hline).2

theorem page_cons (query : Query) (rest : List Query) :
    page (query :: rest) = query.text ++ "\n" ++ page rest := by
  rw [page, List.map_cons, String.join_cons]
  rfl

/-- The lines of queries are those of the ones that fit. -/
theorem lines_eq_page (queries : List Query) :
    lines queries = Encoding.Utf8.encodeText (page (queries.filter (!hasBreak ·.text))) := by
  induction queries with
  | nil => rfl
  | cons query rest ih =>
      rw [lines, List.flatMap_cons]
      change lineOf query ++ lines rest = _
      rw [ih, lineOf, List.filter_cons]
      cases hasBreak query.text with
      | true => rfl
      | false =>
          simp only [Bool.false_eq_true, if_false, Bool.not_false, if_true, page_cons,
            Encoding.Utf8.encodeText_append]

end Script

/-- An engine that writes down the queries that it takes. `Holds` says for which bytes a state
stands; each query gets the answer that its line deserves, and its line comes after them. -/
structure Engine.Scribes {σ : Type} (engine : Engine σ) (Takes : Query → Prop)
    (Holds : List UInt8 → σ → Prop) : Prop where
  invoke : ∀ (database : String) {query : Query} {bytes : List UInt8} {state : σ},
    Takes query → Holds bytes state → ∃ after,
      engine.invoke database query state = (.ok (Script.answer query), after) ∧
        Holds (bytes ++ Script.lineOf query) after

/-- A script in memory whose writes do not fail. -/
theorem Script.scribes : Script.engine.Scribes (fun _ => True)
    fun bytes s => s.fault = none ∧ Encoding.Utf8.encodeText s.text = bytes where
  invoke := by
    rintro _ query _ s - ⟨hfault, rfl⟩
    simp only [Script.engine, write, answer, lineOf, hfault]
    split_ifs
    · exact ⟨s, rfl, hfault, (List.append_nil _).symm⟩
    · refine ⟨_, rfl, rfl, ?_⟩
      rw [← Encoding.Utf8.encodeText_append]
      simp [text, String.join_append]

namespace ScriptFile

open Script

def content (s : ScriptFile) : List UInt8 := s.bytes ++ s.held.reverse.flatten

structure Sound (s : ScriptFile) : Prop where
  heldLength : s.heldLength = s.held.flatten.length
  full : s.file = .device .full → s.held.flatten = []

structure Extends (s s' : ScriptFile) (bytes : List UInt8) : Prop where
  sound : s'.Sound
  label : s'.label = s.label
  file : s'.file = s.file
  content : s'.content = s.content ++ bytes

theorem Extends.refl {s : ScriptFile} (h : s.Sound) : s.Extends s [] :=
  ⟨h, rfl, rfl, (List.append_nil _).symm⟩

theorem Extends.trans {s s' s'' : ScriptFile} {front back : List UInt8}
    (h : s.Extends s' front) (h' : s'.Extends s'' back) : s.Extends s'' (front ++ back) :=
  ⟨h'.sound, h'.label.trans h.label, h'.file.trans h.file,
    by rw [h'.content, h.content, List.append_assoc]⟩

theorem empty_sound (label : String) (file : Handle) : (empty label file).Sound :=
  ⟨rfl, fun _ => rfl⟩

theorem flatten_reverse_eq_nil {parts : List (List UInt8)} (h : parts.flatten = []) :
    parts.reverse.flatten = [] := by
  rw [List.flatten_eq_nil_iff] at h ⊢
  exact fun part hpart => h part (List.mem_reverse.mp hpart)

theorem emit_ok (s : ScriptFile) (bytes : List UInt8) (h : s.file = .device .full → bytes = []) :
    ∃ s', s.emit bytes = .ok s' ∧ s'.bytes = s.bytes ++ bytes ∧ s'.held = s.held ∧
      s'.heldLength = s.heldLength ∧ s'.label = s.label ∧ s'.file = s.file := by
  by_cases hfull : s.file = .device .full
  · have hbytes := h hfull
    refine ⟨s, ?_, ?_, rfl, rfl, rfl, rfl⟩
    · simp only [emit, hfull, hbytes, List.isEmpty_nil, if_true]
    · rw [hbytes, List.append_nil]
  · refine ⟨{ s with written := bytes :: s.written }, ?_, ?_, rfl, rfl, rfl, rfl⟩
    · unfold emit
      split
      · contradiction
      · rfl
    · simp [ScriptFile.bytes]

/-- What is held back goes out, and nothing is lost. -/
theorem flush_ok {s : ScriptFile} (h : s.Sound) :
    ∃ s', s.flush = .ok s' ∧ s.Extends s' [] ∧ s'.held = [] := by
  obtain ⟨s', hemit, hbytes, hheld, hlength, hlabel, hfile⟩ :=
    emit_ok { s with held := [], heldLength := 0 } s.held.reverse.flatten
      fun hfull => flatten_reverse_eq_nil (h.full hfull)
  refine ⟨s', hemit, ⟨⟨?_, ?_⟩, hlabel, hfile, ?_⟩, hheld⟩
  · rw [hlength, hheld]
    rfl
  · intro _
    rw [hheld]
    rfl
  · rw [content, hheld, hbytes, List.append_nil]
    exact List.append_nil _

theorem hold_extends {s : ScriptFile} (h : s.Sound) (hfile : s.file ≠ .device .full)
    (bytes : List UInt8) : s.Extends (s.hold bytes) bytes where
  sound := ⟨by simp [hold, h.heldLength, Nat.add_comm], fun hfull => absurd hfull hfile⟩
  label := rfl
  file := rfl
  content := by simp [content, hold, ScriptFile.bytes]

/-- Bytes that go out at once follow those in the file: nothing is held back then. -/
theorem emit_extends {s : ScriptFile} (h : s.Sound) (hfile : s.file ≠ .device .full)
    (hheld : s.held.flatten = []) (bytes : List UInt8) :
    ∃ s', s.emit bytes = .ok s' ∧ s.Extends s' bytes := by
  obtain ⟨s', hemit, hbytes, hheld', hlength, hlabel, hfile'⟩ :=
    emit_ok s bytes fun hfull => absurd hfull hfile
  refine ⟨s', hemit, ⟨⟨?_, ?_⟩, hlabel, hfile', ?_⟩⟩
  · rw [hlength, hheld']
    exact h.heldLength
  · rw [hheld']
    exact fun _ => hheld
  · simp only [content, hbytes, hheld', flatten_reverse_eq_nil hheld, List.append_nil]

theorem accept_extends {s : ScriptFile} (h : s.Sound) (hfile : s.file ≠ .device .full)
    (bytes : List UInt8) : ∃ s', s.accept bytes = .ok s' ∧ s.Extends s' bytes := by
  unfold accept
  by_cases hfits : bytes.length ≤ capacity - s.heldLength ∧ bytes.length < capacity
  · simp only [hfits, decide_true, Bool.and_self, if_true]
    exact ⟨_, rfl, hold_extends h hfile bytes⟩
  · rw [if_neg (by simpa only [Bool.and_eq_true, decide_eq_true_eq] using hfits)]
    by_cases hroom : capacity - s.heldLength < bytes.length
    · obtain ⟨s', hflush, hs', hheld⟩ := flush_ok h
      have hfile' : s'.file ≠ .device .full := hs'.file ▸ hfile
      simp only [hroom, if_true, hflush]
      split_ifs
      · obtain ⟨s'', hemit, hs''⟩ := emit_extends hs'.sound hfile' (by rw [hheld]; rfl) bytes
        exact ⟨s'', hemit, hs'.trans hs''⟩
      · exact ⟨_, rfl, hs'.trans (hold_extends hs'.sound hfile' bytes)⟩
    · -- So many bytes have room only when nothing is held back.
      have hlarge : capacity ≤ bytes.length := by omega
      have hheld : s.held.flatten = [] := by
        have hlength := h.heldLength
        have hcapacity : 0 < capacity := by decide
        exact List.length_eq_zero_iff.mp (by omega)
      simp only [hroom, if_false, hlarge, if_true]
      exact emit_extends h hfile hheld bytes

/-- A query gets the answer that its line deserves, and the line is there from then on. -/
theorem write_extends {s : ScriptFile} (h : s.Sound) (query : Query)
    (hroom : s.file = .device .full → hasBreak query.text = true) :
    ∃ s', s.write query = (.ok (answer query), s') ∧ s.Extends s' (lineOf query) := by
  unfold write answer lineOf
  cases hbreak : hasBreak query.text with
  | true => exact ⟨s, rfl, .refl h⟩
  | false =>
      have hfile : s.file ≠ .device .full := fun hfull => by
        rw [hroom hfull] at hbreak
        cases hbreak
      obtain ⟨s', htext, hs'⟩ := accept_extends h hfile (Encoding.Utf8.encodeText query.text)
      obtain ⟨s'', hend, hs''⟩ := accept_extends hs'.sound (hs'.file ▸ hfile) [0x0A]
      have hboth := hs'.trans hs''
      simp only [Bool.false_eq_true, if_false, htext, hend, Encoding.Utf8.encodeText_append]
      exact ⟨_, rfl, ⟨⟨hboth.sound.heldLength, hboth.sound.full⟩, hboth.label, hboth.file,
        hboth.content⟩⟩

/-- A script whose file takes bytes, and has none as long as all that the script stands for may be
held back. -/
structure Waiting (s : ScriptFile) : Prop where
  sound : s.Sound
  file : s.file ≠ .device .full
  patient : capacity ≤ s.content.length ∨ s.bytes = []

theorem empty_waiting (label : String) {file : Handle} (h : file ≠ .device .full) :
    (empty label file).Waiting :=
  ⟨empty_sound label file, h, .inr rfl⟩

theorem heldLength_le {s : ScriptFile} (h : s.Sound) : s.heldLength ≤ s.content.length := by
  rw [h.heldLength, content, List.length_append, List.length_flatten, List.length_flatten,
    List.map_reverse, List.sum_reverse]
  exact Nat.le_add_left _ _

/-- Bytes go out only when there is no room for all of them. -/
theorem accept_waiting {s s' : ScriptFile} (h : s.Waiting) {bytes : List UInt8}
    (haccept : s.accept bytes = .ok s') : s'.Waiting := by
  obtain ⟨after, hafter, hextends⟩ := accept_extends h.sound h.file bytes
  cases hafter.symm.trans haccept
  have hlength : s'.content.length = s.content.length + bytes.length := by
    rw [hextends.content, List.length_append]
  refine ⟨hextends.sound, hextends.file ▸ h.file, ?_⟩
  by_cases hfits : bytes.length ≤ capacity - s.heldLength ∧ bytes.length < capacity
  · have hhold : s' = s.hold bytes := by
      simp only [accept, hfits, decide_true, Bool.and_self, if_true] at haccept
      exact (Except.ok.inj haccept).symm
    rcases h.patient with hfull | hnone
    · left
      omega
    · right
      rw [hhold]
      exact hnone
  · left
    have hheld := heldLength_le h.sound
    omega

theorem write_waiting {s : ScriptFile} (h : s.Waiting) (query : Query) :
    (s.write query).2.Waiting := by
  unfold write
  cases Script.hasBreak query.text with
  | true => exact h
  | false =>
      obtain ⟨s', htext, -⟩ :=
        accept_extends h.sound h.file (Encoding.Utf8.encodeText query.text)
      have hs' := accept_waiting h htext
      obtain ⟨s'', hend, -⟩ := accept_extends hs'.sound hs'.file [0x0A]
      have hs'' := accept_waiting hs' hend
      simp only [Bool.false_eq_true, if_false, htext, hend]
      exact ⟨⟨hs''.sound.heldLength, hs''.sound.full⟩, hs''.file, hs''.patient⟩

theorem emit_file {s s' : ScriptFile} {bytes : List UInt8} (h : s.emit bytes = .ok s') :
    s'.file = s.file := by
  unfold emit at h
  split at h
  · split_ifs at h
    cases h
    rfl
  · cases h
    rfl

theorem accept_file {s s' : ScriptFile} {bytes : List UInt8} (h : s.accept bytes = .ok s') :
    s'.file = s.file := by
  unfold accept at h
  dsimp only at h
  split at h
  · cases h
    rfl
  · split at h
    · cases h
    · rename_i after hafter
      have hfile : after.file = s.file := by
        split_ifs at hafter
        · exact emit_file (s := { s with held := [], heldLength := 0 }) hafter
        · cases hafter
          rfl
      split_ifs at h
      · exact (emit_file h).trans hfile
      · cases h
        exact hfile

/-- Whatever is asked of a script, it stays with its file. -/
theorem write_file (s : ScriptFile) (query : Query) : (s.write query).2.file = s.file := by
  unfold write
  split
  · rfl
  · split
    · rfl
    · rename_i s' htext
      split
      · exact accept_file htext
      · rename_i s'' hend
        exact (accept_file hend).trans (accept_file htext)

/-- A script in a file that has room, or that is given nothing to write. -/
theorem scribes (start : ScriptFile) :
    ScriptFile.engine.Scribes
      (fun query => start.file = .device .full → hasBreak query.text = true)
      (fun bytes s => start.Extends s bytes) where
  invoke := by
    intro _ query bytes s htakes hs
    obtain ⟨s', hwrite, hs'⟩ := write_extends hs.sound query (hs.file ▸ htakes)
    exact ⟨s', hwrite, hs.trans hs'⟩

/-- The end of a script: what is held back goes out, and that is told. -/
theorem close_extends {s : ScriptFile} (h : s.Sound) :
    ∃ s', s.close = (.ok [closing s'.label s'.count], s') ∧ s.Extends s' [] ∧ s'.held = [] := by
  obtain ⟨s', hflush, hs', hheld⟩ := flush_ok h
  refine ⟨s', ?_, hs', hheld⟩
  simp only [close, hflush]

/-- What a script leaves in its file is all that it stands for. -/
theorem leave_eq {s : ScriptFile} (h : s.Sound) {files left : Workspace}
    (hleft : files.writeAt s.file 0 s.content = .ok left) : s.leave files = left := by
  obtain ⟨s', hflush, hs', hheld⟩ := flush_ok h
  have hbytes : s'.bytes = s.content := by
    have hcontent := hs'.content
    rwa [content, hheld, List.append_nil, List.reverse_nil, List.flatten_nil, List.append_nil]
      at hcontent
  simp only [leave, hflush, hs'.file, hbytes, hleft]

end ScriptFile

end BulkLoad
