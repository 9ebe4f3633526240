import BulkLoad.Proofs.Delimited.Places
import BulkLoad.Proofs.Source.Sampling
import Mathlib.Data.List.Forall2

/-!
The lines of the records of a source.

A record has the line on which the reader stood when the row before was complete. That is the line
on which its row starts, unless the reader passes over a line feed before it: the second byte of a
pair of line ends, or a blank line.
-/
namespace BulkLoad

open BulkLoad.Stream (Reader)
open Delimited (Place StandsAt lineAt lineFeed places rowsOf)

private theorem forall₂_of_getElem? {α β : Type} {R : α → β → Prop} {xs : List α} {ys : List β}
    (h : ∀ (i : Nat) x, xs[i]? = some x → ∃ y, ys[i]? = some y ∧ R x y) :
    List.Forall₂ R xs (ys.take xs.length) := by
  induction xs generalizing ys with
  | nil => exact .nil
  | cons x xs ih =>
      obtain ⟨y, hy, hxy⟩ := h 0 x rfl
      cases ys with
      | nil => cases hy
      | cons z ys =>
          cases hy
          exact .cons hxy (ih fun i x' hx => h (i + 1) x' hx)

namespace Source

/-- A record on the line of the place from which its row was looked for; up to the first byte of the
row so many line feeds are passed over. -/
structure LinedUp (text : List UInt8) (r : Record) (p : Place) : Prop where
  sought : r.line = lineAt text p.sought
  first : r.line + (p.gap text).count lineFeed = lineAt text p.first

theorem LinedUp.lines {text : List UInt8} {rs : List Record} {ps : List Place}
    (h : List.Forall₂ (LinedUp text) rs ps) :
    rs.map (·.line) = ps.map (fun p => lineAt text p.sought) ∧
      (rs.map (·.line) = ps.map (fun p => lineAt text p.first) ↔
        ∀ p ∈ ps, lineFeed ∉ p.gap text) := by
  induction h with
  | nil => simp
  | @cons r p rs ps hline _ ih =>
      have hone : r.line = lineAt text p.first ↔ lineFeed ∉ p.gap text := by
        rw [← hline.first, ← List.count_eq_zero]
        omega
      simp only [List.map_cons, List.cons.injEq, List.forall_mem_cons, ih.2, hone]
      exact ⟨⟨hline.sought, ih.1⟩, trivial⟩

/-- **The lines of records.** The rows of UTF-8 text that is read with a given delimiter stand at
the places of the text, one after the other, the header first. A record has the line of the place
from which its row was looked for, and this is the line of the row's first byte for all records
exactly when no line feed is passed over before any of their rows. -/
theorem ofReader_lines [Encoding.EastAsian.Decoders] (delimiter : Char)
    (hdelimiter : delimiter.toNat < 0x80) (label? : Option String) (content : List UInt8)
    (sizes : List Nat) (hsizes : ∀ size ∈ sizes, 0 < size)
    (hlabel : Encoding.ofLabel (labelOf ⟨some delimiter, label?⟩ (sampleOf content sizes)) = .utf8)
    (hmark : ¬ Delimited.mark <+: content) (s : Source)
    (h : ofReader ⟨some delimiter, label?⟩ ⟨content, 0, sizes, none⟩ = .ok s) :
    let byte := delimiter.toNat.toUInt8
    let rows := rowsOf byte content true
    let stand := (places byte content).tail.take s.records.length
    s.records = rows.tail.map (recordUnder s.info.headers) ∧
      (∀ i r, s.records[i]? = some r →
        ∃ p, stand[i]? = some p ∧ StandsAt byte content p (rows.drop (i + 1)) ∧
          LinedUp content r p) ∧
      s.records.map (·.line) = stand.map (fun p => lineAt content p.sought) ∧
      (s.records.map (·.line) = stand.map (fun p => lineAt content p.first) ↔
        ∀ p ∈ stand, lineFeed ∉ p.gap content) := by
  intro byte rows stand
  have hprompt : Reader.Prompt ⟨content, 0, sizes, none⟩ := hsizes
  have htext : textBytes .utf8 content = content := rfl
  rw [ofReader_of_sample _ content hsizes] at h
  simp only [settled, delimiterOf, Option.getD_some] at h
  rw [ofReader_of_text hdelimiter hlabel hprompt rfl htext hmark] at h
  obtain ⟨header, rest, hread, -, rfl⟩ := ofFirstRows_eq_ok h
  have hrows : rows = header :: rest := hread
  have hstands : ∀ (i : Nat) r,
      (rest.map (recordUnder (header.fields.map headerName)))[i]? = some r →
      ∃ p, (places byte content).tail[i]? = some p ∧ StandsAt byte content p (rows.drop (i + 1)) ∧
        LinedUp content r p := by
    intro i r hr
    rw [List.getElem?_map] at hr
    obtain ⟨row, hrow, rfl⟩ := Option.map_eq_some_iff.mp hr
    have hat : rows[i + 1]? = some row := by
      rw [hrows]
      exact hrow
    obtain ⟨p, hp, hstand, hsought, hfirst⟩ := Delimited.standsAt_of_row hat
    refine ⟨p, ?_, hstand, hsought, hfirst⟩
    rw [List.getElem?_tail]
    exact hp
  have hlined := forall₂_of_getElem? fun i r hr => by
    obtain ⟨p, hp, -, hline⟩ := hstands i r hr
    exact ⟨p, hp, hline⟩
  obtain ⟨hsought, hfirst⟩ := LinedUp.lines hlined
  refine ⟨?_, ?_, hsought, hfirst⟩
  · rw [hrows]
    rfl
  · intro i r hr
    obtain ⟨p, hp, hboth⟩ := hstands i r hr
    obtain ⟨hi, -⟩ := List.getElem?_eq_some_iff.mp hr
    refine ⟨p, ?_, hboth⟩
    rw [List.getElem?_take_of_lt hi]
    exact hp

/-- A quoted line feed, and rows that end with a line feed or a carriage return alone. -/
def loneEndsContent : List UInt8 := Encoding.Utf8.encode "a;b\n1;\"x\ny\"\r3;4\n".toList

/-- No line feed stands before a row here. -/
theorem ofReader_lines_loneEnds :
    letI := Encoding.Katakana.decoders
    ∃ s, ofReader ⟨some ';', none⟩ ⟨loneEndsContent, 0, [3], none⟩ = .ok s ∧
      Encoding.ofLabel (labelOf ⟨some ';', none⟩ (sampleOf loneEndsContent [3])) = .utf8 ∧
      ¬ Delimited.mark <+: loneEndsContent ∧
      s.records.map (·.line) =
        ((places 0x3B loneEndsContent).tail.take 2).map (fun p => lineAt loneEndsContent p.first) ∧
      s.records.map (·.line) = [2, 3] := by
  let := Encoding.Katakana.decoders
  let opened := ofReader ⟨some ';', none⟩ ⟨loneEndsContent, 0, [3], none⟩
  have hread : opened.toOption.map (fun s => s.records.map (·.line)) = some [2, 3] := by
    decide +kernel
  have hlabel : Encoding.ofLabel (labelOf ⟨some ';', none⟩ (sampleOf loneEndsContent [3])) =
      .utf8 := by decide +kernel
  have hmark : ¬ Delimited.mark <+: loneEndsContent := by decide +kernel
  obtain ⟨s, hopened, hlines⟩ := ok_of_map_eq_some hread
  obtain ⟨-, -, -, hfirst⟩ := ofReader_lines ';' (by decide) none loneEndsContent [3]
    (by decide) hlabel hmark s hopened
  have hlength : s.records.length = 2 := by
    rw [← List.length_map, hlines]
    rfl
  rw [hlength] at hfirst
  exact ⟨s, hopened, hlabel, hmark, hfirst.mpr (by decide +kernel), hlines⟩

/-- Pairs of line ends: the second byte of the pair after the header is passed over before the
row. -/
def pairedEndsContent : List UInt8 := Encoding.Utf8.encode "a;b\r\n1;2\r\n".toList

theorem ofReader_lines_pairedEnds :
    letI := Encoding.Katakana.decoders
    (ofReader ⟨some ';', some "utf-8"⟩ ⟨pairedEndsContent, 0, [], none⟩).toOption.map (·.records) =
        some [⟨1, [("a", "1"), ("b", "2")]⟩] ∧
      (places 0x3B pairedEndsContent)[1]? = some ⟨4, 5⟩ ∧ lineAt pairedEndsContent 5 = 2 := by
  let := Encoding.Katakana.decoders
  refine ⟨?_, ?_, ?_⟩ <;> decide +kernel

end Source

end BulkLoad
