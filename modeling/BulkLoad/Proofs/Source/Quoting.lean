import BulkLoad.Proofs.Delimited.Quoted
import BulkLoad.Proofs.Source.Transport
import Mathlib.Data.List.Forall2

/-!
Sources over rows that are written in quotes: what was written is what is read.

Records keep the fields of their rows. A field is found under the first header with its name, and
under a numbered name if it lies beyond the header; what a short row lacks is not found at all.
-/
namespace BulkLoad

open BulkLoad.Stream (Reader)
open Encoding.Utf8 (encode decode decodeText decodeText_encode decode_encode)
open Delimited (fieldBytes)

namespace Record

theorem get?_cons (line : Nat) (field : String × String) (fields : List (String × String))
    (name : String) :
    get? ⟨line, field :: fields⟩ name =
      if field.1 = name then some field.2 else get? ⟨line, fields⟩ name := by
  by_cases h : field.1 = name <;> simp [get?, h]

end Record

namespace Source

section Names

variable (line place : Nat) {headers : List String} {name : String}

theorem map_snd_nameFields (headers : List String) (fields : List (List UInt8)) :
    (nameFields place headers fields).map Prod.snd = fields.map decodeText := by
  induction fields generalizing place headers with
  | nil => cases headers <;> rfl
  | cons field rest ih =>
      cases headers with
      | nil => exact congrArg (decodeText field :: ·) (ih (place + 1) [])
      | cons header headers => exact congrArg (decodeText field :: ·) (ih (place + 1) headers)

theorem get?_of_header {j : Nat} (h : headers.idxOf? name = some j) (fields : List (List UInt8)) :
    Record.get? ⟨line, nameFields place headers fields⟩ name = fields[j]?.map decodeText := by
  induction headers generalizing place j fields with
  | nil => cases h
  | cons header rest ih =>
      cases fields with
      | nil => rfl
      | cons field fields =>
          rw [nameFields, Record.get?_cons]
          rw [List.idxOf?_cons] at h
          by_cases hname : header = name
          · rw [if_pos hname]
            rw [if_pos (beq_iff_eq.mpr hname), Option.some.injEq] at h
            rw [← h]
            rfl
          · rw [if_neg hname]
            rw [if_neg (beq_iff_eq.not.mpr hname)] at h
            obtain ⟨k, hk, rfl⟩ := Option.map_eq_some_iff.mp h
            exact ih (place + 1) hk fields

/-- A name that no header has is looked for beyond the header. -/
theorem get?_of_not_header (h : name ∉ headers) (fields : List (List UInt8)) :
    Record.get? ⟨line, nameFields place headers fields⟩ name =
      Record.get? ⟨line, nameFields (place + headers.length) [] (fields.drop headers.length)⟩
        name := by
  induction headers generalizing place fields with
  | nil => rfl
  | cons header rest ih =>
      cases fields with
      | nil => rfl
      | cons field fields =>
          obtain ⟨hne, hrest⟩ := not_or.mp (List.mem_cons.not.mp h)
          have hplace : place + 1 + rest.length = place + (rest.length + 1) := by omega
          rw [nameFields, Record.get?_cons, if_neg (Ne.symm hne), ih (place + 1) hrest fields,
            hplace, List.length_cons, List.drop_succ_cons]

theorem extraName_injective {i j : Nat} (h : extraName i = extraName j) : i = j := by
  have hlist := congrArg String.toList h
  simp only [extraName, Decimal.text, String.toList_append, String.toList_ofList] at hlist
  have hdigits := List.append_cancel_left hlist
  have hvalue : i + 1 = j + 1 := by
    rw [← Decimal.valueOf_digits (i + 1), hdigits, Decimal.valueOf_digits]
  exact Nat.succ.inj hvalue

theorem get?_extra (fields : List (List UInt8)) (j : Nat) :
    Record.get? ⟨line, nameFields place [] fields⟩ (extraName (place + j)) =
      fields[j]?.map decodeText := by
  induction fields generalizing place j with
  | nil => rfl
  | cons field rest ih =>
      rw [nameFields, Record.get?_cons]
      cases j with
      | zero => exact if_pos rfl
      | succ j =>
          have hne : extraName place ≠ extraName (place + (j + 1)) :=
            fun h => by have := extraName_injective h; omega
          rw [if_neg hne, List.getElem?_cons_succ, ← ih (place + 1) j, Nat.add_right_comm,
            Nat.add_assoc]

theorem get?_of_not_extra (fields : List (List UInt8))
    (h : ∀ j < fields.length, name ≠ extraName (place + j)) :
    Record.get? ⟨line, nameFields place [] fields⟩ name = none := by
  induction fields generalizing place with
  | nil => rfl
  | cons field rest ih =>
      have hfirst : extraName place ≠ name := (h 0 (Nat.succ_pos _)).symm
      rw [nameFields, Record.get?_cons, if_neg hfirst]
      apply ih
      intro j hj
      have hname := h (j + 1) (Nat.succ_lt_succ hj)
      rwa [← Nat.add_assoc, Nat.add_right_comm] at hname

end Names

section Headers

theorem trimBoth_of_trim {name : String} (h : Text.trim name = name) :
    Text.trimBoth Text.isBlank name.toList = name.toList := by
  rw [← String.toList_ofList (l := Text.trimBoth Text.isBlank name.toList)]
  exact congrArg String.toList h

theorem bare_of_trim {name : String} (h : Text.trim name = name) : Delimited.Bare name := by
  have hblank : ∀ c ∈ Delimited.fieldBlanks, Text.isBlank c = true := by
    simp only [Delimited.fieldBlanks, List.forall_mem_cons, List.not_mem_nil, false_imp_iff,
      implies_true, and_true]
    decide
  obtain ⟨hhead, hlast⟩ := Text.trimBoth_eq_self_iff.mp (trimBoth_of_trim h)
  constructor
  · intro c hc hmem
    exact Bool.false_ne_true ((hhead c hc).symm.trans (hblank c hmem))
  · intro c hc hmem
    exact Bool.false_ne_true ((hlast c hc).symm.trans (hblank c hmem))

/-- A header that is trimmed and has no mark in front is read as it is. -/
theorem headerName_fieldBytes {name : String} (h : Text.trim name = name)
    (hmark : name.toList.head? ≠ some markChar) : headerName (fieldBytes name) = name := by
  have hkept : name.toList.dropWhile (· == markChar) = name.toList := by
    rw [Text.dropWhile_eq_self_iff_head?]
    intro c hc
    exact beq_false_of_ne fun heq => hmark (heq ▸ hc)
  rw [headerName, fieldBytes, decode_encode, hkept, trimBoth_of_trim h, String.ofList_toList]

end Headers

/-- A record that holds the fields of a row: a field is found under its first header, and beyond the
header under the number of its place. -/
structure ReadAs (headers fields : List String) (r : Record) : Prop where
  values : r.fields.map Prod.snd = fields
  header : ∀ name j, headers.idxOf? name = some j → r.get? name = fields[j]?
  extra : ∀ j, headers.length ≤ j → extraName j ∉ headers → r.get? (extraName j) = fields[j]?
  absent : ∀ name, name ∉ headers →
    (∀ j, headers.length ≤ j → j < fields.length → name ≠ extraName j) → r.get? name = none

theorem map_decodeText_fieldBytes (fields : List String) :
    (fields.map fieldBytes).map decodeText = fields := by
  rw [List.map_map]
  exact (List.map_congr_left fun t _ => decodeText_encode t).trans (List.map_id fields)

theorem recordUnder_readAs (headers fields : List String) {row : Delimited.Row}
    (h : row.fields = fields.map fieldBytes) : ReadAs headers fields (recordUnder headers row) := by
  have hvalue : ∀ j : Nat, row.fields[j]?.map decodeText = fields[j]? := by
    intro j
    rw [h, ← List.getElem?_map, map_decodeText_fieldBytes]
  refine ⟨?_, ?_, ?_, ?_⟩
  · rw [recordUnder, map_snd_nameFields, h, map_decodeText_fieldBytes]
  · intro name j hj
    rw [← hvalue]
    exact get?_of_header row.line 0 hj row.fields
  · intro j hj hfree
    obtain ⟨k, rfl⟩ := Nat.exists_eq_add_of_le hj
    rw [recordUnder, get?_of_not_header row.line 0 hfree, Nat.zero_add, get?_extra,
      List.getElem?_drop, hvalue]
  · intro name hfree hother
    rw [recordUnder, get?_of_not_header row.line 0 hfree, Nat.zero_add]
    apply get?_of_not_extra
    intro k hk
    apply hother _ (Nat.le_add_right _ _)
    rw [List.length_drop, h, List.length_map] at hk
    omega

theorem forall₂_readAs (headers : List String) {rows : List (List String)}
    {read : List Delimited.Row} (h : read.map (·.fields) = rows.map (·.map fieldBytes)) :
    List.Forall₂ (ReadAs headers) rows (read.map (recordUnder headers)) := by
  induction rows generalizing read with
  | nil =>
      rw [List.map_nil, List.map_eq_nil_iff] at h
      rw [h]
      exact .nil
  | cons fields rest ih =>
      obtain ⟨row, later, rfl, hfields, hlater⟩ := List.map_eq_cons_iff.mp h
      exact .cons (recordUnder_readAs headers fields hfields) (ih hlater)

/-- **Reading undoes writing.** A header and rows of text, written in quotes, are read as one record
for each row, in order, and nothing else; each record holds the fields of its row, under the names
of the header. -/
theorem ofReader_of_quoted [Encoding.EastAsian.Decoders] (delimiter : Char)
    (hascii : delimiter.toNat < 0x80) (hquote : delimiter ≠ '"')
    (hfeed : delimiter ≠ '\n') (headers : List String)
    (hheaders : ∀ name ∈ headers, Text.trim name = name ∧ name.toList.head? ≠ some markChar)
    (hnamed : ∃ name ∈ headers, name ≠ "") (rows : List (List String))
    (hrows : Delimited.Written rows) (ended : Bool) (sizes : List Nat)
    (hsizes : ∀ size ∈ sizes, 0 < size) :
    let text := encode (Delimited.quotedRows delimiter (headers :: rows) ended)
    ∃ s, ofReader ⟨some delimiter, some "utf-8"⟩ ⟨text, 0, sizes, none⟩ = .ok s ∧
      s.info = ⟨"utf-8", delimiter, headers⟩ ∧
      s.items = s.records.map .ok ∧ (∀ i, rows.length ≤ i → s.items[i]? = none) ∧
      List.Forall₂ (ReadAs headers) rows s.records := by
  intro text
  obtain ⟨named, hmem, hne⟩ := hnamed
  have hsome : headers ≠ [] := List.ne_nil_of_mem hmem
  have hwritten : Delimited.Written (headers :: rows) :=
    List.forall_mem_cons.mpr
      ⟨⟨hsome, fun name hname => bare_of_trim (hheaders name hname).1⟩, hrows⟩
  have hmark : ¬ Delimited.mark <+: text := by
    intro hfront
    have hquoted := Delimited.eq_of_head?_quotedRows hsome (Encoding.Utf8.head_of_mark hfront)
    exact absurd hquoted (by decide)
  have hfields := Delimited.rowsOf_quotedRows hascii hquote hfeed hwritten ended
  obtain ⟨header, rest, hread, hheader, hrest⟩ := List.map_eq_cons_iff.mp hfields
  have hnames : header.fields.map headerName = headers := by
    rw [hheader, List.map_map]
    refine (List.map_congr_left fun name hname => ?_).trans (List.map_id headers)
    exact headerName_fieldBytes (hheaders name hname).1 (hheaders name hname).2
  have hopened : ofReader ⟨some delimiter, some "utf-8"⟩ ⟨text, 0, sizes, none⟩ =
      .ok ⟨⟨"utf-8", delimiter, headers⟩, rest, none⟩ := by
    have hprompt : Reader.Prompt ⟨text, 0, sizes, none⟩ := hsizes
    have hany : (header.fields.map headerName).all (·.isEmpty) = false := by
      rw [hnames, List.all_eq_false]
      exact ⟨named, hmem, by simpa using hne⟩
    have htext : textBytes .utf8 text = text := rfl
    rw [ofReader_of_text hascii Encoding.ofLabel_utf8 hprompt rfl htext hmark, hread,
      ofFirstRows_cons hany, hnames, Encoding.name_of_utf8]
  have hrecords := forall₂_readAs headers hrest
  refine ⟨_, hopened, rfl, List.append_nil _, ?_, hrecords⟩
  intro i hi
  apply List.getElem?_eq_none
  have hlength := hrecords.length_eq
  simp only [items, records, fault?, faultOf, Option.map_none, Option.toList_none,
    List.append_nil, List.length_map] at hlength ⊢
  omega

/-- Two equal headers and an empty one, over a long row and a short one; quotes, delimiters and line
ends are text. -/
def tangledHeaders : List String := ["n", "", "n"]

def tangledRows : List (List String) :=
  [["a\"", "x;y\r\nz", "dup", "\";\""], [""]]

theorem ofReader_of_tangledRows :
    letI := Encoding.Katakana.decoders
    let text := encode (Delimited.quotedRows ';' (tangledHeaders :: tangledRows) false)
    Delimited.Written tangledRows ∧
      ∃ s long short, ofReader ⟨some ';', some "utf-8"⟩ ⟨text, 0, [1, 4], none⟩ = .ok s ∧
        s.info.headers = tangledHeaders ∧ s.items = [.ok long, .ok short] ∧ s.items[2]? = none ∧
        long.fields.map Prod.snd = ["a\"", "x;y\r\nz", "dup", "\";\""] ∧
        long.get? "n" = some "a\"" ∧ long.get? (extraName 3) = some "\";\"" ∧
        short.get? "n" = some "" ∧ short.get? "" = none ∧ short.get? (extraName 3) = none := by
  let := Encoding.Katakana.decoders
  intro text
  have hrows : Delimited.Written tangledRows := by
    simp [Delimited.Written, Delimited.Bare, Delimited.fieldBlanks, tangledRows]
  obtain ⟨s, hopened, hinfo, hitems, hend, hrecords⟩ :=
    ofReader_of_quoted ';' (by decide) (by decide) (by decide) tangledHeaders (by decide)
      (by decide) tangledRows hrows false [1, 4] (by decide)
  obtain ⟨long, rest, hlong, hrest, hs⟩ := List.forall₂_cons_left_iff.mp hrecords
  obtain ⟨short, more, hshort, hmore, rfl⟩ := List.forall₂_cons_left_iff.mp hrest
  obtain rfl := List.forall₂_nil_left_iff.mp hmore
  have hfree : extraName 3 ∉ tangledHeaders := by decide +kernel
  refine ⟨hrows, s, long, short, hopened, ?_, ?_, hend 2 (by decide), hlong.values,
    hlong.header "n" 0 rfl, hlong.extra 3 (by decide) hfree, hshort.header "n" 0 rfl,
    hshort.header "" 1 rfl, hshort.extra 3 (by decide) hfree⟩
  · rw [hinfo]
  · rw [hitems, hs]
    rfl

end Source

end BulkLoad
