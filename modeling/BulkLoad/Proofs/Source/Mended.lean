import BulkLoad.Proofs.Delimited.Patches
import BulkLoad.Proofs.Encoding.Mending
import BulkLoad.Proofs.Source.Marks

/-!
Sources over bytes that are no UTF-8.

Fields are decoded one by one, after rows were taken apart and blanks removed. Decoding the whole
content first gives the same: mending it is a patch of the stretches beyond ASCII, and what is read
of a field is its text.
-/
namespace BulkLoad

open Encoding.Utf8 (decode decode_mend encode mend)

theorem Delimited.patch_mend : Delimited.Patch mend where
  ascii hb xs ys := Encoding.Utf8.mend_ascii hb xs ys
  nil := rfl
  ne_nil h := Encoding.Utf8.mend_ne_nil h
  wide h := Encoding.Utf8.mend_wide h

namespace Source

section Marks

theorem decode_mark_append (rest : List UInt8) :
    decode (Delimited.mark ++ rest) = markChar :: decode rest := by
  have hmark : encode [markChar] = Delimited.mark := by decide
  rw [← hmark]
  exact Encoding.Utf8.decode_encode_append [markChar] rest

/-- A first read of everything drops the mark. -/
theorem readText_mark (rest : List UInt8) : readText (Delimited.mark ++ rest) [] = rest := by
  have hlength : (sampleOf (Delimited.mark ++ rest) []).length =
      min sampleSize (rest.length + 3) := by
    change ((Delimited.mark ++ rest).take sampleSize).length = _
    rw [List.length_take]
    rfl
  have hsample : sampleSize = 65536 := rfl
  rw [readText_marked, hlength]
  split_ifs with hmore hexact
  · rfl
  · have hnone : rest.length = 0 := by omega
    exact (List.length_eq_zero_iff.mp hnone).symm
  · omega

theorem readText_mend (content : List UInt8) :
    readText (mend content) [] = mend (readText content []) := by
  by_cases h : Delimited.mark <+: content
  · obtain ⟨rest, rfl⟩ := h
    have hmend : mend (Delimited.mark ++ rest) = Delimited.mark ++ mend rest := by
      rw [mend, decode_mark_append, encode_markChar]
      rfl
    rw [hmend, readText_mark, readText_mark]
  · have hmended : ¬ Delimited.mark <+: mend content :=
      fun hfront => h (Encoding.Utf8.mark_of_head (Encoding.Utf8.head_of_mark hfront))
    rw [readText_unmarked h, readText_unmarked hmended]

end Marks

section Rows

theorem headerName_mend (field : List UInt8) : headerName (mend field) = headerName field := by
  rw [headerName, headerName, decode_mend]

theorem nameFields_mend (place : Nat) (headers : List String) (fields : List (List UInt8)) :
    nameFields place headers (fields.map mend) = nameFields place headers fields := by
  have htext : ∀ field, Encoding.Utf8.decodeText (mend field) = Encoding.Utf8.decodeText field := by
    intro field
    rw [Encoding.Utf8.decodeText, Encoding.Utf8.decodeText, decode_mend]
  induction fields generalizing place headers with
  | nil => cases headers <;> rfl
  | cons field fields ih =>
      cases headers <;> simp only [List.map_cons, nameFields, htext, ih]

def mended (s : Source) : Source := { s with rows := s.rows.map (Delimited.Row.map mend) }

theorem mended_records (s : Source) : s.mended.records = s.records := by
  change (s.rows.map (Delimited.Row.map mend)).map (recordUnder s.info.headers) = _
  rw [List.map_map]
  apply List.map_congr_left
  intro row _
  simp only [Function.comp_apply, recordUnder, Delimited.Row.map, nameFields_mend]

theorem mended_alike (s : Source) : Alike s.mended s := by
  refine ⟨rfl, rfl, fun _ => rfl, ?_⟩
  rw [items, items, mended_records]
  rfl

theorem ofFirstRows_mend (m : Manner) (rows : List Delimited.Row) (failure : Option String) :
    ofFirstRows m (rows.map (Delimited.Row.map mend)) failure =
      (ofFirstRows m rows failure).map mended := by
  cases rows with
  | nil => cases failure <;> rfl
  | cons header rest =>
      have hheaders : (header.fields.map mend).map headerName = header.fields.map headerName := by
        rw [List.map_map]
        exact List.map_congr_left fun field _ => headerName_mend field
      simp only [List.map_cons, ofFirstRows, Delimited.Row.map, hheaders]
      split_ifs <;> rfl

end Rows

/-- **Decoding field by field is decoding the whole.** Content without quotes that is read as UTF-8
with a given delimiter and its text written as UTF-8 fail to open alike, or are sources with the
same headers and records on the same lines: the rows of the one are those of the other with each
field mended, so no broken sequence takes in anything of what stands beside it. -/
theorem ofReader_of_mended [Encoding.EastAsian.Decoders] (delimiter : Char)
    (hdelimiter : delimiter.toNat < 0x80) (content : List UInt8)
    (hquote : Delimited.quote ∉ content) :
    let byte := delimiter.toNat.toUInt8
    let opened (bytes : List UInt8) := ofReader ⟨some delimiter, some "utf-8"⟩ (.ofBytes bytes)
    Delimited.rowsOf byte (readText (mend content) []) true =
        (Delimited.rowsOf byte (readText content []) true).map (Delimited.Row.map mend) ∧
      ((∃ fault, opened content = .error fault ∧ opened (mend content) = .error fault) ∨
        ∃ x y, opened content = .ok x ∧ opened (mend content) = .ok y ∧ y = x.mended ∧
          y.info = x.info ∧ y.records = x.records ∧ Alike y x) := by
  intro byte opened
  have hbyte : byte < 0x80 := by
    rw [UInt8.lt_iff_toNat_lt, Encoding.Utf8.byte_toNat (Nat.lt_trans hdelimiter (by decide))]
    exact hdelimiter
  have hplain : Delimited.quote ∉ readText content [] := by
    intro hmem
    rw [readText, Delimited.afterMark] at hmem
    split_ifs at hmem
    · cases hmem
    · exact hquote (List.mem_of_mem_drop hmem)
    · exact hquote (List.mem_of_mem_drop hmem)
  have hrows := Delimited.rowsOf_patch Delimited.patch_mend hbyte hplain
  rw [← readText_mend] at hrows
  have hopened : opened (mend content) = (opened content).map mended := by
    have hsizes : ∀ size ∈ ([] : List Nat), 0 < size := by simp
    simp only [opened, Stream.Reader.ofBytes, ofReader_of_utf8 hdelimiter _ hsizes]
    rw [hrows, ofFirstRows_mend]
  refine ⟨hrows, ?_⟩
  cases hresult : opened content with
  | error fault =>
      left
      rw [hresult] at hopened
      exact ⟨fault, rfl, hopened⟩
  | ok x =>
      right
      rw [hresult] at hopened
      exact ⟨x, x.mended, rfl, hopened, rfl, rfl, mended_records x, mended_alike x⟩

/-- Sequences that are cut off, overlong, stray or of a surrogate, beside delimiters, blanks and
line ends. -/
def brokenSequences : List UInt8 :=
  [0x6E, 0xC3, 0x3B, 0xE2, 0x82, 0x20, 0x3B, 0x6D, 0x0A,
    0xF0, 0x9F, 0x98, 0x3B, 0x20, 0xC0, 0xAF, 0x20, 0x3B, 0x80, 0x78, 0x0D, 0x0A,
    0xED, 0xA0, 0x80, 0x3B, 0x79, 0xE2, 0x0A]

theorem ofReader_of_brokenSequences :
    letI := Encoding.Katakana.decoders
    let opened (bytes : List UInt8) := ofReader ⟨some ';', some "utf-8"⟩ (.ofBytes bytes)
    let headers := ["n\ufffd", "\ufffd", "m"]
    let records : List Record :=
      [⟨2, [("n\ufffd", "\ufffd"), ("\ufffd", "\ufffd\ufffd"), ("m", "\ufffdx")]⟩,
        ⟨2, [("n\ufffd", "\ufffd\ufffd\ufffd"), ("\ufffd", "y\ufffd")]⟩]
    ';'.toNat < 0x80 ∧ Delimited.quote ∉ brokenSequences ∧
      mend brokenSequences ≠ brokenSequences ∧
      ∃ x y, opened brokenSequences = .ok x ∧ opened (mend brokenSequences) = .ok y ∧
        x.info.headers = headers ∧ x.records = records ∧
        y.info.headers = headers ∧ y.records = records := by
  let := Encoding.Katakana.decoders
  intro opened headers records
  have hdelimiter : ';'.toNat < 0x80 := by decide
  have hquote : Delimited.quote ∉ brokenSequences := by decide
  have hbroken : mend brokenSequences ≠ brokenSequences := by decide +kernel
  have hread : (opened brokenSequences).toOption.map (fun s => (s.info.headers, s.records)) =
      some (headers, records) := by decide +kernel
  obtain ⟨s, hs, hboth⟩ := ok_of_map_eq_some hread
  obtain ⟨hheaders, hrecords⟩ := Prod.mk.inj hboth
  refine ⟨hdelimiter, hquote, hbroken, ?_⟩
  rcases (ofReader_of_mended ';' hdelimiter brokenSequences hquote).2 with
    ⟨fault, hfault, -⟩ | ⟨x, y, hx, hy, -, hinfo, hsame, -⟩
  · cases hs.symm.trans hfault
  · obtain rfl : s = x := Except.ok.inj (hs.symm.trans hx)
    exact ⟨s, y, hx, hy, hheaders, hrecords, hinfo ▸ hheaders, hsame.trans hrecords⟩

end Source

end BulkLoad
