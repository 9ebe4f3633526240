import BulkLoad.Proofs.Delimited.FirstRow
import BulkLoad.Proofs.Source.Marks

/-!
The header line, and the line in which the delimiter is looked for.

The reader of rows passes over blank lines, and lines end for it at carriage returns too; the search
for the delimiter counts in the text up to the first line feed. The header is read from its line in
either case, with the delimiter of the other one where they differ.
-/
namespace BulkLoad

open Encoding.Utf8 (encode encodeChar eq_of_mem_encodeChar)

namespace Text

def endsLine (c : Char) : Bool := c == '\n' || c == '\r'

def headerLine (cs : List Char) : List Char := (cs.dropWhile endsLine).takeWhile (!endsLine ·)

/-- The text up to the first line feed is the header line, or goes on without a delimiter. -/
def HeaderFirst (cs : List Char) : Prop :=
  ∃ back, firstLine cs = headerLine cs ++ back ∧ ∀ c ∈ Delimited.delimiters, c ∉ back

theorem headerLine_ne_nil {cs : List Char} (h : ∃ c ∈ cs, endsLine c = false) :
    headerLine cs ≠ [] := by
  induction cs with
  | nil => simp at h
  | cons c rest ih =>
      cases hc : endsLine c with
      | false => simp [headerLine, hc]
      | true =>
          have hrest : ∃ d ∈ rest, endsLine d = false := by simpa [hc] using h
          have hskip : headerLine (c :: rest) = headerLine rest := by simp [headerLine, hc]
          rw [hskip]
          exact ih hrest

end Text

namespace Delimited

/-- What has no delimiter in it has no part in which one is found. -/
theorem detectDelimiter_append {back : List Char} (h : ∀ c ∈ delimiters, c ∉ back)
    (line : List Char) : detectDelimiter (line ++ back) = detectDelimiter line := by
  have hcount : ∀ c ∈ delimiters, (line ++ back).count c = line.count c := by
    intro c hc
    rw [List.count_append, List.count_eq_zero.mpr (h c hc), Nat.add_zero]
  exact detectDelimiter_eq_iff.mpr
    ((detectDelimiter_prevails line).congr fun c hc => (hcount c hc).symm)

theorem endsRow_delimiter : ∀ c ∈ delimiters, endsRow c.toNat.toUInt8 = false := by
  simp only [delimiters, List.forall_mem_cons, List.not_mem_nil, false_imp_iff, implies_true,
    and_true]
  decide

end Delimited

namespace Encoding.Utf8

/-- The bytes that end rows are those of the characters that end lines. -/
theorem endsRow_of_mem_encodeChar (c : Char) :
    ∀ b ∈ encodeChar c, Delimited.endsRow b = Text.endsLine c := by
  intro b hb
  cases hc : Text.endsLine c with
  | true =>
      simp only [Text.endsLine, Bool.or_eq_true, beq_iff_eq] at hc
      rcases hc with rfl | rfl <;> rw [List.mem_singleton.mp hb] <;> rfl
  | false =>
      apply Bool.eq_false_iff.mpr
      intro hends
      simp only [Delimited.endsRow, Bool.or_eq_true, beq_iff_eq] at hends
      rcases hends with rfl | rfl <;>
        rw [eq_of_mem_encodeChar hb (by decide)] at hc <;> revert hc <;> decide

theorem headerBytes_encode (cs : List Char) :
    Delimited.headerBytes (encode cs) = encode (Text.headerLine cs) := by
  have hkept : ∀ c, ∀ b ∈ encodeChar c, (!Delimited.endsRow b) = !Text.endsLine c :=
    fun c b hb => congrArg _ (endsRow_of_mem_encodeChar c b hb)
  rw [Delimited.headerBytes, dropWhile_encode endsRow_of_mem_encodeChar, takeWhile_encode hkept]
  rfl

theorem quote_not_mem_encode {cs : List Char} (h : '"' ∉ cs) : Delimited.quote ∉ encode cs := by
  intro hmem
  obtain ⟨c, hc, hb⟩ := List.mem_flatMap.mp hmem
  have hquote : c = '"' := eq_of_mem_encodeChar hb (by decide)
  exact h (hquote ▸ hc)

end Encoding.Utf8

namespace Source

/-- What a source says about itself depends on the fields of its first row alone. -/
theorem info_ofFirstRows {m : Manner} {rows : List Delimited.Row} {fields : List (List UInt8)}
    (h : (rows.map (·.fields)).take 1 = [fields]) :
    (ofFirstRows m rows none).map (·.info) =
      if (fields.map headerName).all (·.isEmpty) then .error .noHeaders
      else .ok ⟨m.encoding.name.map Char.toLower, m.delimiter, fields.map headerName⟩ := by
  cases rows with
  | nil => cases h
  | cons header rest =>
      obtain ⟨rfl⟩ : header.fields = fields := (List.cons.inj h).1
      simp only [ofFirstRows]
      split_ifs <;> rfl

/-- **Where the delimiter is looked for.** Text without quotes that arrives in one piece is read
with the delimiter of its first line as line feeds end lines. Its header is the row of its header
line under this delimiter, which is the delimiter of the header line itself if nothing but
characters that are no delimiters sets the two lines apart. -/
theorem ofReader_of_headerLine [Encoding.EastAsian.Decoders] (cs : List Char) (hquote : '"' ∉ cs)
    (hline : ∃ c ∈ withoutMark cs, Text.endsLine c = false)
    (hlength : (encode cs).length ≤ sampleSize) :
    let text := withoutMark cs
    let found := Delimited.detectDelimiter (Text.firstLine text)
    let opened := ofReader ⟨none, some "utf-8"⟩ ⟨encode cs, 0, [], none⟩
    ∃ row, Delimited.rowsOf found.toNat.toUInt8 (encode (Text.headerLine text)) true = [row] ∧
      opened = ofReader ⟨some found, some "utf-8"⟩ ⟨encode cs, 0, [], none⟩ ∧
      opened.map (·.info) =
        (if (row.fields.map headerName).all (·.isEmpty) then .error .noHeaders
          else .ok ⟨"utf-8", found, row.fields.map headerName⟩) ∧
      ∀ s, opened = .ok s →
        s.info.delimiter = found ∧
          (Text.HeaderFirst text →
            s.info.delimiter = Delimited.detectDelimiter (Text.headerLine text)) := by
  intro text found opened
  have hascii : found.toNat < 0x80 := Delimited.detectDelimiter_ascii _
  have hdelimiter : Delimited.endsRow found.toNat.toUInt8 = false :=
    Delimited.endsRow_delimiter found (Delimited.detectDelimiter_mem _)
  have hfound : detected "utf-8" (encode cs) [] = found := by
    rw [detected_of_seesHeader (.inl (sampleOf_whole hlength)), Encoding.ofLabel_utf8,
      wholeText_encode]
  have hopened : opened = ofReader ⟨some found, some "utf-8"⟩ ⟨encode cs, 0, [], none⟩ := by
    rw [← hfound]
    exact ofReader_of_detected "utf-8" (encode cs) (by simp)
  have hread : opened = ofFirstRows ⟨.utf8, found, found.toNat.toUInt8⟩
      (Delimited.rowsOf found.toNat.toUInt8 (encode text) true) none := by
    rw [hopened, ofReader_of_utf8 hascii (encode cs) (by simp), readText_encode hlength]
  have hplain : Delimited.quote ∉ encode text := by
    apply Encoding.Utf8.quote_not_mem_encode
    exact fun hmem => hquote (mem_of_mem_withoutMark hmem)
  -- The header line is one of characters, and the reader finds the header among bytes; the first
  -- line that is not blank is the same for both.
  have hheader := Delimited.fields_rowsOf_headerBytes hdelimiter hplain
  have hne : encode (Text.headerLine text) ≠ [] :=
    Encoding.Utf8.encode_ne_nil (Text.headerLine_ne_nil hline)
  have hbytes := Delimited.plainLine_headerBytes hplain
  rw [Encoding.Utf8.headerBytes_encode] at hheader hbytes
  obtain ⟨row, hrow⟩ := Delimited.rowsOf_plainLine found.toNat.toUInt8 hne hbytes
  rw [hrow] at hheader
  refine ⟨row, hrow, hopened, ?_, ?_⟩
  · rw [hread, info_ofFirstRows hheader.symm, Encoding.name_of_utf8]
  · intro s hs
    rw [hread] at hs
    obtain ⟨header, rest, -, -, rfl⟩ := ofFirstRows_eq_ok hs
    refine ⟨rfl, ?_⟩
    rintro ⟨back, hback, hnone⟩
    change Delimited.detectDelimiter (Text.firstLine text) = _
    rw [hback, Delimited.detectDelimiter_append hnone]

/-- A mark, a header line that ends with a pair, and a line in which another delimiter prevails. -/
def pairedText : List Char := "\ufeffa,b;c,d\r\n1;2;3;4\n".toList

theorem ofReader_of_pairedText :
    letI := Encoding.Katakana.decoders
    let opened := ofReader ⟨none, some "utf-8"⟩ ⟨encode pairedText, 0, [], none⟩
    '"' ∉ pairedText ∧ (∃ c ∈ withoutMark pairedText, Text.endsLine c = false) ∧
      (encode pairedText).length ≤ sampleSize ∧ Text.HeaderFirst (withoutMark pairedText) ∧
      ∃ s, opened = .ok s ∧ s.info.headers = ["a", "b;c", "d"] ∧
        s.info.delimiter = Delimited.detectDelimiter "a,b;c,d".toList := by
  let := Encoding.Katakana.decoders
  intro opened
  have hquote : '"' ∉ pairedText := by decide
  have hline : ∃ c ∈ withoutMark pairedText, Text.endsLine c = false := ⟨'a', by decide, by decide⟩
  have hlength : (encode pairedText).length ≤ sampleSize := by decide
  have hfirst : Text.HeaderFirst (withoutMark pairedText) :=
    ⟨['\r'], by decide, by simp [Delimited.delimiters]⟩
  have hread : opened.toOption.map (·.info.headers) = some ["a", "b;c", "d"] := by decide +kernel
  obtain ⟨s, hopened, hheaders⟩ := ok_of_map_eq_some hread
  obtain ⟨-, -, -, -, hdelimiter⟩ := ofReader_of_headerLine pairedText hquote hline hlength
  exact ⟨hquote, hline, hlength, hfirst, s, hopened, hheaders, (hdelimiter s hopened).2 hfirst⟩

/-- A blank line comes before the header line here, and the delimiter is looked for in it. -/
theorem ofReader_of_blankLine :
    letI := Encoding.Katakana.decoders
    let text := "\na,b\n1,2\n".toList
    (ofReader ⟨none, some "utf-8"⟩ ⟨encode text, 0, [], none⟩).toOption.map (·.info) =
        some ⟨"utf-8", ';', ["a,b"]⟩ ∧
      Text.headerLine text = "a,b".toList ∧
      Delimited.detectDelimiter (Text.headerLine text) = ',' := by
  let := Encoding.Katakana.decoders
  refine ⟨?_, ?_, ?_⟩ <;> decide +kernel

end Source

end BulkLoad
