import BulkLoad.Proofs.Source.Opening

/-!
A source is its text: neither the encoding that carried the text nor the pieces in which it arrived
make a difference, apart from the name of the encoding.

Only a mark at the front of the text itself is out of account here, since it is dropped or not
depending on the first piece.
-/
namespace BulkLoad

open BulkLoad.Stream (Feed Reader Transcoder)
open Encoding (wholeText)

namespace Encoding

theorem ofLabel_utf8 : ofLabel "utf-8" = .utf8 := by
  decide

theorem name_of_utf8 : (name .utf8).map Char.toLower = "utf-8" := by
  decide +kernel

/-- Only a text that starts with the mark as a character is written with a mark at the front. -/
theorem Utf8.head_of_mark {cs : List Char} (h : Delimited.mark <+: Utf8.encode cs) :
    cs.head? = some Source.markChar := by
  obtain ⟨rest, hrest⟩ := h
  have hmark : Utf8.feed .ready Delimited.mark = (.ready, [Source.markChar]) := by decide
  have hback : Utf8.decode (Delimited.mark ++ rest) = Source.markChar :: Utf8.decode rest := by
    rw [Utf8.decode_eq, Utf8.feed_append, hmark]
    rfl
  rw [← Utf8.decode_encode cs, ← hrest, hback, List.head?_cons]

end Encoding

namespace Source

/-- Sources that read the same: the same delimiter and headers, the same missing columns for every
table, the same records and faults in the same order. -/
structure Alike (x y : Source) : Prop where
  delimiter : x.info.delimiter = y.info.delimiter
  headers : x.info.headers = y.info.headers
  missing : ∀ schema, x.missingColumns schema = y.missingColumns schema
  items : x.items = y.items

def renamed (s : Source) (encoding : Encoding) : Source :=
  { s with info := { s.info with encoding := encoding.name.map Char.toLower } }

theorem renamed_alike (s : Source) (encoding : Encoding) : Alike (s.renamed encoding) s :=
  ⟨rfl, rfl, fun _ => rfl, rfl⟩

variable [Encoding.EastAsian.Decoders]

theorem textBytes_of_ne {encoding : Encoding} (h : encoding ≠ .utf8) (bytes : List UInt8) :
    textBytes encoding bytes = Encoding.Utf8.encode (wholeText encoding bytes) := by
  cases encoding with
  | utf8 => exact absurd rfl h
  | utf16 _ | codePage _ | eastAsian _ | replacement | userDefined => rfl

/-- The reads of a transcoder over the stream, each into a room of its own, give the rows that the
source has: no buffer between the stream and the reader of rows makes a difference. -/
theorem rows_of_transcoder {encoding : Encoding} (h : encoding ≠ .utf8) {reader : Reader}
    (hprompt : reader.Prompt) (hsound : reader.fault = none)
    (hmark : ¬ Delimited.mark <+: Encoding.Utf8.encode (wholeText encoding reader.rest))
    (delimiter : UInt8) {rooms : Nat → Nat} (hrooms : ∀ i, 0 < rooms i) :
    let t := Transcoder.ofAnswers encoding (reader.feed Transcoder.chunkSize).answers
    ∃ parts : List (List UInt8),
      (∀ i (hi : i < parts.length), t.answer rooms i = .ok parts[i]) ∧
      (∀ i, parts.length ≤ i → t.answer rooms i = .ok []) ∧
      Delimited.rows delimiter (Delimited.asRead ⟨parts, none⟩) =
        Delimited.rows delimiter (textFeed encoding (reader.feed sampleSize)) := by
  intro t
  have howes := Transcoder.Owes.ofReader encoding hprompt hsound none
  rw [Transcoder.ending, List.append_nil] at howes
  obtain ⟨parts, hparts, hanswers, hend⟩ := howes.parts hrooms
  obtain ⟨hfailure, hbytes, -⟩ :=
    Reader.feed_of_sound (show 0 < sampleSize by decide) hprompt hsound
  obtain ⟨hplain, htext⟩ := plainFeed_of_end encoding hfailure
  rw [hbytes, textBytes_of_ne h] at htext
  refine ⟨parts, fun i hi => (hanswers i hi).1, (hend.settled hrooms).1, ?_⟩
  have hhanded : Feed.bytes ⟨parts, none⟩ =
      Encoding.Utf8.encode (wholeText encoding reader.rest) := hparts
  rw [textFeed_eq, Delimited.rows_of_bytes delimiter (hhanded ▸ hmark) rfl,
    Delimited.rows_of_bytes delimiter (htext ▸ hmark) hplain, hhanded, htext]

/-- **The text decides.** An input in some encoding and its text in UTF-8, each arriving in pieces
of its own, fail to open alike or are sources that differ in the name of their encoding only. -/
theorem ofReader_of_encoded (delimiter : Char) (hdelimiter : delimiter.toNat < 0x80)
    (label : String) (hlabel : Encoding.ofLabel label ≠ .utf8) (content : List UInt8)
    (sizes sizes' : List Nat) (hsizes : ∀ size ∈ sizes, 0 < size)
    (hsizes' : ∀ size ∈ sizes', 0 < size)
    (hmark : (wholeText (.ofLabel label) content).head? ≠ some markChar) :
    let text := wholeText (.ofLabel label) content
    let carried := ofReader ⟨some delimiter, some label⟩ ⟨content, 0, sizes, none⟩
    let plain := ofReader ⟨some delimiter, some "utf-8"⟩
      ⟨Encoding.Utf8.encode text, 0, sizes', none⟩
    (∃ fault, carried = .error fault ∧ plain = .error fault) ∨
      ∃ x y, carried = .ok x ∧ plain = .ok y ∧ Alike x y ∧ x = y.renamed (.ofLabel label) ∧
        y.info.encoding = "utf-8" := by
  intro text carried plain
  have hunmarked : ¬ Delimited.mark <+: Encoding.Utf8.encode text :=
    fun hfront => hmark (Encoding.Utf8.head_of_mark hfront)
  have hcarried : carried = ofFirstRows ⟨.ofLabel label, delimiter, delimiter.toNat.toUInt8⟩
      (Delimited.rowsOf delimiter.toNat.toUInt8 (Encoding.Utf8.encode text) true) none := by
    have hprompt : Reader.Prompt ⟨content, 0, sizes, none⟩ := hsizes
    exact ofReader_of_text hdelimiter rfl hprompt rfl (textBytes_of_ne hlabel content) hunmarked
  have hplain : plain = ofFirstRows ⟨.utf8, delimiter, delimiter.toNat.toUInt8⟩
      (Delimited.rowsOf delimiter.toNat.toUInt8 (Encoding.Utf8.encode text) true) none := by
    have hprompt : Reader.Prompt ⟨Encoding.Utf8.encode text, 0, sizes', none⟩ := hsizes'
    exact ofReader_of_text hdelimiter Encoding.ofLabel_utf8 hprompt rfl rfl hunmarked
  rw [ofFirstRows_encoding _ .utf8, ← hplain] at hcarried
  cases hresult : plain with
  | error fault =>
      left
      rw [hresult] at hcarried
      exact ⟨fault, hcarried, rfl⟩
  | ok y =>
      right
      rw [hresult] at hcarried hplain
      obtain ⟨header, rest, -, -, hy⟩ := ofFirstRows_eq_ok hplain.symm
      have hname : y.info.encoding = "utf-8" := by
        rw [hy]
        exact Encoding.name_of_utf8
      exact ⟨y.renamed (.ofLabel label), y, hcarried, rfl, renamed_alike y _, rfl, hname⟩

/-- A mark and two rows in UTF-16; a delimiter, a pair of surrogates and a line feed are quoted. -/
def pairContent : List UInt8 :=
  [0xFF, 0xFE, 0x6E, 0x00, 0x3B, 0x00, 0x6D, 0x00, 0x0D, 0x00, 0x0A, 0x00, 0x22, 0x00, 0x78,
    0x00, 0x3B, 0x00, 0x3D, 0xD8, 0x00, 0xDE, 0x22, 0x00, 0x3B, 0x00, 0x22, 0x00, 0xE9, 0x00,
    0x0A, 0x00, 0x22, 0x00, 0x0D, 0x00, 0x0A, 0x00]

omit [Encoding.EastAsian.Decoders] in
theorem ofReader_of_pairContent :
    letI := Encoding.Katakana.decoders
    let text := "n;m\r\n\"x;😀\";\"é\n\"\r\n".toList
    let carried := ofReader ⟨some ';', some "utf-16le"⟩ ⟨pairContent, 0, [3], none⟩
    let plain := ofReader ⟨some ';', some "utf-8"⟩ ⟨Encoding.Utf8.encode text, 0, [1, 2], none⟩
    Encoding.ofLabel "utf-16le" ≠ .utf8 ∧
      wholeText (.ofLabel "utf-16le") pairContent = text ∧ text.head? ≠ some markChar ∧
      ∃ x y, carried = .ok x ∧ plain = .ok y ∧ Alike x y ∧
        x.records = [⟨1, [("n", "x;😀"), ("m", "é")]⟩] := by
  let := Encoding.Katakana.decoders
  intro text carried plain
  have hlabel : Encoding.ofLabel "utf-16le" ≠ .utf8 := by decide
  have htext : wholeText (.ofLabel "utf-16le") pairContent = text := by decide +kernel
  have hmark : text.head? ≠ some markChar := by decide
  have hrecords : carried.toOption.map (·.records) =
      some [⟨1, [("n", "x;😀"), ("m", "é")]⟩] := by decide +kernel
  have halike := ofReader_of_encoded ';' (by decide) "utf-16le" hlabel pairContent [3] [1, 2]
    (by decide) (by decide) (htext ▸ hmark)
  rw [htext] at halike
  refine ⟨hlabel, htext, hmark, ?_⟩
  rcases halike with ⟨fault, hcarried, -⟩ | ⟨x, y, hcarried, hplain, hsame, -, -⟩
  · simp only [carried, hcarried] at hrecords
    cases hrecords
  · simp only [carried, hcarried] at hrecords
    exact ⟨x, y, hcarried, hplain, hsame, Option.some.inj hrecords⟩

end Source

end BulkLoad
