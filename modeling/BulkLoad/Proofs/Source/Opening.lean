import BulkLoad.Proofs.Delimited.Endings
import BulkLoad.Proofs.Stream.Transcoding
import BulkLoad.Source.Intake

/-!
Opening a source whose delimiter and encoding are given.

Nothing is found out from a sample then: the stream is read as text, and the first rows decide. A
text that does not start with a mark reaches the reader of rows as it is, whatever pieces it comes
in.

UTF-8 text can also be read block by block. Without a mark in front the first block is read as it
stands, and if a row ends in it the source is opened by that block alone. Every later block goes on
where the one before it stopped. Other encodings, whose decoder stands between the blocks and the
rows, are left aside there.
-/
namespace BulkLoad

open Encoding (Sniffing wholeText)
open BulkLoad.Stream (CutOf Feed Reader)

namespace Delimited

theorem asRead_of_head_ne {feed : Feed} (h : feed.pieces.head? ≠ some mark) :
    asRead feed = feed := by
  obtain ⟨pieces, failure⟩ := feed
  cases pieces with
  | nil => rfl
  | cons first rest =>
      have hfirst : first ≠ mark := by
        rintro rfl
        exact h rfl
      exact if_neg hfirst

theorem asRead_of_head_eq {feed : Feed} (h : feed.pieces.head? = some mark) :
    asRead feed = ⟨[], none⟩ := by
  obtain ⟨pieces, failure⟩ := feed
  cases pieces with
  | nil => cases h
  | cons first rest =>
      rw [List.head?_cons, Option.some.injEq] at h
      exact if_pos h

theorem head_ne_mark {feed : Feed} (h : ¬ mark <+: feed.bytes) :
    feed.pieces.head? ≠ some mark := by
  intro hhead
  obtain ⟨rest, hrest⟩ := List.head?_eq_some_iff.mp hhead
  apply h
  rw [Feed.bytes, hrest, List.flatten_cons]
  exact List.prefix_append mark rest.flatten

theorem unmarked_of_bytes {feed : Feed} (h : ¬ mark <+: feed.bytes) :
    unmarked feed.pieces = feed.bytes := by
  rw [unmarked_eq_drop]
  cases hpieces : feed.pieces with
  | nil => rw [Feed.bytes, hpieces]; rfl
  | cons first rest =>
      have hnot : ¬ mark.isPrefixOf first = true := by
        intro hfirst
        apply h
        rw [Feed.bytes, hpieces, List.flatten_cons]
        exact (List.isPrefixOf_iff_prefix.mp hfirst).trans (List.prefix_append first rest.flatten)
      rw [skipped_cons, if_neg hnot, List.drop_zero, Feed.bytes, hpieces]

/-- The rows of a complete text without a mark do not depend on its pieces. -/
theorem rows_of_bytes (delimiter : UInt8) {feed : Feed} (h : ¬ mark <+: feed.bytes)
    (hfailure : feed.failure = none) :
    rows delimiter (asRead feed) = rowsOf delimiter feed.bytes true := by
  rw [asRead_of_head_ne (head_ne_mark h), rows, unmarked_of_bytes h, hfailure]
  rfl

end Delimited

namespace Source

section Texts

variable [Encoding.EastAsian.Decoders]

/-- The text of an input as UTF-8. UTF-8 itself is read as it stands. -/
def textBytes (encoding : Encoding) (bytes : List UInt8) : List UInt8 :=
  match encoding with
  | .utf8 => bytes
  | _ => Encoding.Utf8.encode (wholeText encoding bytes)

/-- The text, as UTF-8, that the first bytes of an input complete. -/
def textSoFar (encoding : Encoding) (bytes : List UInt8) : List UInt8 :=
  match encoding with
  | .utf8 => bytes
  | _ => Encoding.Utf8.encode (Sniffing.feed encoding (.undecided []) bytes).2

def plainFeed (encoding : Encoding) (feed : Feed) : Feed :=
  match encoding with
  | .utf8 => feed
  | _ => feed.transcode encoding

theorem textFeed_eq (encoding : Encoding) (feed : Feed) :
    textFeed encoding feed = Delimited.asRead (plainFeed encoding feed) := by
  cases encoding <;> rfl

theorem plainFeed_of_end (encoding : Encoding) {feed : Feed} (h : feed.failure = none) :
    (plainFeed encoding feed).failure = none ∧
      (plainFeed encoding feed).bytes = textBytes encoding feed.bytes := by
  have hother := Feed.transcodeFrom_of_end encoding (.undecided []) feed.pieces
  rw [← h] at hother
  have hwhole : Sniffing.text encoding (.undecided []) feed.pieces.flatten =
      wholeText encoding feed.bytes := Encoding.decode_eq_wholeText encoding feed.bytes
  rw [hwhole] at hother
  cases encoding with
  | utf8 => exact ⟨h, rfl⟩
  | utf16 _ | codePage _ | eastAsian _ | replacement | userDefined =>
      exact ⟨hother.1.trans h, hother.2⟩

theorem plainFeed_of_failure (encoding : Encoding) {feed : Feed} {message : String}
    (h : feed.failure = some message) :
    (plainFeed encoding feed).failure = some message ∧
      (plainFeed encoding feed).bytes = textSoFar encoding feed.bytes := by
  have hother := Feed.transcodeFrom_of_failure encoding message (.undecided []) feed.pieces
  rw [← h] at hother
  cases encoding with
  | utf8 => exact ⟨h, rfl⟩
  | utf16 _ | codePage _ | eastAsian _ | replacement | userDefined =>
      exact ⟨hother.1.trans h, hother.2⟩

theorem cutOf_plainFeed (encoding : Encoding) {short whole : Feed} {message : String}
    (h : CutOf short.pieces whole.pieces) (hshort : short.failure = some message)
    (hwhole : whole.failure = none) :
    CutOf (plainFeed encoding short).pieces (plainFeed encoding whole).pieces := by
  have hother := Feed.cutOf_transcodeFrom encoding message (.undecided []) h
  rw [← hshort, ← hwhole] at hother
  cases encoding with
  | utf8 => exact h
  | utf16 _ | codePage _ | eastAsian _ | replacement | userDefined => exact hother

theorem textBytes_nil (encoding : Encoding) : textBytes encoding [] = [] := by
  cases encoding with
  | utf8 => rfl
  | utf16 _ | codePage _ | eastAsian _ | replacement | userDefined =>
      exact congrArg Encoding.Utf8.encode (Encoding.wholeText_nil _)

/-- What is given is not looked for in the sample. -/
theorem manner_of_given {delimiter : Char} (h : delimiter.toNat < 0x80) (label : String)
    (sample : List UInt8) :
    manner ⟨some delimiter, some label⟩ sample =
      .ok ⟨.ofLabel label, delimiter, delimiter.toNat.toUInt8⟩ := by
  have hbyte : delimiterByte? delimiter = some delimiter.toNat.toUInt8 := if_pos h
  simp only [manner, delimiterOf, Option.getD_some, hbyte, labelOf]

theorem ofFeed_of_given {delimiter : Char} (h : delimiter.toNat < 0x80) (label : String)
    {feed : Feed} (hpieces : feed.pieces ≠ []) :
    let m : Manner := ⟨.ofLabel label, delimiter, delimiter.toNat.toUInt8⟩
    ofFeed ⟨some delimiter, some label⟩ feed =
      ofFirstRows m (Delimited.rows m.byte (textFeed m.encoding feed))
        (textFeed m.encoding feed).failure := by
  obtain ⟨pieces, failure⟩ := feed
  cases pieces with
  | nil => exact absurd rfl hpieces
  | cons sample rest => simp only [ofFeed, manner_of_given h]

/-- A whole input without a mark is opened by the rows of its text. -/
theorem ofReader_of_text {delimiter : Char} (h : delimiter.toNat < 0x80) {label : String}
    {encoding : Encoding} (hlabel : Encoding.ofLabel label = encoding) {reader : Reader}
    (hprompt : reader.Prompt) (hsound : reader.fault = none) {text : List UInt8}
    (htext : textBytes encoding reader.rest = text) (hmark : ¬ Delimited.mark <+: text) :
    ofReader ⟨some delimiter, some label⟩ reader =
      ofFirstRows ⟨encoding, delimiter, delimiter.toNat.toUInt8⟩
        (Delimited.rowsOf delimiter.toNat.toUInt8 text true) none := by
  obtain ⟨hfailure, hbytes, -⟩ :=
    Reader.feed_of_sound (show 0 < sampleSize by decide) hprompt hsound
  unfold ofReader
  by_cases hpieces : (reader.feed sampleSize).pieces = []
  · have hrest : reader.rest = [] := by rw [← hbytes, Feed.bytes, hpieces, List.flatten_nil]
    have hnone : ofFeed ⟨some delimiter, some label⟩ (reader.feed sampleSize) =
        .error .noHeaders := by
      simp only [ofFeed, hpieces, hfailure]
    rw [hnone, ← htext, hrest, textBytes_nil]
    rfl
  · obtain ⟨hend, hplain⟩ := plainFeed_of_end encoding hfailure
    rw [hbytes, htext] at hplain
    rw [← hplain] at hmark
    rw [ofFeed_of_given h label hpieces]
    simp only [hlabel, textFeed_eq]
    rw [Delimited.rows_of_bytes _ hmark hend,
      Delimited.asRead_of_head_ne (Delimited.head_ne_mark hmark), hend, hplain]

end Texts

theorem ok_of_map_eq_some {ε α β : Type} {result : Except ε α} {f : α → β} {b : β}
    (h : result.toOption.map f = some b) : ∃ a, result = .ok a ∧ f a = b := by
  cases result with
  | error fault => cases h
  | ok a => exact ⟨a, rfl, Option.some.inj h⟩

section FirstRows

/-- The encoding is named in a source and has no other part in it. -/
theorem ofFirstRows_encoding (encoding other : Encoding) (delimiter : Char) (byte : UInt8)
    (rows : List Delimited.Row) (failure : Option String) :
    ofFirstRows ⟨encoding, delimiter, byte⟩ rows failure =
      (ofFirstRows ⟨other, delimiter, byte⟩ rows failure).map fun s =>
        { s with info := { s.info with encoding := encoding.name.map Char.toLower } } := by
  cases rows with
  | nil => cases failure <;> rfl
  | cons header rest =>
      simp only [ofFirstRows]
      split_ifs <;> rfl

theorem ofFirstRows_eq_ok {m : Manner} {rows : List Delimited.Row} {failure : Option String}
    {s : Source} (h : ofFirstRows m rows failure = .ok s) :
    ∃ header rest, rows = header :: rest ∧
      (header.fields.map headerName).all (·.isEmpty) = false ∧
      s = ⟨⟨m.encoding.name.map Char.toLower, m.delimiter, header.fields.map headerName⟩, rest,
        failure⟩ := by
  cases rows with
  | nil => cases failure <;> cases h
  | cons header rest =>
      simp only [ofFirstRows] at h
      split_ifs at h with hempty
      cases h
      exact ⟨header, rest, rfl, by simpa using hempty, rfl⟩

theorem ofFirstRows_cons {m : Manner} {header : Delimited.Row}
    (h : (header.fields.map headerName).all (·.isEmpty) = false) (rest : List Delimited.Row)
    (failure : Option String) :
    ofFirstRows m (header :: rest) failure =
      .ok ⟨⟨m.encoding.name.map Char.toLower, m.delimiter, header.fields.map headerName⟩, rest,
        failure⟩ := by
  simp only [ofFirstRows, h, Bool.false_eq_true, if_false]

end FirstRows

end Source

variable [Encoding.EastAsian.Decoders]

namespace Intake

/-- A first block that does not start like a mark. -/
theorem takeBlock_first (delimiter : Char) (byte : UInt8) {b : UInt8} (h : b ≠ 0xEF)
    (rest : List UInt8) :
    let fed := Delimited.RowState.start.feedOnto byte [] (b :: rest)
    (start ⟨.utf8, delimiter, byte⟩).takeBlock (b :: rest) =
      (⟨.utf8, byte, .undecided [], true, fed.1, (b :: rest).length, .running⟩,
        fed.2.reverse) := by
  intro fed
  have hmark : (b :: rest == Delimited.mark) = false := by
    simp [Delimited.mark, h]
  have hplain : Delimited.mark.isPrefixOf (b :: rest) = false := by
    simp [Delimited.mark, List.isPrefixOf, h.symm]
  simp only [takeBlock, start, takeText, List.isEmpty_cons, hmark, Delimited.unmark, hplain,
    Bool.false_eq_true, if_false, Bool.and_false, Nat.zero_add]
  rfl

variable {i : Intake}

theorem take_block (hencoding : i.encoding = .utf8) (hbegun : i.begun = true) {block : List UInt8}
    (hblock : block ≠ []) :
    let fed := i.row.feedOnto i.delimiter [] block
    i.take (.ok block) =
      ({ i with position := i.position + block.length, row := fed.1 }, fed.2.reverse) := by
  intro fed
  obtain ⟨b, rest, rfl⟩ := List.exists_cons_of_ne_nil hblock
  simp only [take, takeBlock, takeText, hencoding, hbegun, List.isEmpty_cons, Bool.false_eq_true,
    if_false, Bool.not_true, Bool.false_and, if_true]
  rfl

/-- The end between two rows. -/
theorem take_end (hencoding : i.encoding = .utf8) (hinflow : i.inflow = .running)
    (hrow : i.row.finish = none) : i.take (.ok []) = ({ i with inflow := .ended }, []) := by
  simp only [take, takeEnd, hencoding, close, hinflow, hrow]
  rfl

end Intake

namespace OpenSource

/-- An input in whose first block a row ends is opened by that block alone. -/
theorem ofReads_of_row {options : SourceOptions} {read : Nat → Stream.Answer} {b : UInt8}
    {rest : List UInt8} {m : Source.Manner} {i : Intake} {header : Delimited.Row}
    {rows : List Delimited.Row} {reads : Nat} (hread : read 0 = .ok (b :: rest))
    (hmanner : Source.manner options (b :: rest) = .ok m)
    (hblock : (Intake.start m).takeBlock (b :: rest) = (i, header :: rows))
    (hnames : (header.fields.map Source.headerName).all (·.isEmpty) = false) :
    ofReads options read reads =
      some (.ok ⟨⟨m.encoding.name.map Char.toLower, m.delimiter,
        header.fields.map Source.headerName⟩, rows, i⟩) := by
  simp only [ofReads, hread, hmanner, hblock, ofFirstRows, Source.ofFirstRows_cons hnames]

end OpenSource

end BulkLoad
