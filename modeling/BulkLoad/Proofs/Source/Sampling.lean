import BulkLoad.Proofs.Delimited.Prevalence
import BulkLoad.Proofs.Encoding.Katakana
import BulkLoad.Proofs.Source.Opening

/-!
The delimiter that is found out from a sample.

The sample is what the first read returns, and its first line is counted. That is the header line
if the first read gets to the end of it, and else only a front of it. The delimiter and what becomes
of a mark at the front of the text are all that the schedule of the reads has a part in.
-/
namespace BulkLoad

open Encoding (Sniffing wholeText)
open BulkLoad.Stream (Feed Reader)

namespace Text

/-- What comes after a line feed has no part in the first line. -/
theorem firstLine_append {front : List Char} (h : '\n' ∈ front) (back : List Char) :
    firstLine (front ++ back) = firstLine front := by
  induction front with
  | nil => cases h
  | cons c front ih =>
      by_cases hc : c = '\n'
      · simp [firstLine, hc]
      · have hfront : '\n' ∈ front := by
          rcases List.mem_cons.mp h with rfl | hfront
          · exact absurd rfl hc
          · exact hfront
        have hkeep : decide (c ≠ '\n') = true := decide_eq_true hc
        simp only [firstLine, List.cons_append, List.takeWhile_cons, hkeep, if_true] at ih ⊢
        rw [ih hfront]

end Text

namespace Delimited

theorem detectDelimiter_mem (line : List Char) : detectDelimiter line ∈ delimiters :=
  (detectDelimiter_prevails line).mem

theorem detectDelimiter_ascii (line : List Char) : (detectDelimiter line).toNat < 0x80 := by
  have hall : ∀ c ∈ delimiters, c.toNat < 0x80 := by simp [delimiters]
  exact hall _ (detectDelimiter_mem line)

/-- What is left of bytes whose first piece is `first`: without the mark if the piece holds it whole
and more with it, and nothing if the piece is the mark alone. -/
def afterMark (first bytes : List UInt8) : List UInt8 :=
  if first = mark then [] else bytes.drop (if mark.isPrefixOf first then mark.length else 0)

theorem afterMark_nil (first : List UInt8) : afterMark first [] = [] := by
  unfold afterMark
  split_ifs <;> rfl

theorem afterMark_of_unmarked {first bytes : List UInt8} (hfirst : first <+: bytes)
    (h : ¬ mark <+: bytes) : afterMark first bytes = bytes := by
  have halone : first ≠ mark := fun heq => h (heq ▸ hfirst)
  have hfront : ¬ mark.isPrefixOf first = true :=
    fun hfront => h ((List.isPrefixOf_iff_prefix.mp hfront).trans hfirst)
  rw [afterMark, if_neg halone, if_neg hfront, List.drop_zero]

/-- A first piece with a byte that no mark has holds the mark whole and more, if there is one. -/
theorem afterMark_of_marked {first bytes : List UInt8} (hfirst : first <+: bytes)
    (h : mark <+: bytes) {b : UInt8} (hb : b ∈ first) (hother : b ∉ mark) :
    afterMark first bytes = bytes.drop mark.length := by
  have hfront : mark <+: first := by
    rcases List.prefix_or_prefix_of_prefix h hfirst with hfront | hback
    · exact hfront
    · exact absurd (hback.subset hb) hother
  have halone : first ≠ mark := fun heq => hother (heq ▸ hb)
  rw [afterMark, if_neg halone, if_pos (List.isPrefixOf_iff_prefix.mpr hfront)]

theorem rows_asRead (delimiter : UInt8) {feed : Feed} (hend : feed.failure = none) :
    rows delimiter (asRead feed) =
        rowsOf delimiter (afterMark (feed.pieces.head?.getD []) feed.bytes) true ∧
      (asRead feed).failure = none := by
  cases hpieces : feed.pieces with
  | nil =>
      have hbytes : feed.bytes = [] := by rw [Feed.bytes, hpieces, List.flatten_nil]
      have hne : feed.pieces.head? ≠ some mark := by simp [hpieces]
      rw [asRead_of_head_ne hne, rows, hend, unmarked_eq_drop, ← Feed.bytes, hbytes,
        afterMark_nil, List.drop_nil]
      exact ⟨rfl, rfl⟩
  | cons first rest =>
      have hhead : feed.pieces.head? = some first := by rw [hpieces, List.head?_cons]
      unfold afterMark
      rw [List.head?_cons, Option.getD_some]
      by_cases halone : first = mark
      · rw [halone] at hhead
        rw [asRead_of_head_eq hhead, if_pos halone]
        exact ⟨rfl, rfl⟩
      · have hne : feed.pieces.head? ≠ some mark := by
          rw [hhead]
          simpa using halone
        rw [asRead_of_head_ne hne, if_neg halone, rows, hend, unmarked_eq_drop, ← Feed.bytes,
          hpieces, skipped_cons]
        exact ⟨rfl, rfl⟩

end Delimited

def Stream.Reader.firstRead (r : Reader) (room : Nat) : List UInt8 :=
  r.rest.take (r.scheduled room)

theorem Stream.Reader.head?_feed {room : Nat} (hroom : 0 < room) {r : Reader}
    (hprompt : r.Prompt) (hsound : r.fault = none) (hrest : r.rest ≠ []) :
    (r.feed room).pieces.head? = some (r.firstRead room) := by
  have hnever : r.failure? = none := by simp only [failure?, hsound]
  have hallowed : r.allowance room = r.scheduled room := by
    simp only [allowance, scheduled, hsound]
  have hpos := hprompt.scheduled_pos hroom
  rw [feed, feedWithin_of_take hnever hallowed hpos hrest,
    Feed.cons_of_ne_nil (take_ne_nil hpos hrest)]
  rfl

namespace Source

def sampleOf (content : List UInt8) (sizes : List Nat) : List UInt8 :=
  Reader.firstRead ⟨content, 0, sizes, none⟩ sampleSize

/-- A first read that returns everything returns the only piece. -/
theorem feed_of_whole {content : List UInt8} {sizes : List Nat}
    (hsizes : ∀ size ∈ sizes, 0 < size) (hcontent : content ≠ [])
    (h : sampleOf content sizes = content) :
    Reader.feed ⟨content, 0, sizes, none⟩ sampleSize = ⟨[content], none⟩ := by
  have hroom : 0 < sampleSize := by decide
  have hprompt : Reader.Prompt ⟨content, 0, sizes, none⟩ := hsizes
  obtain ⟨hfailure, hbytes, hnonempty⟩ := Reader.feed_of_sound hroom hprompt rfl
  have hhead := Reader.head?_feed hroom hprompt rfl hcontent
  obtain ⟨rest, hpieces⟩ := List.head?_eq_some_iff.mp hhead
  have hfirst : Reader.firstRead ⟨content, 0, sizes, none⟩ sampleSize = content := h
  rw [hfirst] at hpieces
  have hrest : rest = [] := by
    rw [Feed.bytes, hpieces, List.flatten_cons, List.append_right_eq_self,
      List.flatten_eq_nil_iff] at hbytes
    rw [hpieces] at hnonempty
    refine List.eq_nil_iff_forall_not_mem.mpr fun piece hmem => ?_
    exact hnonempty piece (List.mem_cons_of_mem _ hmem) (hbytes piece hmem)
  rw [hrest] at hpieces
  exact congrArg₂ Feed.mk hpieces hfailure

theorem ofFirstRows_complete {m : Manner} {rows : List Delimited.Row} {fault : SourceFault}
    (h : ofFirstRows m rows none = .error fault) : fault = .noHeaders := by
  cases rows with
  | nil =>
      cases h
      rfl
  | cons header rest =>
      simp only [ofFirstRows] at h
      split_ifs at h
      cases h
      rfl

section Sampled

variable [Encoding.EastAsian.Decoders]

def detected (label : String) (content : List UInt8) (sizes : List Nat) : Char :=
  delimiterOf ⟨none, some label⟩ (.ofLabel label) (sampleOf content sizes)

/-- The first read gets to the end of the header line: it returns the whole content, or bytes that
complete a line feed. -/
def SeesHeader (label : String) (content : List UInt8) (sizes : List Nat) : Prop :=
  sampleOf content sizes = content ∨
    '\n' ∈ (Sniffing.feed (.ofLabel label) (.undecided []) (sampleOf content sizes)).2

theorem detected_ascii (label : String) (content : List UInt8) (sizes : List Nat) :
    (detected label content sizes).toNat < 0x80 :=
  Delimited.detectDelimiter_ascii _

def settled (options : SourceOptions) (sample : List UInt8) : SourceOptions :=
  let label := labelOf options sample
  ⟨some (delimiterOf options (.ofLabel label) sample), some label⟩

/-- What is found out in the sample might as well be given. -/
theorem ofReader_of_sample (options : SourceOptions) (content : List UInt8) {sizes : List Nat}
    (hsizes : ∀ size ∈ sizes, 0 < size) :
    ofReader options ⟨content, 0, sizes, none⟩ =
      ofReader (settled options (sampleOf content sizes)) ⟨content, 0, sizes, none⟩ := by
  have hroom : 0 < sampleSize := by decide
  have hprompt : Reader.Prompt ⟨content, 0, sizes, none⟩ := hsizes
  by_cases hcontent : content = []
  · have hfeed : Reader.feed ⟨content, 0, sizes, none⟩ sampleSize = ⟨[], none⟩ := by
      subst hcontent
      exact Reader.feedWithin_of_rest_nil rfl rfl _ _
    simp only [ofReader, hfeed]
    rfl
  · have hhead := Reader.head?_feed hroom hprompt rfl hcontent
    obtain ⟨rest, hpieces⟩ := List.head?_eq_some_iff.mp hhead
    simp only [ofReader, ofFeed, hpieces]
    rfl

theorem ofReader_of_detected (label : String) (content : List UInt8) {sizes : List Nat}
    (hsizes : ∀ size ∈ sizes, 0 < size) :
    ofReader ⟨none, some label⟩ ⟨content, 0, sizes, none⟩ =
      ofReader ⟨some (detected label content sizes), some label⟩ ⟨content, 0, sizes, none⟩ :=
  ofReader_of_sample ⟨none, some label⟩ content hsizes

theorem detected_of_seesHeader {label : String} {content : List UInt8} {sizes : List Nat}
    (h : SeesHeader label content sizes) :
    detected label content sizes =
      Delimited.detectDelimiter (Text.firstLine (wholeText (.ofLabel label) content)) := by
  have hlines : Text.firstLine ((Encoding.ofLabel label).decode (sampleOf content sizes)) =
      Text.firstLine ((Encoding.ofLabel label).decode content) := by
    rcases h with hwhole | hfeed
    · rw [hwhole]
    · -- The text of the content is that of the sample as far as its bytes complete it.
      obtain ⟨back, hback⟩ : sampleOf content sizes <+: content := List.take_prefix _ _
      change Text.firstLine (Sniffing.text _ (.undecided []) _) =
        Text.firstLine (Sniffing.text _ (.undecided []) _)
      conv_rhs => rw [← hback, Sniffing.text_append]
      rw [Text.firstLine_append hfeed, Sniffing.text, Text.firstLine_append hfeed]
  rw [← Encoding.decode_eq_wholeText, ← hlines]
  rfl

def firstText (encoding : Encoding) (content : List UInt8) (sizes : List Nat) : List UInt8 :=
  (plainFeed encoding (Reader.feed ⟨content, 0, sizes, none⟩ sampleSize)).pieces.head?.getD []

/-- What of the text of a content is read as rows. -/
def readAs (encoding : Encoding) (content : List UInt8) (sizes : List Nat) : List UInt8 :=
  Delimited.afterMark (firstText encoding content sizes) (textBytes encoding content)

/-- A content is read as the rows of its text, less a mark that comes whole. -/
theorem ofReader_of_given {delimiter : Char} (h : delimiter.toNat < 0x80) (label : String)
    (content : List UInt8) {sizes : List Nat} (hsizes : ∀ size ∈ sizes, 0 < size) :
    ofReader ⟨some delimiter, some label⟩ ⟨content, 0, sizes, none⟩ =
      ofFirstRows ⟨.ofLabel label, delimiter, delimiter.toNat.toUInt8⟩
        (Delimited.rowsOf delimiter.toNat.toUInt8 (readAs (.ofLabel label) content sizes) true)
        none := by
  have hroom : 0 < sampleSize := by decide
  have hprompt : Reader.Prompt ⟨content, 0, sizes, none⟩ := hsizes
  by_cases hcontent : content = []
  · have hfeed : Reader.feed ⟨[], 0, sizes, none⟩ sampleSize = ⟨[], none⟩ :=
      Reader.feedWithin_of_rest_nil rfl rfl _ _
    rw [hcontent, ofReader, hfeed, readAs, textBytes_nil, Delimited.afterMark_nil]
    rfl
  · obtain ⟨hfailure, hbytes, -⟩ := Reader.feed_of_sound hroom hprompt rfl
    have hhead := Reader.head?_feed hroom hprompt rfl hcontent
    have hne : (Reader.feed ⟨content, 0, sizes, none⟩ sampleSize).pieces ≠ [] := by
      intro hnil
      rw [hnil] at hhead
      cases hhead
    obtain ⟨hend, htext⟩ := plainFeed_of_end (.ofLabel label) hfailure
    obtain ⟨hrows, hsound⟩ := Delimited.rows_asRead delimiter.toNat.toUInt8 hend
    rw [htext, hbytes] at hrows
    rw [ofReader, ofFeed_of_given h label hne]
    simp only [textFeed_eq]
    exact congrArg₂ (ofFirstRows _) hrows hsound

theorem firstText_isFront (encoding : Encoding) (content : List UInt8) {sizes : List Nat}
    (hsizes : ∀ size ∈ sizes, 0 < size) :
    firstText encoding content sizes <+: textBytes encoding content := by
  have hprompt : Reader.Prompt ⟨content, 0, sizes, none⟩ := hsizes
  obtain ⟨hfailure, hbytes, -⟩ :=
    Reader.feed_of_sound (show 0 < sampleSize by decide) hprompt rfl
  have htext := (plainFeed_of_end encoding hfailure).2
  rw [hbytes] at htext
  rw [← htext, Feed.bytes, firstText]
  cases (plainFeed encoding _).pieces with
  | nil => exact List.nil_prefix
  | cons first rest => exact List.prefix_append first rest.flatten

theorem readAs_of_unmarked {encoding : Encoding} {content : List UInt8} {sizes : List Nat}
    (hsizes : ∀ size ∈ sizes, 0 < size) (h : ¬ Delimited.mark <+: textBytes encoding content) :
    readAs encoding content sizes = textBytes encoding content :=
  Delimited.afterMark_of_unmarked (firstText_isFront encoding content hsizes) h

theorem fed_of_mark_front {front : List UInt8} (h : front <+: Delimited.mark) :
    (Sniffing.feed .utf8 (.undecided []) front).2 = [] := by
  obtain ⟨n, rfl⟩ : ∃ n, front = Delimited.mark.take n := ⟨_, List.prefix_iff_eq_take.mp h⟩
  match n with
  | 0 | 1 | 2 => rfl
  | n + 3 =>
      rw [List.take_of_length_le (Nat.le_add_left 3 n)]
      rfl

/-- A first read that completes a line feed holds a mark at the front of the text whole, and
more. -/
theorem readAs_of_marked {encoding : Encoding} {content : List UInt8} {sizes : List Nat}
    (hsizes : ∀ size ∈ sizes, 0 < size) (hmark : Delimited.mark <+: textBytes encoding content)
    (h : '\n' ∈ (Sniffing.feed encoding (.undecided []) (sampleOf content sizes)).2) :
    readAs encoding content sizes =
      (textBytes encoding content).drop Delimited.mark.length := by
  have hfirst := firstText_isFront encoding content hsizes
  have hprompt : Reader.Prompt ⟨content, 0, sizes, none⟩ := hsizes
  have hcontent : content ≠ [] := by
    rintro rfl
    rw [textBytes_nil] at hmark
    exact absurd (List.prefix_nil.mp hmark) (by decide)
  have hhead := Reader.head?_feed (show 0 < sampleSize by decide) hprompt rfl hcontent
  obtain ⟨rest, hpieces⟩ := List.head?_eq_some_iff.mp hhead
  obtain ⟨hfailure, -, -⟩ := Reader.feed_of_sound (show 0 < sampleSize by decide) hprompt rfl
  have hother : encoding ≠ .utf8 → firstText encoding content sizes =
      Encoding.Utf8.encode
        (Sniffing.feed encoding (.undecided []) (sampleOf content sizes)).2 := by
    intro hne
    have hplain (feed : Feed) : plainFeed encoding feed = feed.transcode encoding := by
      cases encoding with
      | utf8 => exact absurd rfl hne
      | utf16 _ | codePage _ | eastAsian _ | replacement | userDefined => rfl
    have hsome := Encoding.Utf8.encode_ne_nil (List.ne_nil_of_mem h)
    rw [firstText, hplain, Feed.transcode, hpieces]
    exact congrArg (fun feed : Feed => feed.pieces.head?.getD []) (Feed.cons_of_ne_nil hsome _)
  by_cases hutf8 : encoding = .utf8
  · subst hutf8
    have hsample : firstText .utf8 content sizes = sampleOf content sizes := by
      rw [firstText, plainFeed, hpieces]
      rfl
    -- A sample that is no more than the front of a mark completes no text.
    have hmore : ¬ sampleOf content sizes <+: Delimited.mark := by
      intro hshort
      rw [fed_of_mark_front hshort] at h
      cases h
    have halone : firstText .utf8 content sizes ≠ Delimited.mark := by
      rw [hsample]
      exact fun heq => hmore (heq ▸ List.prefix_rfl)
    have hfront : Delimited.mark <+: firstText .utf8 content sizes := by
      rcases List.prefix_or_prefix_of_prefix hmark hfirst with hfront | hshort
      · exact hfront
      · exact absurd (hsample ▸ hshort) hmore
    rw [readAs, Delimited.afterMark, if_neg halone,
      if_pos (List.isPrefixOf_iff_prefix.mpr hfront)]
  · rw [hother hutf8] at hfirst
    rw [readAs, hother hutf8]
    refine Delimited.afterMark_of_marked hfirst hmark (b := 0x0A) ?_ (by decide)
    exact List.mem_flatMap.mpr ⟨'\n', h, by decide⟩

/-- Reads that see the header line whole leave the same text to be read as rows. -/
theorem readAs_of_seesHeader {label : String} {content : List UInt8} {sizes sizes' : List Nat}
    (hsizes : ∀ size ∈ sizes, 0 < size) (hsizes' : ∀ size ∈ sizes', 0 < size)
    (h : SeesHeader label content sizes) (h' : SeesHeader label content sizes') :
    readAs (.ofLabel label) content sizes = readAs (.ofLabel label) content sizes' := by
  by_cases hmark : Delimited.mark <+: textBytes (.ofLabel label) content
  · by_cases hline : '\n' ∈ (Sniffing.feed (.ofLabel label) (.undecided []) content).2
    · have hdropped {sizes : List Nat} (hsizes : ∀ size ∈ sizes, 0 < size)
          (h : SeesHeader label content sizes) :
          readAs (.ofLabel label) content sizes =
            (textBytes (.ofLabel label) content).drop Delimited.mark.length := by
        refine readAs_of_marked hsizes hmark ?_
        rcases h with hwhole | hfeed
        · rwa [hwhole]
        · exact hfeed
      rw [hdropped hsizes h, hdropped hsizes' h']
    · have hwhole {sizes : List Nat} (h : SeesHeader label content sizes) :
          sampleOf content sizes = content := by
        refine h.resolve_right fun hfeed => hline ?_
        obtain ⟨back, hback⟩ : sampleOf content sizes <+: content := List.take_prefix _ _
        rw [← hback, Sniffing.feed_append]
        exact List.mem_append_left _ hfeed
      have hcontent : content ≠ [] := by
        rintro rfl
        rw [textBytes_nil] at hmark
        exact absurd (List.prefix_nil.mp hmark) (by decide)
      rw [readAs, readAs, firstText, firstText, feed_of_whole hsizes hcontent (hwhole h),
        feed_of_whole hsizes' hcontent (hwhole h')]
  · rw [readAs_of_unmarked hsizes hmark, readAs_of_unmarked hsizes' hmark]

/-- **The first read decides.** A content in a given encoding, in reads of any sizes, is read as the
rows of its text, less a mark at the front of it that the first piece holds whole, by the delimiter
of the first read. A text without a mark is read as it is, so nothing else depends on the sizes
then. Reads that see the header line whole find the delimiter of that line and agree on the mark, so
they give one source or one fault. -/
theorem ofReader_of_firstReads (label : String) (content : List UInt8) (sizes sizes' : List Nat)
    (hsizes : ∀ size ∈ sizes, 0 < size) (hsizes' : ∀ size ∈ sizes', 0 < size) :
    let opened (sizes : List Nat) := ofReader ⟨none, some label⟩ ⟨content, 0, sizes, none⟩
    let found (sizes : List Nat) := detected label content sizes
    let read (sizes : List Nat) := readAs (.ofLabel label) content sizes
    opened sizes = ofFirstRows ⟨.ofLabel label, found sizes, (found sizes).toNat.toUInt8⟩
        (Delimited.rowsOf (found sizes).toNat.toUInt8 (read sizes) true) none ∧
      (¬ Delimited.mark <+: textBytes (.ofLabel label) content →
        read sizes = textBytes (.ofLabel label) content ∧
          opened sizes = ofReader ⟨some (found sizes), some label⟩ ⟨content, 0, [], none⟩) ∧
      (∀ s, opened sizes = .ok s → s.info.delimiter = found sizes) ∧
      (∀ fault, opened sizes = .error fault → fault = .noHeaders) ∧
      (read sizes = read sizes' →
        (opened sizes = opened sizes' ↔ found sizes = found sizes' ∨
          opened sizes = .error .noHeaders ∧ opened sizes' = .error .noHeaders)) ∧
      (SeesHeader label content sizes → found sizes =
        Delimited.detectDelimiter (Text.firstLine (wholeText (.ofLabel label) content))) ∧
      (SeesHeader label content sizes → SeesHeader label content sizes' →
        read sizes = read sizes' ∧ opened sizes = opened sizes') := by
  intro opened found read
  have hrows {sizes : List Nat} (hsizes : ∀ size ∈ sizes, 0 < size) :
      opened sizes = ofFirstRows ⟨.ofLabel label, found sizes, (found sizes).toNat.toUInt8⟩
        (Delimited.rowsOf (found sizes).toNat.toUInt8 (read sizes) true) none :=
    (ofReader_of_detected label content hsizes).trans
      (ofReader_of_given (detected_ascii label content sizes) label content hsizes)
  have hdelimiter {sizes : List Nat} (hsizes : ∀ size ∈ sizes, 0 < size) :
      ∀ s, opened sizes = .ok s → s.info.delimiter = found sizes := by
    intro s hs
    rw [hrows hsizes] at hs
    obtain ⟨header, rest, -, -, rfl⟩ := ofFirstRows_eq_ok hs
    rfl
  have hfault {sizes : List Nat} (hsizes : ∀ size ∈ sizes, 0 < size) :
      ∀ fault, opened sizes = .error fault → fault = .noHeaders := by
    intro fault hopened
    rw [hrows hsizes] at hopened
    exact ofFirstRows_complete hopened
  have hsame (hread : read sizes = read sizes') (hfound : found sizes = found sizes') :
      opened sizes = opened sizes' := by
    rw [hrows hsizes, hrows hsizes', hread, hfound]
  refine ⟨hrows hsizes, ?_, hdelimiter hsizes, hfault hsizes, ?_, detected_of_seesHeader, ?_⟩
  · intro hmark
    have hread := readAs_of_unmarked hsizes hmark
    have hprompt : Reader.Prompt ⟨content, 0, [], none⟩ := by simp [Reader.Prompt]
    refine ⟨hread, ?_⟩
    rw [ofReader_of_text (detected_ascii label content sizes) rfl hprompt rfl rfl hmark, ← hread]
    exact hrows hsizes
  · intro hread
    constructor
    · intro h
      cases hopened : opened sizes with
      | ok s =>
          left
          rw [← hdelimiter hsizes s hopened]
          exact hdelimiter hsizes' s (h ▸ hopened)
      | error fault =>
          right
          have hnone := hfault hsizes fault hopened
          rw [← h, hopened, hnone]
          exact ⟨rfl, rfl⟩
    · rintro (h | ⟨hnone, hnone'⟩)
      · exact hsame hread h
      · rw [hnone, hnone']
  · intro hsees hsees'
    have hread := readAs_of_seesHeader hsizes hsizes' hsees hsees'
    have hfound := (detected_of_seesHeader hsees).trans (detected_of_seesHeader hsees').symm
    exact ⟨hread, hsame hread hfound⟩

end Sampled

/-- A header line in which the semicolon comes first and the comma comes more often. -/
def twoMarksContent : List UInt8 := Encoding.Utf8.encode "a;b,c,d\n1;2,3,4\n".toList

/-- Reads of eight bytes see the header line, as one read of everything does. -/
theorem ofReader_of_twoMarks :
    letI := Encoding.Katakana.decoders
    let opened (sizes : List Nat) :=
      ofReader ⟨none, some "utf-8"⟩ ⟨twoMarksContent, 0, sizes, none⟩
    (∀ size ∈ [8, 1], 0 < size) ∧
      SeesHeader "utf-8" twoMarksContent [8, 1] ∧ SeesHeader "utf-8" twoMarksContent [] ∧
      opened [8, 1] = opened [] ∧
      detected "utf-8" twoMarksContent [8, 1] = ',' := by
  let := Encoding.Katakana.decoders
  intro opened
  have hsizes : ∀ size ∈ [8, 1], 0 < size := by decide
  have hsees : SeesHeader "utf-8" twoMarksContent [8, 1] := .inr (by decide +kernel)
  have hwhole : SeesHeader "utf-8" twoMarksContent [] := .inl (by decide +kernel)
  obtain ⟨-, -, -, -, -, hdetected, hsame⟩ :=
    ofReader_of_firstReads "utf-8" twoMarksContent [8, 1] [] hsizes (by simp)
  refine ⟨hsizes, hsees, hwhole, (hsame hsees hwhole).2, (hdetected hsees).trans ?_⟩
  decide +kernel

/-- A first read of two bytes sees one delimiter, and it is not the one of the header line. -/
theorem ofReader_of_cutHeader :
    letI := Encoding.Katakana.decoders
    (ofReader ⟨none, some "utf-8"⟩ ⟨twoMarksContent, 0, [2], none⟩).toOption.map (·.info) =
        some ⟨"utf-8", ';', ["a", "b,c,d"]⟩ ∧
      (ofReader ⟨none, some "utf-8"⟩ ⟨twoMarksContent, 0, [], none⟩).toOption.map (·.info) =
        some ⟨"utf-8", ',', ["a;b", "c", "d"]⟩ ∧
      ofReader ⟨none, some "utf-8"⟩ ⟨twoMarksContent, 0, [2], none⟩ ≠
        ofReader ⟨none, some "utf-8"⟩ ⟨twoMarksContent, 0, [], none⟩ := by
  let := Encoding.Katakana.decoders
  have hcut : (ofReader ⟨none, some "utf-8"⟩
      ⟨twoMarksContent, 0, [2], none⟩).toOption.map (·.info) =
        some ⟨"utf-8", ';', ["a", "b,c,d"]⟩ := by decide +kernel
  have hwhole : (ofReader ⟨none, some "utf-8"⟩
      ⟨twoMarksContent, 0, [], none⟩).toOption.map (·.info) =
        some ⟨"utf-8", ',', ["a;b", "c", "d"]⟩ := by decide +kernel
  refine ⟨hcut, hwhole, ?_⟩
  intro hsame
  rw [hsame, hwhole] at hcut
  revert hcut
  decide

end Source

end BulkLoad
