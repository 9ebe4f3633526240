import BulkLoad.Proofs.Delimited.FirstRow
import BulkLoad.Proofs.Source.Sampling
import BulkLoad.Proofs.Source.Transport

/-!
Marks at the front of UTF-8 content.

The reader of rows looks for the mark in the first piece and nowhere else.
-/
namespace BulkLoad

open BulkLoad.Stream (Feed Reader)
open Encoding.Utf8 (encode encode_cons decode decode_encode decode_encode_append)

namespace Source

def readText (content : List UInt8) (sizes : List Nat) : List UInt8 :=
  Delimited.afterMark (sampleOf content sizes) content

section Read

variable [Encoding.EastAsian.Decoders]

theorem readAs_utf8 (content : List UInt8) {sizes : List Nat} (hsizes : ∀ size ∈ sizes, 0 < size) :
    readAs .utf8 content sizes = readText content sizes := by
  unfold readAs readText
  by_cases hcontent : content = []
  · subst hcontent
    exact (Delimited.afterMark_nil _).trans (Delimited.afterMark_nil _).symm
  · have hprompt : Reader.Prompt ⟨content, 0, sizes, none⟩ := hsizes
    have hhead := Reader.head?_feed (show 0 < sampleSize by decide) hprompt rfl hcontent
    have hfirst : firstText .utf8 content sizes = sampleOf content sizes :=
      congrArg (Option.getD · []) hhead
    rw [hfirst]
    rfl

theorem ofReader_of_utf8 {delimiter : Char} (h : delimiter.toNat < 0x80) (content : List UInt8)
    {sizes : List Nat} (hsizes : ∀ size ∈ sizes, 0 < size) :
    ofReader ⟨some delimiter, some "utf-8"⟩ ⟨content, 0, sizes, none⟩ =
      ofFirstRows ⟨.utf8, delimiter, delimiter.toNat.toUInt8⟩
        (Delimited.rowsOf delimiter.toNat.toUInt8 (readText content sizes) true) none := by
  rw [ofReader_of_given h "utf-8" content hsizes, Encoding.ofLabel_utf8,
    readAs_utf8 content hsizes]

end Read

section Texts

def withoutMark (cs : List Char) : List Char := if cs.head? = some markChar then cs.tail else cs

theorem mem_of_mem_withoutMark {cs : List Char} {c : Char} (h : c ∈ withoutMark cs) : c ∈ cs := by
  unfold withoutMark at h
  split_ifs at h
  · exact List.mem_of_mem_tail h
  · exact h

theorem encode_markChar (cs : List Char) :
    encode (markChar :: cs) = Delimited.mark ++ encode cs := by
  have hchar : Encoding.Utf8.encodeChar markChar = Delimited.mark := by decide
  rw [encode_cons, hchar]

theorem wholeText_encode [Encoding.EastAsian.Decoders] (cs : List Char) :
    Encoding.wholeText .utf8 (encode cs) = withoutMark cs := by
  unfold withoutMark
  split_ifs with h
  · obtain ⟨rest, rfl⟩ := List.head?_eq_some_iff.mp h
    have hmark : (Delimited.mark, Encoding.utf8) ∈ Encoding.marks := by decide
    rw [encode_markChar]
    exact (Encoding.wholeText_of_marked hmark (encode rest)).trans (decode_encode rest)
  · have hbyte : ∀ b ∈ encode cs, b < 0xF8 := by
      intro b hb
      obtain ⟨c, -, hc⟩ := List.mem_flatMap.mp hb
      exact Encoding.Utf8.lt_of_mem_encodeChar b hc
    have hnone : ∀ mark ∈ Encoding.marks, ¬ mark.1 <+: encode cs := by
      intro mark hmem hfront
      simp only [Encoding.marks, List.mem_cons, List.not_mem_nil, or_false] at hmem
      rcases hmem with rfl | rfl | rfl
      · exact h (Encoding.Utf8.head_of_mark hfront)
      · exact absurd (hbyte 0xFF (hfront.subset (by simp))) (by decide)
      · exact absurd (hbyte 0xFE (hfront.subset (by simp))) (by decide)
    rw [Encoding.wholeText_of_unmarked hnone]
    exact decode_encode cs

theorem sampleOf_whole {content : List UInt8} (h : content.length ≤ sampleSize) :
    sampleOf content [] = content :=
  List.take_of_length_le h

/-- A text that arrives in one piece is read without its mark. -/
theorem readText_encode {cs : List Char} (h : (encode cs).length ≤ sampleSize) :
    readText (encode cs) [] = encode (withoutMark cs) := by
  rw [readText, sampleOf_whole h, Delimited.afterMark, withoutMark]
  by_cases hmark : cs.head? = some markChar
  · obtain ⟨rest, rfl⟩ := List.head?_eq_some_iff.mp hmark
    rw [encode_markChar, if_pos hmark, List.tail_cons,
      if_pos (List.isPrefixOf_iff_prefix.mpr (List.prefix_append _ _)), List.drop_left]
    split_ifs with halone
    · have hnone : encode rest = [] := by simpa using halone
      exact hnone.symm
    · rfl
  · have hfront : ¬ Delimited.mark <+: encode cs := fun h => hmark (Encoding.Utf8.head_of_mark h)
    have halone : encode cs ≠ Delimited.mark := by
      intro heq
      exact hfront (heq ▸ List.prefix_rfl)
    rw [if_neg hmark, if_neg halone, if_neg (List.isPrefixOf_iff_prefix.not.mpr hfront),
      List.drop_zero]

end Texts

section Returned

variable {content : List UInt8}

theorem readText_unmarked (h : ¬ Delimited.mark <+: content) (sizes : List Nat) :
    readText content sizes = content := by
  have hfirst : sampleOf content sizes <+: content := List.take_prefix _ _
  have halone : sampleOf content sizes ≠ Delimited.mark := fun heq => h (heq ▸ hfirst)
  have hfront : ¬ Delimited.mark.isPrefixOf (sampleOf content sizes) = true :=
    fun hfront => h ((List.isPrefixOf_iff_prefix.mp hfront).trans hfirst)
  rw [readText, Delimited.afterMark, if_neg halone, if_neg hfront, List.drop_zero]

/-- How much the first read returns of content with a mark decides what becomes of the mark. -/
theorem readText_marked (content : List UInt8) (sizes : List Nat) :
    let returned := (sampleOf (Delimited.mark ++ content) sizes).length
    readText (Delimited.mark ++ content) sizes =
      if 3 < returned then content else if returned = 3 then [] else Delimited.mark ++ content := by
  intro returned
  have hfirst : sampleOf (Delimited.mark ++ content) sizes <+: Delimited.mark ++ content :=
    List.take_prefix _ _
  have hmark : Delimited.mark <+: Delimited.mark ++ content := List.prefix_append _ _
  have hwhole : 3 ≤ returned → Delimited.mark <+: sampleOf (Delimited.mark ++ content) sizes :=
    fun h => List.prefix_of_prefix_length_le hmark hfirst h
  have halone : sampleOf (Delimited.mark ++ content) sizes = Delimited.mark ↔ returned = 3 := by
    constructor
    · exact fun h => congrArg List.length h
    · exact fun h => ((hwhole h.ge).eq_of_length h.symm).symm
  have hfront : Delimited.mark.isPrefixOf (sampleOf (Delimited.mark ++ content) sizes) = true ↔
      3 ≤ returned := by
    rw [List.isPrefixOf_iff_prefix]
    exact ⟨fun h => h.length_le, hwhole⟩
  rw [readText, Delimited.afterMark]
  rcases Nat.lt_trichotomy returned 3 with hless | hthree | hmore
  · rw [if_neg (halone.not.mpr hless.ne), if_neg (hfront.not.mpr (Nat.not_le.mpr hless)),
      if_neg (Nat.not_lt.mpr hless.le), if_neg hless.ne, List.drop_zero]
  · rw [if_pos (halone.mpr hthree), if_neg (Nat.not_lt.mpr hthree.le), if_pos hthree]
  · rw [if_neg (halone.not.mpr hmore.ne'), if_pos (hfront.mpr hmore.le), if_pos hmore,
      List.drop_left]

end Returned

section Names

open Text (isBlank isFieldBlank trimBoth dropEndWhile)

/-- Blanks around a field are characters that are trimmed off a name. -/
theorem exists_encode_blanks {blanks : List UInt8} (h : ∀ b ∈ blanks, isFieldBlank b = true) :
    ∃ cs, encode cs = blanks ∧ ∀ c ∈ cs, isBlank c = true ∧ c ≠ markChar := by
  induction blanks with
  | nil => exact ⟨[], rfl, by simp⟩
  | cons b rest ih =>
      obtain ⟨hb, hrest⟩ := List.forall_mem_cons.mp h
      obtain ⟨cs, hcs, hblank⟩ := ih hrest
      have hchar : Encoding.Utf8.encodeChar (Char.ofNat b.toNat) = [b] ∧
          isBlank (Char.ofNat b.toNat) = true ∧ Char.ofNat b.toNat ≠ markChar := by
        simp only [isFieldBlank, Bool.or_eq_true, beq_iff_eq, or_assoc] at hb
        rcases hb with rfl | rfl | rfl | rfl | rfl <;> decide
      refine ⟨Char.ofNat b.toNat :: cs, ?_, List.forall_mem_cons.mpr ⟨hchar.2, hblank⟩⟩
      rw [encode_cons, hchar.1, hcs]
      rfl

/-- A mark that is read as text is dropped from a name, and what comes after it is trimmed. -/
theorem headerName_marked (cs : List Char) (field : List UInt8) :
    headerName (encode (markChar :: cs) ++ field) =
      String.ofList (trimBoth isBlank ((cs ++ decode field).dropWhile (· == markChar))) := by
  rw [headerName, decode_encode_append]
  simp only [List.cons_append, List.dropWhile_cons, beq_self_eq_true, if_true]

/-- A mark in front of a field has no part in its name, unless another mark stands behind blanks. -/
theorem headerName_mark_append {field : List UInt8}
    (h : (decode (trimBoth isFieldBlank field)).head? ≠ some markChar) :
    headerName (trimBoth isFieldBlank (Delimited.mark ++ field)) =
      headerName (trimBoth isFieldBlank field) := by
  have hmark : encode [markChar] = Delimited.mark := encode_markChar []
  have htrim : trimBoth isFieldBlank (Delimited.mark ++ field) =
      encode [markChar] ++ dropEndWhile isFieldBlank field := by
    rw [hmark]
    exact Text.trimBoth_append (by decide) (by decide) (by decide) field
  -- With the mark in front the blanks at the start of the field stay. They are trimmed off the name
  -- later, but they keep the search for marks from what comes after them.
  obtain ⟨front, hfront, hend⟩ := Text.dropEndWhile_eq_append isFieldBlank field
  obtain ⟨blanks, rfl, hblanks⟩ := exists_encode_blanks hfront
  have hkept : ∀ c, (decode (trimBoth isFieldBlank field)).head? = some c →
      (c == markChar) = false := by
    intro c hc
    exact beq_false_of_ne fun heq => h (heq ▸ hc)
  have hall : ∀ c, (blanks ++ decode (trimBoth isFieldBlank field)).head? = some c →
      (c == markChar) = false := by
    intro c hc
    cases blanks with
    | nil => exact hkept c hc
    | cons blank rest =>
        cases hc
        exact beq_false_of_ne (hblanks c List.mem_cons_self).2
  rw [htrim, headerName_marked, List.nil_append, hend, decode_encode_append,
    Text.dropWhile_eq_self_iff_head?.mpr hall, headerName,
    Text.dropWhile_eq_self_iff_head?.mpr hkept,
    Text.trimBoth_blanks fun c hc => (hblanks c hc).1]

/-- A quote behind a mark that is read as text stays in the name. -/
theorem headerName_mark_quote (field : List UInt8) :
    ∃ cs, headerName (trimBoth isFieldBlank (Delimited.mark ++ [Delimited.quote] ++ field)) =
      String.ofList ('"' :: cs) := by
  have hfront : encode [markChar, '"'] = Delimited.mark ++ [Delimited.quote] := by decide
  have htrim : trimBoth isFieldBlank (Delimited.mark ++ [Delimited.quote] ++ field) =
      encode [markChar, '"'] ++ dropEndWhile isFieldBlank field := by
    rw [hfront]
    exact Text.trimBoth_append (by decide) (by decide) (by decide) field
  have hquote : ('"' == markChar) = false := by decide
  rw [htrim, headerName_marked, List.singleton_append,
    List.dropWhile_cons_of_neg (by simp [hquote]), ← List.singleton_append,
    Text.trimBoth_append (by simp) (by decide) (by decide)]
  exact ⟨_, rfl⟩

end Names

theorem ofFirstRows_congr {m : Manner} {header header' : Delimited.Row}
    (h : header'.fields.map headerName = header.fields.map headerName) (rest : List Delimited.Row)
    (failure : Option String) :
    ofFirstRows m (header' :: rest) failure = ofFirstRows m (header :: rest) failure := by
  simp only [ofFirstRows, h]

/-- The first field of the header row does not start with a mark as text. -/
def HeaderUnmarked (byte : UInt8) (content : List UInt8) : Prop :=
  ∀ row ∈ (Delimited.rowsOf byte content true).head?, ∀ field ∈ row.fields.head?,
    (decode field).head? ≠ some markChar

section ReadAsText

variable {m : Manner} {content : List UInt8}

/-- A mark alone on the first line is a header row without a name. -/
theorem noHeaders_of_mark (hbyte : m.byte < 0x80)
    (h : ∀ b ∈ content.head?, Delimited.endsRow b = true ∧ b ≠ m.byte) :
    ofFirstRows m (Delimited.rowsOf m.byte (Delimited.mark ++ content) true) none =
      .error .noHeaders := by
  obtain ⟨more, hrows⟩ : ∃ more, Delimited.rowsOf m.byte (Delimited.mark ++ content) true =
      ⟨1, [Text.trimBoth Text.isFieldBlank Delimited.mark]⟩ :: more := by
    rw [Delimited.rowsOf_mark hbyte]
    cases content with
    | nil => exact ⟨[], rfl⟩
    | cons b rest =>
        obtain ⟨hends, hne⟩ := h b rfl
        exact Delimited.RowState.rowsFrom_begun_ending hends hne _ rest
  have hname : ([Text.trimBoth Text.isFieldBlank Delimited.mark].map headerName).all
      (·.isEmpty) = true := by decide
  rw [hrows]
  simp only [ofFirstRows, hname, if_true]

/-- A quote behind a mark opens no quotes. -/
theorem headers_of_mark_quote (hbyte : m.byte < 0x80) (hquote : Delimited.quote ≠ m.byte)
    (rest : List UInt8) :
    ∃ s cs names,
      ofFirstRows m
        (Delimited.rowsOf m.byte (Delimited.mark ++ Delimited.quote :: rest) true) none = .ok s ∧
        s.info.headers = String.ofList ('"' :: cs) :: names := by
  obtain ⟨row, row', more, -, hrows, -, first, fields, -, hfields⟩ :=
    (Delimited.RowState.led_begun (Delimited.mark ++ [Delimited.quote])).rowsFrom m.byte rest
  rw [Delimited.rowsOf_mark hbyte,
    Delimited.RowState.rowsFrom_begun_cons (by decide) hquote, hrows]
  obtain ⟨cs, hname⟩ := headerName_mark_quote first
  have hnames : row'.fields.map headerName = String.ofList ('"' :: cs) ::
      (fields.map (Text.trimBoth Text.isFieldBlank)).map headerName := by
    rw [hfields, List.map_cons, List.map_cons, hname]
  have hsome : (row'.fields.map headerName).all (·.isEmpty) = false := by
    rw [hnames]
    simp
  exact ⟨_, cs, _, ofFirstRows_cons hsome more none, hnames⟩

/-- In front of a first field without quotes a mark has no part in what is read. -/
theorem ofFirstRows_mark (hbyte : m.byte < 0x80)
    (h : ∀ b ∈ content.head?, b ≠ Delimited.quote ∧ Delimited.endsRow b = false)
    (hheader : HeaderUnmarked m.byte content) :
    ofFirstRows m (Delimited.rowsOf m.byte (Delimited.mark ++ content) true) none =
      ofFirstRows m (Delimited.rowsOf m.byte content true) none := by
  cases content with
  | nil => exact noHeaders_of_mark hbyte (by simp)
  | cons b rest =>
      obtain ⟨hquote, hends⟩ := h b rfl
      obtain ⟨row, row', more, hrows, hrows', -, first, fields, hfields, hfields'⟩ :=
        (Delimited.RowState.led_begun Delimited.mark).rowsFrom m.byte (b :: rest)
      rw [← Delimited.RowState.rowsFrom_start_cons hends hquote,
        ← Delimited.rowsOf_eq_rowsFrom] at hrows
      rw [← Delimited.rowsOf_mark hbyte] at hrows'
      have hunmarked := hheader row (by rw [hrows]; rfl)
        (Text.trimBoth Text.isFieldBlank first) (by rw [hfields]; rfl)
      rw [hrows, hrows']
      apply ofFirstRows_congr
      rw [hfields, hfields']
      simp only [List.map_cons, headerName_mark_append hunmarked]

end ReadAsText

/-- **Marks at the front.** Content with a mark is read as without it, whatever the reads are, if
the first read returns the mark whole and more. If it returns the mark alone there is no header, and
if it returns less the mark is read as text: it is dropped from the name of a plain first header, it
makes a header row of its own in front of a line end, and it takes a first quote for a part of the
name. -/
theorem ofReader_of_mark [Encoding.EastAsian.Decoders] (delimiter : Char)
    (hdelimiter : delimiter.toNat < 0x80) (content : List UInt8)
    (hmark : ¬ Delimited.mark <+: content) (sizes sizes' : List Nat)
    (hsizes : ∀ size ∈ sizes, 0 < size) (hsizes' : ∀ size ∈ sizes', 0 < size) :
    let byte := delimiter.toNat.toUInt8
    let opened (content : List UInt8) (sizes : List Nat) :=
      ofReader ⟨some delimiter, some "utf-8"⟩ ⟨content, 0, sizes, none⟩
    let returned := (sampleOf (Delimited.mark ++ content) sizes).length
    (3 < returned → opened (Delimited.mark ++ content) sizes = opened content sizes') ∧
      (returned = 3 → opened (Delimited.mark ++ content) sizes = .error .noHeaders) ∧
      (returned < 3 →
        ((∀ b ∈ content.head?, Delimited.endsRow b = true ∧ b ≠ byte) →
          opened (Delimited.mark ++ content) sizes = .error .noHeaders) ∧
        (content.head? = some Delimited.quote → delimiter ≠ '"' →
          ∃ s cs names, opened (Delimited.mark ++ content) sizes = .ok s ∧
            s.info.headers = String.ofList ('"' :: cs) :: names) ∧
        ((∀ b ∈ content.head?, b ≠ Delimited.quote ∧ Delimited.endsRow b = false) →
          HeaderUnmarked byte content →
            opened (Delimited.mark ++ content) sizes = opened content sizes')) := by
  intro byte opened returned
  have hbyte : byte < 0x80 := by
    rw [UInt8.lt_iff_toNat_lt, Encoding.Utf8.byte_toNat (Nat.lt_trans hdelimiter (by decide))]
    exact hdelimiter
  let m : Manner := ⟨.utf8, delimiter, byte⟩
  have hplain :
      opened content sizes' = ofFirstRows m (Delimited.rowsOf byte content true) none := by
    have hread := ofReader_of_utf8 hdelimiter content hsizes'
    rwa [readText_unmarked hmark] at hread
  have hmarked := ofReader_of_utf8 hdelimiter (Delimited.mark ++ content) hsizes
  rw [readText_marked] at hmarked
  refine ⟨?_, ?_, ?_⟩
  · intro hmore
    rw [if_pos hmore] at hmarked
    exact hmarked.trans hplain.symm
  · intro hthree
    rw [if_neg (Nat.not_lt.mpr hthree.le), if_pos hthree] at hmarked
    exact hmarked
  · intro hless
    rw [if_neg (Nat.not_lt.mpr hless.le), if_neg hless.ne] at hmarked
    refine ⟨?_, ?_, ?_⟩
    · intro h
      exact hmarked.trans (noHeaders_of_mark (m := m) hbyte h)
    · intro hhead hne
      obtain ⟨rest, rfl⟩ := List.head?_eq_some_iff.mp hhead
      have hquote : Delimited.quote ≠ byte :=
        fun heq => hne (Delimited.asciiByte_injective hdelimiter (by decide) heq.symm)
      obtain ⟨s, cs, names, hok, hheaders⟩ := headers_of_mark_quote (m := m) hbyte hquote rest
      exact ⟨s, cs, names, hmarked.trans hok, hheaders⟩
    · intro h hheader
      exact hmarked.trans ((ofFirstRows_mark (m := m) hbyte h hheader).trans hplain.symm)

def plainContent : List UInt8 := encode "a;b\n1;2\n".toList

theorem ofReader_of_cutMark :
    letI := Encoding.Katakana.decoders
    let marked := ofReader ⟨some ';', some "utf-8"⟩
      ⟨Delimited.mark ++ plainContent, 0, [1, 5], none⟩
    (sampleOf (Delimited.mark ++ plainContent) [1, 5]).length = 1 ∧
      marked = ofReader ⟨some ';', some "utf-8"⟩ ⟨plainContent, 0, [], none⟩ ∧
      marked.toOption.map (·.info.headers) = some ["a", "b"] := by
  let := Encoding.Katakana.decoders
  intro marked
  have hmark : ¬ Delimited.mark <+: plainContent := by decide +kernel
  have hreturned : (sampleOf (Delimited.mark ++ plainContent) [1, 5]).length = 1 := by
    decide +kernel
  have hless : (sampleOf (Delimited.mark ++ plainContent) [1, 5]).length < 3 := by
    rw [hreturned]
    decide
  have hplain : ∀ b ∈ plainContent.head?, b ≠ Delimited.quote ∧ Delimited.endsRow b = false := by
    decide +kernel
  have hheader : HeaderUnmarked 0x3B plainContent := by
    unfold HeaderUnmarked
    decide +kernel
  obtain ⟨-, -, hcut⟩ :=
    ofReader_of_mark ';' (by decide) plainContent hmark [1, 5] [] (by decide) (by simp)
  have hsame : marked = _ := (hcut hless).2.2 hplain hheader
  refine ⟨hreturned, hsame, ?_⟩
  rw [hsame]
  decide +kernel

/-- A mark that is cut leaves the quotes of a header standing, and one that comes alone the whole
content out. -/
theorem ofReader_of_quotedHeader :
    letI := Encoding.Katakana.decoders
    let content := encode "\"a\";b\n1;2\n".toList
    let opened (content : List UInt8) (sizes : List Nat) :=
      ofReader ⟨some ';', some "utf-8"⟩ ⟨content, 0, sizes, none⟩
    (opened content [1]).toOption.map (·.info.headers) = some ["a", "b"] ∧
      (opened (Delimited.mark ++ content) [1]).toOption.map (·.info.headers) =
        some ["\"a\"", "b"] ∧
      (opened (Delimited.mark ++ content) [3]).toOption.map (·.info.headers) = none := by
  let := Encoding.Katakana.decoders
  refine ⟨?_, ?_, ?_⟩ <;> decide +kernel

end Source

end BulkLoad
