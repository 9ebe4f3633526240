import BulkLoad.Proofs.Delimited.Endings
import BulkLoad.Proofs.Encoding.Utf8Text
import BulkLoad.Proofs.Text.Spans

/-!
Rows written with every field in quotes, and what the reader of rows makes of them.

A quoted field may hold any text: quotes are doubled, and delimiters and line ends inside quotes are
text. The reader takes such a row through a fixed course of states, whatever lines it counts on the
way, and gives back the fields as they were written, short of the blanks around them.
-/
namespace BulkLoad

namespace Delimited

open Encoding.Utf8 (encode encodeChar encode_append encode_cons encode_nil encodeChar_ne_nil
  encodeChar_of_ascii byte_toNat eq_of_mem_encodeChar)

def doubled (cs : List Char) : List Char := cs.flatMap fun c => if c = '"' then ['"', '"'] else [c]

def quotedField (field : String) : List Char := '"' :: doubled field.toList ++ ['"']

def quotedRow (delimiter : Char) (fields : List String) : List Char :=
  [delimiter].intercalate (fields.map quotedField)

/-- Rows, each ended by a line feed; the last line feed may be left out. -/
def quotedRows (delimiter : Char) (rows : List (List String)) (ended : Bool) : List Char :=
  let text := rows.flatMap fun fields => quotedRow delimiter fields ++ ['\n']
  if ended then text else text.dropLast

theorem head?_quotedRow (delimiter : Char) {fields : List String} (h : fields ≠ []) :
    (quotedRow delimiter fields).head? = some '"' := by
  cases fields with
  | nil => exact absurd rfl h
  | cons first rest => cases rest <;> rfl

/-- Written rows start with a quote. -/
theorem eq_of_head?_quotedRows {delimiter : Char} {fields : List String} (h : fields ≠ [])
    {rows : List (List String)} {ended : Bool} {c : Char}
    (hc : (quotedRows delimiter (fields :: rows) ended).head? = some c) : c = '"' := by
  have hne : quotedRow delimiter fields ≠ [] := by
    intro hnil
    have hhead := head?_quotedRow delimiter h
    rw [hnil] at hhead
    cases hhead
  have htext : ((fields :: rows).flatMap fun fields =>
      quotedRow delimiter fields ++ ['\n']).head? = some '"' := by
    rw [List.flatMap_cons, List.append_assoc, List.head?_append_of_ne_nil _ hne,
      head?_quotedRow delimiter h]
  cases ended with
  | true => exact Option.some.inj (hc.symm.trans htext)
  | false =>
      change (List.dropLast _).head? = some c at hc
      rw [List.head?_dropLast, htext] at hc
      split_ifs at hc
      exact (Option.some.inj hc).symm

def fieldBytes (field : String) : List UInt8 := encode field.toList

section Blanks

def fieldBlanks : List Char := [' ', '\t', '\n', '\x0c', '\r']

def Bare (field : String) : Prop :=
  (∀ c ∈ field.toList.head?, c ∉ fieldBlanks) ∧ ∀ c ∈ field.toList.getLast?, c ∉ fieldBlanks

theorem isAscii_of_isFieldBlank {b : UInt8} (h : Text.isFieldBlank b = true) : b < 0x80 := by
  simp only [Text.isFieldBlank, Bool.or_eq_true, beq_iff_eq, or_assoc] at h
  rcases h with rfl | rfl | rfl | rfl | rfl <;> decide

theorem mem_fieldBlanks {c : Char} {b : UInt8} (hmem : b ∈ encodeChar c)
    (hblank : Text.isFieldBlank b = true) : c ∈ fieldBlanks := by
  rw [eq_of_mem_encodeChar hmem (isAscii_of_isFieldBlank hblank)]
  simp only [Text.isFieldBlank, Bool.or_eq_true, beq_iff_eq, or_assoc] at hblank
  rcases hblank with rfl | rfl | rfl | rfl | rfl <;> decide

theorem head?_encode {cs : List Char} {b : UInt8} (h : (encode cs).head? = some b) :
    ∃ c, cs.head? = some c ∧ b ∈ encodeChar c := by
  cases cs with
  | nil => cases h
  | cons c rest =>
      rw [encode_cons, List.head?_append_of_ne_nil _ (encodeChar_ne_nil c)] at h
      exact ⟨c, rfl, List.mem_of_mem_head? h⟩

theorem getLast?_encode {cs : List Char} {b : UInt8} (h : (encode cs).getLast? = some b) :
    ∃ c, cs.getLast? = some c ∧ b ∈ encodeChar c := by
  rcases List.eq_nil_or_concat cs with rfl | ⟨front, c, rfl⟩
  · cases h
  · rw [List.concat_eq_append, encode_append, encode_cons, encode_nil, List.append_nil,
      List.getLast?_append_of_ne_nil _ (encodeChar_ne_nil c)] at h
    exact ⟨c, by simp, List.mem_of_mem_getLast? h⟩

/-- Nothing is removed around a bare field. -/
theorem trimBoth_fieldBytes {field : String} (h : Bare field) :
    Text.trimBoth Text.isFieldBlank (fieldBytes field) = fieldBytes field := by
  rw [Text.trimBoth_eq_self_iff]
  constructor
  · intro b hb
    obtain ⟨c, hc, hmem⟩ := head?_encode hb
    exact Bool.eq_false_iff.mpr fun hblank => h.1 c hc (mem_fieldBlanks hmem hblank)
  · intro b hb
    obtain ⟨c, hc, hmem⟩ := getLast?_encode hb
    exact Bool.eq_false_iff.mpr fun hblank => h.2 c hc (mem_fieldBlanks hmem hblank)

theorem map_trimBoth_fieldBytes {fields : List String} (h : ∀ t ∈ fields, Bare t) :
    (fields.map fieldBytes).map (Text.trimBoth Text.isFieldBlank) = fields.map fieldBytes := by
  rw [List.map_map]
  exact List.map_congr_left fun t hmem => trimBoth_fieldBytes (h t hmem)

end Blanks

/-- Where a reader of rows stands, the counts of lines left out. -/
structure Standing where
  phase : Phase
  field : List UInt8
  fields : List (List UInt8)

namespace RowState

def standing (s : RowState) : Standing := ⟨s.phase, s.field, s.fields⟩

theorem finish_of_outside {s : RowState} {f : List UInt8} {fs : List (List UInt8)}
    (h : s.standing = ⟨.outside, f, fs⟩) : s.finish = none := by
  obtain ⟨_, _, _, n, line⟩ := s
  cases h
  rfl

theorem finish_of_afterQuote {s : RowState} {f : List UInt8} {fs : List (List UInt8)}
    (h : s.standing = ⟨.afterQuote, f, fs⟩) :
    s.finish.toList.map (·.fields) =
      [(f.reverse :: fs).reverse.map (Text.trimBoth Text.isFieldBlank)] := by
  obtain ⟨_, _, _, n, line⟩ := s
  cases h
  rfl

def outcome (delimiter : UInt8) (s : RowState) : List UInt8 → List (List (List UInt8))
  | [] => []
  | b :: rest =>
    (s.step delimiter b).2.toList.map (·.fields) ++ (s.step delimiter b).1.outcome delimiter rest

theorem outcome_eq (delimiter : UInt8) (s : RowState) (place : Nat) (bytes : List UInt8) :
    s.outcome delimiter bytes = (s.endings delimiter place bytes).map (·.2.fields) := by
  induction bytes generalizing s place with
  | nil => rfl
  | cons b rest ih =>
      rw [outcome, endings, List.map_append, List.map_map, ih _ (place + 1)]
      rfl

theorem outcome_append (delimiter : UInt8) (s : RowState) (xs ys : List UInt8) :
    s.outcome delimiter (xs ++ ys) =
      s.outcome delimiter xs ++ (s.reach delimiter xs).outcome delimiter ys := by
  rw [outcome_eq delimiter s 0, endings_append, List.map_append, ← outcome_eq, ← outcome_eq]

end RowState

/-- The bytes lead from one standing to another, and rows with the fields `out` end inside them. -/
def Leads (delimiter : UInt8) (before : Standing) (bytes : List UInt8) (after : Standing)
    (out : List (List (List UInt8))) : Prop :=
  ∀ s : RowState, s.standing = before →
    (s.reach delimiter bytes).standing = after ∧ s.outcome delimiter bytes = out

namespace Leads

variable {delimiter : UInt8} {a b c : Standing} {xs ys : List UInt8}
  {out later : List (List (List UInt8))}

theorem nil (delimiter : UInt8) (a : Standing) : Leads delimiter a [] a [] :=
  fun _ hs => ⟨hs, rfl⟩

theorem append (h : Leads delimiter a xs b out) (h' : Leads delimiter b ys c later) :
    Leads delimiter a (xs ++ ys) c (out ++ later) := by
  intro s hs
  obtain ⟨hreach, hout⟩ := h s hs
  obtain ⟨hreach', hout'⟩ := h' _ hreach
  rw [RowState.reach_append, RowState.outcome_append, hout, hout']
  exact ⟨hreach', rfl⟩

theorem byte {b : UInt8}
    (h : ∀ s : RowState, s.standing = a →
      (s.step delimiter b).1.standing = c ∧ (s.step delimiter b).2.toList.map (·.fields) = out) :
    Leads delimiter a [b] c out := by
  intro s hs
  obtain ⟨hreach, hout⟩ := h s hs
  exact ⟨hreach, (List.append_nil _).trans hout⟩

section Bytes

variable {f : List UInt8} {fs : List (List UInt8)}

theorem openingQuote {phase : Phase} (h : phase = .outside ∨ phase = .fieldStart) :
    Leads delimiter ⟨phase, f, fs⟩ [quote] ⟨.quoted, f, fs⟩ [] := by
  apply byte
  rintro ⟨_, _, _, n, line⟩ ⟨⟩
  rcases h with rfl | rfl <;> exact ⟨rfl, rfl⟩

theorem closingQuote : Leads delimiter ⟨.quoted, f, fs⟩ [quote] ⟨.afterQuote, f, fs⟩ [] := by
  apply byte
  rintro ⟨_, _, _, n, line⟩ ⟨⟩
  exact ⟨rfl, rfl⟩

theorem secondQuote :
    Leads delimiter ⟨.afterQuote, f, fs⟩ [quote] ⟨.quoted, quote :: f, fs⟩ [] := by
  apply byte
  rintro ⟨_, _, _, n, line⟩ ⟨⟩
  exact ⟨rfl, rfl⟩

theorem quotedByte {b : UInt8} (h : b ≠ quote) :
    Leads delimiter ⟨.quoted, f, fs⟩ [b] ⟨.quoted, b :: f, fs⟩ [] := by
  apply byte
  rintro ⟨_, _, _, n, line⟩ ⟨⟩
  have hb : (b == quote) = false := beq_false_of_ne h
  simp only [RowState.step, RowState.react, hb]
  exact ⟨rfl, rfl⟩

theorem fieldEnd (h : delimiter ≠ quote) (bytes : List UInt8) :
    Leads delimiter ⟨.afterQuote, bytes.reverse, fs⟩ [delimiter] ⟨.fieldStart, [], bytes :: fs⟩
      [] := by
  have hback : ∀ f, Leads delimiter ⟨.afterQuote, f, fs⟩ [delimiter]
      ⟨.fieldStart, [], f.reverse :: fs⟩ [] := by
    intro f
    apply byte
    rintro ⟨_, _, _, n, line⟩ ⟨⟩
    have hb : (delimiter == quote) = false := beq_false_of_ne h
    simp only [RowState.step, RowState.react, RowState.afterText, hb, beq_self_eq_true, if_true]
    exact ⟨rfl, rfl⟩
  have hbytes := hback bytes.reverse
  rwa [List.reverse_reverse] at hbytes

theorem rowEnd (h : lineFeed ≠ delimiter) :
    Leads delimiter ⟨.afterQuote, f, fs⟩ [lineFeed] ⟨.outside, [], []⟩
      [(f.reverse :: fs).reverse.map (Text.trimBoth Text.isFieldBlank)] := by
  apply byte
  rintro ⟨_, _, _, n, line⟩ ⟨⟩
  have hb : (lineFeed == delimiter) = false := beq_false_of_ne h
  have hquote : (lineFeed == quote) = false := by decide
  simp only [RowState.step, RowState.react, RowState.afterText, hb, hquote, beq_self_eq_true,
    if_true]
  exact ⟨rfl, rfl⟩

theorem quotedBytes {bytes : List UInt8} (h : ∀ b ∈ bytes, b ≠ quote) :
    Leads delimiter ⟨.quoted, f, fs⟩ bytes ⟨.quoted, bytes.reverse ++ f, fs⟩ [] := by
  induction bytes generalizing f with
  | nil => exact .nil delimiter _
  | cons b rest ih =>
      obtain ⟨hb, hrest⟩ := List.forall_mem_cons.mp h
      have hboth := (quotedByte hb).append (ih (f := b :: f) hrest)
      rw [List.reverse_cons, List.append_assoc]
      exact hboth

end Bytes

section Texts

variable {f : List UInt8} {fs : List (List UInt8)}

theorem doubledText (cs : List Char) :
    Leads delimiter ⟨.quoted, f, fs⟩ (encode (doubled cs))
      ⟨.quoted, (encode cs).reverse ++ f, fs⟩ [] := by
  -- A doubled quote leaves the quotes and enters them again; any other character stays inside, and
  -- none of its bytes is a quote.
  induction cs generalizing f with
  | nil => exact .nil delimiter _
  | cons c rest ih =>
      have hsplit : doubled (c :: rest) = (if c = '"' then ['"', '"'] else [c]) ++ doubled rest :=
        List.flatMap_cons
      have hchar : Leads delimiter ⟨.quoted, f, fs⟩ (encode (if c = '"' then ['"', '"'] else [c]))
          ⟨.quoted, (encodeChar c).reverse ++ f, fs⟩ [] := by
        split_ifs with hquote
        · rw [hquote]
          exact closingQuote.append secondQuote
        · have hplain : ∀ b ∈ encodeChar c, b ≠ quote := by
            rintro b hmem rfl
            exact hquote (eq_of_mem_encodeChar hmem (by decide))
          rw [encode_cons, encode_nil, List.append_nil]
          exact quotedBytes hplain
      rw [hsplit, encode_append, encode_cons, List.reverse_append, List.append_assoc]
      exact hchar.append ih

/-- A quoted field is read as its text. -/
theorem field {phase : Phase} (h : phase = .outside ∨ phase = .fieldStart) (text : String) :
    Leads delimiter ⟨phase, [], fs⟩ (encode (quotedField text))
      ⟨.afterQuote, (fieldBytes text).reverse, fs⟩ [] := by
  have hopened : Leads delimiter ⟨phase, [], fs⟩ [quote] ⟨.quoted, [], fs⟩ [] := openingQuote h
  have hread := (hopened.append (doubledText text.toList)).append closingQuote
  rw [List.append_nil] at hread
  have hbytes : encode (quotedField text) = [quote] ++ encode (doubled text.toList) ++ [quote] :=
    encode_append _ _
  rw [hbytes]
  exact hread

end Texts

end Leads

theorem fields_rowsOf (byte : UInt8) (bytes : List UInt8) :
    (rowsOf byte bytes true).map (·.fields) =
      RowState.start.outcome byte bytes ++
        (RowState.start.reach byte bytes).finish.toList.map (·.fields) := by
  rw [rowsOf_eq byte 0, List.map_append, List.map_map, RowState.outcome_eq byte _ 0]
  rfl

section Written

def Written (rows : List (List String)) : Prop :=
  ∀ fields ∈ rows, fields ≠ [] ∧ ∀ t ∈ fields, Bare t

theorem asciiByte_injective {c d : Char} (hc : c.toNat < 0x80) (hd : d.toNat < 0x80)
    (h : c.toNat.toUInt8 = d.toNat.toUInt8) : c = d := by
  have hvalue := congrArg UInt8.toNat h
  rw [byte_toNat (Nat.lt_trans hc (by decide)), byte_toNat (Nat.lt_trans hd (by decide))] at hvalue
  rw [← Char.ofNat_toNat c, hvalue, Char.ofNat_toNat]

variable {delimiter : Char} (hascii : delimiter.toNat < 0x80) (hquote : delimiter ≠ '"')
include hascii hquote

theorem Leads.row {phase : Phase} (hphase : phase = .outside ∨ phase = .fieldStart)
    (fs : List (List UInt8)) {fields : List String} (h : fields ≠ []) :
    ∃ f fs', Leads delimiter.toNat.toUInt8 ⟨phase, [], fs⟩ (encode (quotedRow delimiter fields))
        ⟨.afterQuote, f, fs'⟩ [] ∧
      (f.reverse :: fs').reverse = fs.reverse ++ fields.map fieldBytes := by
  have hbyte : delimiter.toNat.toUInt8 ≠ quote :=
    fun heq => hquote (asciiByte_injective hascii (by decide) heq)
  -- The first field may open a row; the others come after a delimiter. Hence the phase varies.
  induction fields generalizing phase fs with
  | nil => exact absurd rfl h
  | cons first rest ih =>
      cases rest with
      | nil =>
          have hone : quotedRow delimiter [first] = quotedField first :=
            List.intercalate_singleton
          refine ⟨(fieldBytes first).reverse, fs, ?_, ?_⟩
          · rw [hone]
            exact Leads.field hphase first
          · simp
      | cons second others =>
          obtain ⟨f, fs', hleads, hfields⟩ :=
            ih (.inr rfl) (fieldBytes first :: fs) (List.cons_ne_nil second others)
          have hsplit : quotedRow delimiter (first :: second :: others) =
              quotedField first ++ [delimiter] ++ quotedRow delimiter (second :: others) :=
            (List.append_assoc _ _ _).symm
          have hend : Leads delimiter.toNat.toUInt8
              ⟨.afterQuote, (fieldBytes first).reverse, fs⟩ (encode [delimiter])
              ⟨.fieldStart, [], fieldBytes first :: fs⟩ [] := by
            rw [encode_cons, encode_nil, List.append_nil, encodeChar_of_ascii hascii]
            exact Leads.fieldEnd hbyte (fieldBytes first)
          refine ⟨f, fs', ?_, ?_⟩
          · rw [hsplit, encode_append, encode_append]
            exact ((Leads.field hphase first).append hend).append hleads
          · rw [hfields]
            simp

variable (hfeed : delimiter ≠ '\n')

include hfeed

theorem Leads.line {fields : List String} (h : fields ≠ [] ∧ ∀ t ∈ fields, Bare t) :
    Leads delimiter.toNat.toUInt8 ⟨.outside, [], []⟩ (encode (quotedRow delimiter fields ++ ['\n']))
      ⟨.outside, [], []⟩ [fields.map fieldBytes] := by
  obtain ⟨f, fs, hrow, hfields⟩ := Leads.row hascii hquote (.inl rfl) [] h.1
  have hbyte : lineFeed ≠ delimiter.toNat.toUInt8 :=
    fun heq => hfeed (asciiByte_injective hascii (by decide) heq.symm)
  have hend : Leads delimiter.toNat.toUInt8 ⟨.afterQuote, f, fs⟩ [lineFeed] ⟨.outside, [], []⟩ _ :=
    Leads.rowEnd hbyte
  rw [hfields, List.reverse_nil, List.nil_append, map_trimBoth_fieldBytes h.2] at hend
  rw [encode_append]
  exact hrow.append hend

theorem Leads.lines {rows : List (List String)} (h : Written rows) :
    Leads delimiter.toNat.toUInt8 ⟨.outside, [], []⟩
      (encode (rows.flatMap fun fields => quotedRow delimiter fields ++ ['\n']))
      ⟨.outside, [], []⟩ (rows.map (·.map fieldBytes)) := by
  induction rows with
  | nil => exact .nil _ _
  | cons fields rest ih =>
      obtain ⟨hfields, hrest⟩ := List.forall_mem_cons.mp h
      rw [List.flatMap_cons, encode_append]
      exact (Leads.line hascii hquote hfeed hfields).append (ih hrest)

theorem rowsOf_ended {rows : List (List String)} (h : Written rows) :
    (rowsOf delimiter.toNat.toUInt8 (encode (quotedRows delimiter rows true)) true).map (·.fields) =
      rows.map (·.map fieldBytes) := by
  obtain ⟨hreach, hout⟩ := Leads.lines hascii hquote hfeed h .start rfl
  have htext : quotedRows delimiter rows true =
      rows.flatMap fun fields => quotedRow delimiter fields ++ ['\n'] := rfl
  rw [fields_rowsOf, htext, hout, RowState.finish_of_outside hreach]
  exact List.append_nil _

theorem rowsOf_unended {rows : List (List String)} (h : Written rows) :
    (rowsOf delimiter.toNat.toUInt8 (encode (quotedRows delimiter rows false)) true).map
        (·.fields) =
      rows.map (·.map fieldBytes) := by
  rcases List.eq_nil_or_concat rows with rfl | ⟨front, last, rfl⟩
  · rfl
  rw [List.concat_eq_append] at h ⊢
  have hfront : Written front := fun fields hmem => h fields (List.mem_append_left _ hmem)
  obtain ⟨hsome, hbare⟩ := h last (by simp)
  obtain ⟨f, fs, hlast, hfields⟩ := Leads.row hascii hquote (.inl rfl) [] hsome
  obtain ⟨hreach, hout⟩ :=
    ((Leads.lines hascii hquote hfeed hfront).append hlast) .start rfl
  have htext : quotedRows delimiter (front ++ [last]) false =
      (front.flatMap fun fields => quotedRow delimiter fields ++ ['\n']) ++
        quotedRow delimiter last := by
    simp [quotedRows, ← List.append_assoc]
  rw [fields_rowsOf, htext, encode_append, hout, RowState.finish_of_afterQuote hreach, hfields]
  simp [map_trimBoth_fieldBytes hbare]

/-- **Reading undoes quoting.** -/
theorem rowsOf_quotedRows {rows : List (List String)} (h : Written rows) (ended : Bool) :
    (rowsOf delimiter.toNat.toUInt8 (encode (quotedRows delimiter rows ended)) true).map
        (·.fields) =
      rows.map (·.map fieldBytes) := by
  cases ended with
  | true => exact rowsOf_ended hascii hquote hfeed h
  | false => exact rowsOf_unended hascii hquote hfeed h

end Written

end Delimited

end BulkLoad
