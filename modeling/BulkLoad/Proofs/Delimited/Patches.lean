import BulkLoad.Proofs.Delimited.FirstRow

/-!
Bytes that are changed beyond ASCII before rows are read from them, or after.

Rows are taken apart at ASCII bytes, and the blanks around a field are ASCII bytes. So a change that
keeps these and treats each stretch of other bytes between them on its own may as well be made to
the fields. Quotes are left aside: inside them a stretch may go on where a row would have ended.
-/
namespace BulkLoad.Delimited

def Wide (bytes : List UInt8) : Prop := ∀ b ∈ bytes, 0x80 ≤ b

/-- A change of bytes that keeps the ASCII bytes and makes of each stretch of other bytes another
such stretch. -/
structure Patch (f : List UInt8 → List UInt8) : Prop where
  ascii : ∀ {b}, b < 0x80 → ∀ xs ys, f (xs ++ b :: ys) = f xs ++ b :: f ys
  nil : f [] = []
  ne_nil : ∀ {bytes}, bytes ≠ [] → f bytes ≠ []
  wide : ∀ {bytes}, Wide bytes → Wide (f bytes)

/-- Bytes as stretches beyond ASCII, each but the last with an ASCII byte behind it. -/
inductive Stretches : List UInt8 → Prop where
  | last (w : List UInt8) (hw : Wide w) : Stretches w
  | cons (w : List UInt8) (hw : Wide w) (b : UInt8) (hb : b < 0x80) {rest : List UInt8}
      (hrest : Stretches rest) : Stretches (w ++ b :: rest)

theorem wide_nil : Wide [] := fun _ hb => nomatch hb

theorem wide_cons {b : UInt8} {w : List UInt8} (hb : 0x80 ≤ b) (hw : Wide w) : Wide (b :: w) :=
  List.forall_mem_cons.mpr ⟨hb, hw⟩

theorem stretches (bytes : List UInt8) : Stretches bytes := by
  induction bytes with
  | nil => exact .last [] wide_nil
  | cons b rest ih =>
      by_cases hb : b < 0x80
      · exact .cons [] wide_nil b hb ih
      · have hwide : 0x80 ≤ b := UInt8.not_lt.mp hb
        cases ih with
        | last _ hw => exact .last (b :: rest) (wide_cons hwide hw)
        | cons w hw c hc hrest => exact .cons (b :: w) (wide_cons hwide hw) c hc hrest

/-- No stretch is open behind a field that is written backwards. -/
def Closed (field : List UInt8) : Prop := ∀ b, field.head? = some b → b < 0x80

namespace Patch

variable {f : List UInt8 → List UInt8} (hf : Patch f) {b : UInt8} {bytes : List UInt8}
include hf

theorem concat (hb : b < 0x80) (xs : List UInt8) : f (xs ++ [b]) = f xs ++ [b] := by
  rw [hf.ascii hb, hf.nil]

theorem append_of_closed {field : List UInt8} (h : Closed field) (w : List UInt8) :
    f (field.reverse ++ w) = f field.reverse ++ f w := by
  cases field with
  | nil => rw [List.reverse_nil, List.nil_append, hf.nil, List.nil_append]
  | cons b front =>
      rw [List.reverse_cons, hf.concat (h b rfl), List.append_assoc, List.append_assoc]
      exact hf.ascii (h b rfl) _ _

theorem ascii_append {front : List UInt8} (h : ∀ b ∈ front, b < 0x80) (ys : List UInt8) :
    f (front ++ ys) = front ++ f ys := by
  induction front with
  | nil => rfl
  | cons b rest ih =>
      obtain ⟨hb, hrest⟩ := List.forall_mem_cons.mp h
      have hfirst := hf.ascii hb [] (rest ++ ys)
      rw [hf.nil, ih hrest] at hfirst
      exact hfirst

theorem append_ascii (xs : List UInt8) {back : List UInt8} (h : ∀ b ∈ back, b < 0x80) :
    f (xs ++ back) = f xs ++ back := by
  cases back with
  | nil => rw [List.append_nil, List.append_nil]
  | cons b rest =>
      obtain ⟨hb, hrest⟩ := List.forall_mem_cons.mp h
      have hsame := hf.ascii_append hrest []
      rw [hf.nil, List.append_nil] at hsame
      rw [hf.ascii hb, hsame]

/-- A patched stretch has no ASCII byte at an end. -/
theorem head?_append_wide {w : List UInt8} (hw : Wide w) (hb : b < 0x80) (ys : List UInt8)
    (h : (f w ++ ys).head? = some b) : w = [] ∧ ys.head? = some b := by
  by_cases hnil : w = []
  · rw [hnil, hf.nil] at h
    exact ⟨hnil, h⟩
  · rw [List.head?_append_of_ne_nil _ (hf.ne_nil hnil)] at h
    exact absurd hb (UInt8.not_lt.mpr (hf.wide hw b (List.mem_of_mem_head? h)))

theorem getLast?_append_wide {w : List UInt8} (hw : Wide w) (hb : b < 0x80) (xs : List UInt8)
    (h : (xs ++ f w).getLast? = some b) : w = [] ∧ xs.getLast? = some b := by
  by_cases hnil : w = []
  · rw [hnil, hf.nil, List.append_nil] at h
    exact ⟨hnil, h⟩
  · rw [List.getLast?_append_of_ne_nil _ (hf.ne_nil hnil)] at h
    exact absurd hb (UInt8.not_lt.mpr (hf.wide hw b (List.mem_of_mem_getLast? h)))

theorem head?_eq (hb : b < 0x80) (h : (f bytes).head? = some b) : bytes.head? = some b := by
  cases stretches bytes with
  | last w hw =>
      rw [← List.append_nil (f bytes)] at h
      cases (hf.head?_append_wide hw hb [] h).2
  | cons w hw c hc hrest =>
      rw [hf.ascii hc] at h
      obtain ⟨rfl, hhead⟩ := hf.head?_append_wide hw hb _ h
      exact hhead

theorem getLast?_eq (hb : b < 0x80) (h : (f bytes).getLast? = some b) :
    bytes.getLast? = some b := by
  -- Seen from the end, the stretches are those of the bytes turned around.
  obtain ⟨back, rfl⟩ : ∃ back : List UInt8, bytes = back.reverse :=
    ⟨bytes.reverse, bytes.reverse_reverse.symm⟩
  have hwide : ∀ {w : List UInt8}, Wide w → Wide w.reverse :=
    fun hw c hc => hw c (List.mem_reverse.mp hc)
  cases stretches back with
  | last w hw =>
      rw [← List.nil_append (f _)] at h
      cases (hf.getLast?_append_wide (hwide hw) hb [] h).2
  | @cons w hw c hc rest hrest =>
      have hsplit : (w ++ c :: rest).reverse = rest.reverse ++ c :: w.reverse := by simp
      rw [hsplit, hf.ascii hc, ← List.singleton_append, ← List.append_assoc] at h
      obtain ⟨hnil, hend⟩ := hf.getLast?_append_wide (hwide hw) hb _ h
      rw [hsplit, hnil]
      simpa using hend

/-- Trimming a field and patching it do not get in each other's way. -/
theorem trim_field (field : List UInt8) :
    Text.trimBoth Text.isFieldBlank (f field) = f (Text.trimBoth Text.isFieldBlank field) := by
  obtain ⟨⟨front, back, hfront, hback, hfield⟩, hfirst, hlast⟩ :=
    Text.trims_trimBoth Text.isFieldBlank field
  have hascii : ∀ {blanks : List UInt8}, (∀ b ∈ blanks, Text.isFieldBlank b = true) →
      ∀ b ∈ blanks, b < 0x80 := fun h b hb => isAscii_of_isFieldBlank (h b hb)
  apply Text.trimBoth_of_trims
  refine ⟨⟨front, back, hfront, hback, ?_⟩, ?_, ?_⟩
  · conv_lhs => rw [hfield]
    rw [hf.append_ascii _ (hascii hback), hf.ascii_append (hascii hfront)]
  · intro b hb
    by_contra hblank
    rw [Bool.not_eq_false] at hblank
    have hhead := hf.head?_eq (isAscii_of_isFieldBlank hblank) hb
    rw [hfirst b hhead] at hblank
    cases hblank
  · intro b hb
    by_contra hblank
    rw [Bool.not_eq_false] at hblank
    have hend := hf.getLast?_eq (isAscii_of_isFieldBlank hblank) hb
    rw [hlast b hend] at hblank
    cases hblank

end Patch

def Row.map (f : List UInt8 → List UInt8) (row : Row) : Row := ⟨row.line, row.fields.map f⟩

namespace RowState

def map (f : List UInt8 → List UInt8) (s : RowState) : RowState :=
  { s with field := (f s.field.reverse).reverse, fields := s.fields.map f }

def stretched (s : RowState) (w : List UInt8) : RowState :=
  { s with phase := if w = [] then s.phase else .plain, field := w.reverse ++ s.field }

variable {f : List UInt8 → List UInt8} {delimiter b : UInt8} {s : RowState}

section Ascii

variable (delimiter) in
/-- Outside quotes a byte that is no quote belongs to the text of a row, or is passed over before
it. -/
theorem inPhase_unquoted (hs : s.phase ≠ .quoted) (hb : b ≠ quote) :
    Move.inPhase delimiter s.phase b = Move.afterText delimiter b ∨
      s.phase.onward = .outside ∧ Move.inPhase delimiter s.phase b = .pass .outside := by
  have hstart : Move.startField delimiter b = Move.afterText delimiter b := by
    simp [Move.startField, hb]
  cases hphase : s.phase with
  | quoted => exact absurd hphase hs
  | plain => exact .inl rfl
  | fieldStart => exact .inl hstart
  | afterQuote => exact .inl (if_neg (by simpa using hb))
  | outside | afterReturn =>
      by_cases hends : endsRow b = true
      · exact .inr ⟨rfl, if_pos hends⟩
      · exact .inl ((if_neg hends).trans hstart)

variable (delimiter) in
/-- Behind an ASCII byte no stretch is open, unless one was open before a row. -/
theorem step_closed (hs : s.phase ≠ .quoted) (hfield : Closed s.field ∨ s.phase = .plain)
    (hb : b < 0x80) (hquote : b ≠ quote) :
    (s.step delimiter b).1.phase ≠ .quoted ∧ Closed (s.step delimiter b).1.field := by
  have hnone : Closed [] := fun _ h => nomatch h
  rw [step_eq]
  rcases inPhase_unquoted delimiter hs hquote with hmove | ⟨hphase, hmove⟩ <;>
    rw [hmove]
  · unfold Move.afterText
    split_ifs
    · exact ⟨nofun, hnone⟩
    · refine ⟨?_, hnone⟩
      change (if _ then Phase.outside else Phase.afterReturn) ≠ _
      split_ifs <;> nofun
    · refine ⟨nofun, ?_⟩
      rintro c ⟨⟩
      exact hb
  · refine ⟨nofun, hfield.resolve_right ?_⟩
    intro hplain
    rw [hplain] at hphase
    cases hphase

end Ascii

section Patched

variable (hf : Patch f)
include hf

theorem row_map (s : RowState) : (s.map f).row = s.row.map f := by
  have htrim : ∀ fields : List (List UInt8),
      (fields.map f).map (Text.trimBoth Text.isFieldBlank) =
        (fields.map (Text.trimBoth Text.isFieldBlank)).map f := by
    intro fields
    rw [List.map_map, List.map_map]
    exact List.map_congr_left fun field _ => hf.trim_field field
  simp only [row, map, Row.map, List.reverse_reverse, ← List.map_cons, ← List.map_reverse, htrim]

theorem finish_map (s : RowState) : (s.map f).finish = s.finish.map (Row.map f) := by
  rw [finish_eq, finish_eq, row_map hf]
  change (if s.phase.onward = _ then _ else _) = _
  split_ifs <;> rfl

/-- An ASCII byte makes the same move whatever the fields hold. -/
theorem step_map (hb : b < 0x80) (s : RowState) :
    (s.map f).step delimiter b =
      ((s.step delimiter b).1.map f, (s.step delimiter b).2.map (Row.map f)) := by
  have hcounted : (s.map f).counted b = (s.counted b).map f := rfl
  have hphase : (s.map f).phase = s.phase := rfl
  rw [step_eq, step_eq, hphase, hcounted]
  cases Move.inPhase delimiter s.phase b with
  | pass phase => rfl
  | push phase =>
      have hpush : (f (b :: (s.counted b).field).reverse).reverse =
          b :: (f (s.counted b).field.reverse).reverse := by
        rw [List.reverse_cons, hf.concat hb, List.reverse_append]
        rfl
      simp only [Move.apply, push, map, hpush, Option.map_none]
  | endField =>
      simp only [Move.apply, endField, map, List.reverse_reverse, List.reverse_nil, hf.nil,
        List.map_cons, Option.map_none]
  | endRow =>
      simp only [Move.apply, endRow, row_map hf, Option.map_some]
      simp only [map, List.reverse_nil, hf.nil, List.map_nil]

theorem stretched_map (hs : Closed s.field) (w : List UInt8) :
    (s.stretched w).map f = (s.map f).stretched (f w) := by
  have hfield : (f (w.reverse ++ s.field).reverse).reverse =
      (f w).reverse ++ (f s.field.reverse).reverse := by
    rw [List.reverse_append, List.reverse_reverse, hf.append_of_closed hs, List.reverse_append]
  have hphase : (if f w = [] then s.phase else .plain) = if w = [] then s.phase else .plain := by
    by_cases hw : w = []
    · rw [hw, hf.nil]
    · rw [if_neg (hf.ne_nil hw), if_neg hw]
  simp only [stretched, map, hfield, hphase]

end Patched

/-- Outside quotes a stretch beyond ASCII belongs to the field under way. -/
theorem rowsFrom_stretched (hdelimiter : delimiter < 0x80) (hs : s.phase ≠ .quoted)
    {w : List UInt8} (hw : Wide w) (rest : List UInt8) :
    s.rowsFrom delimiter (w ++ rest) = (s.stretched w).rowsFrom delimiter rest := by
  induction w generalizing s with
  | nil => rfl
  | cons b w ih =>
      obtain ⟨hb, hrest⟩ := List.forall_mem_cons.mp hw
      have hother : ∀ c : UInt8, c < 0x80 → b ≠ c := by
        rintro c hc rfl
        exact UInt8.not_lt.mpr hb hc
      have hends : endsRow b = false := by
        simp [endsRow, hother lineFeed (by decide), hother carriageReturn (by decide)]
      have hmove : Move.inPhase delimiter s.phase b = .push .plain := by
        have hafter : Move.afterText delimiter b = .push .plain := by
          simp [Move.afterText, hother delimiter hdelimiter, hends]
        rcases inPhase_unquoted delimiter hs (hother quote (by decide)) with
          hmove | ⟨hphase, -⟩
        · exact hmove.trans hafter
        · have hout : Move.inPhase delimiter s.phase b = Move.afterText delimiter b :=
            inPhase_plainLine (.inl hphase) ⟨hends, hother quote (by decide)⟩
          exact hout.trans hafter
      have hstep : s.step delimiter b = (s.push .plain b, none) := by
        have hcounted : s.counted b = s := by
          simp [counted, hother lineFeed (by decide)]
        rw [step_eq, hmove, hcounted]
        rfl
      have hnext : (s.push .plain b).stretched w = s.stretched (b :: w) := by
        simp [stretched, push]
      have hplain : (s.push .plain b).phase ≠ .quoted := by
        rintro ⟨⟩
      rw [List.cons_append, rowsFrom, hstep, ih hplain hrest, hnext]
      rfl

/-- Rows read from patched bytes are the rows of the bytes, patched. -/
theorem rowsFrom_map (hf : Patch f) (hdelimiter : delimiter < 0x80) {bytes : List UInt8}
    (hquote : quote ∉ bytes) (hs : s.phase ≠ .quoted) (hfield : Closed s.field) :
    (s.map f).rowsFrom delimiter (f bytes) = (s.rowsFrom delimiter bytes).map (Row.map f) := by
  induction stretches bytes generalizing s with
  | last w hw =>
      have hplain := rowsFrom_stretched hdelimiter hs hw []
      have hpatched := rowsFrom_stretched (s := s.map f) hdelimiter hs (hf.wide hw) []
      rw [List.append_nil] at hplain hpatched
      rw [hplain, hpatched, ← stretched_map hf hfield]
      change ((s.stretched w).map f).finish.toList = _
      rw [finish_map hf]
      change _ = (s.stretched w).finish.toList.map _
      cases (s.stretched w).finish <;> rfl
  | @cons w hw b hb rest hrest ih =>
      have hne : b ≠ quote := by
        rintro rfl
        exact hquote (by simp)
      have hlater : quote ∉ rest := fun hmem => hquote (by simp [hmem])
      have hunquoted : (s.stretched w).phase ≠ .quoted := by
        change (if w = [] then s.phase else Phase.plain) ≠ _
        split_ifs
        · exact hs
        · nofun
      have hopen : Closed (s.stretched w).field ∨ (s.stretched w).phase = .plain := by
        by_cases hnil : w = []
        · rw [hnil]
          exact .inl hfield
        · exact .inr (if_neg hnil)
      obtain ⟨hphase, hclosed⟩ := step_closed delimiter hunquoted hopen hb hne
      have hout : ∀ row? : Option Row,
          (row?.map (Row.map f)).toList = row?.toList.map (Row.map f) := by
        intro row?
        cases row? <;> rfl
      rw [hf.ascii hb, rowsFrom_stretched hdelimiter hs hw,
        rowsFrom_stretched (s := s.map f) hdelimiter hs (hf.wide hw), ← stretched_map hf hfield,
        rowsFrom, rowsFrom, step_map hf hb, ih hlater hphase hclosed, List.map_append, hout]

end RowState

/-- **Patching bytes patches the fields of their rows.** Without quotes, the rows of patched bytes
have the lines of the rows of the bytes and their fields patched, whatever stretches stand beside
delimiters, line ends and blanks. -/
theorem rowsOf_patch {f : List UInt8 → List UInt8} (hf : Patch f) {delimiter : UInt8}
    (hdelimiter : delimiter < 0x80) {bytes : List UInt8} (hquote : quote ∉ bytes) :
    rowsOf delimiter (f bytes) true = (rowsOf delimiter bytes true).map (Row.map f) := by
  have hstart : RowState.start.map f = RowState.start := by
    simp [RowState.map, RowState.start, hf.nil]
  have hrows := RowState.rowsFrom_map (s := .start) hf hdelimiter hquote nofun fun _ h => nomatch h
  rw [hstart] at hrows
  rw [rowsOf_eq_rowsFrom, rowsOf_eq_rowsFrom, hrows]

end BulkLoad.Delimited
