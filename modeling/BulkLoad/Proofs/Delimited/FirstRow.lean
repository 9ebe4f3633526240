import BulkLoad.Proofs.Delimited.Moves

/-!
The first row of bytes.

Without quotes it is the row of the first line that is not blank, whatever comes after this line.
Bytes in front of a first field without quotes are read as the start of this field, and change
nothing else in the rows.
-/
namespace BulkLoad.Delimited

/-- The first line that is not blank, without the byte that ends it. -/
def headerBytes (bytes : List UInt8) : List UInt8 :=
  (bytes.dropWhile endsRow).takeWhile (!endsRow ·)

def PlainLine (line : List UInt8) : Prop := ∀ b ∈ line, endsRow b = false ∧ b ≠ quote

namespace RowState

variable {delimiter : UInt8} {s : RowState}

def Amid (s : RowState) : Prop := s.phase = .plain ∨ s.phase = .fieldStart

theorem inPhase_plainLine (hs : s.phase.onward = .outside ∨ s.Amid) {b : UInt8}
    (hb : endsRow b = false ∧ b ≠ quote) :
    Move.inPhase delimiter s.phase b = Move.afterText delimiter b := by
  rw [← Move.inPhase_onward]
  rcases hs with hs | hs | hs <;> rw [hs] <;>
    simp [Phase.onward, Move.inPhase, Move.startField, hb.1, hb.2]

/-- A line leaves the reader inside its row. -/
theorem reach_plainLine (hs : s.phase.onward = .outside ∨ s.Amid) {line : List UInt8}
    (hne : line ≠ []) (hline : PlainLine line) : (s.reach delimiter line).Amid := by
  induction line generalizing s with
  | nil => exact absurd rfl hne
  | cons b rest ih =>
      obtain ⟨hb, hrest⟩ := List.forall_mem_cons.mp hline
      have hnext : (s.step delimiter b).1.Amid := by
        rw [step_eq, inPhase_plainLine hs hb, Move.afterText]
        simp only [hb.1, Bool.false_eq_true, if_false]
        split_ifs
        · exact .inr rfl
        · exact .inl rfl
      by_cases hlast : rest = []
      · rw [hlast]
        exact hnext
      · exact ih (.inr hnext) hlast hrest

theorem outcome_plainLine {line : List UInt8} (hline : PlainLine line) :
    s.outcome delimiter line = [] := by
  rw [outcome_eq delimiter s 0, endings_eq_nil fun b hb => (hline b hb).1]
  rfl

theorem fieldsOf_amid (hs : s.Amid) : s.fieldsOf delimiter [] = [s.row.fields] := by
  have hphase : s.phase.onward ≠ .outside := by
    rcases hs with hs | hs <;> rw [hs] <;> simp [Phase.onward]
  change s.finish.toList.map _ = _
  rw [finish_eq, if_neg hphase]
  rfl

/-- A byte that ends rows ends the row under way. -/
theorem step_amid (hs : s.Amid) {b : UInt8} (hb : endsRow b = true) (hdelimiter : b ≠ delimiter) :
    (s.step delimiter b).2.map (·.fields) = some s.row.fields := by
  have hquote : b ≠ quote := by
    rintro rfl
    cases hb
  have hmove : Move.inPhase delimiter s.phase b = .endRow := by
    rcases hs with hs | hs <;> rw [hs] <;>
      simp [Move.inPhase, Move.startField, Move.afterText, hb, hquote, hdelimiter]
  rw [step_eq, hmove]
  rfl

variable (delimiter) in
theorem fieldsOf_plainLine {line : List UInt8} (hne : line ≠ []) (hline : PlainLine line) :
    start.fieldsOf delimiter line = [(start.reach delimiter line).row.fields] := by
  have hamid : (start.reach delimiter line).Amid := reach_plainLine (.inl rfl) hne hline
  have hall := fieldsOf_append delimiter start line []
  rwa [List.append_nil, outcome_plainLine hline, List.nil_append, fieldsOf_amid hamid] at hall

/-- What comes after a line has no part in its row. -/
theorem take_fieldsOf_plainLine (hdelimiter : endsRow delimiter = false) {line back : List UInt8}
    (hne : line ≠ []) (hline : PlainLine line) (hback : ∀ b ∈ back.head?, endsRow b = true) :
    start.fieldsOf delimiter line = (start.fieldsOf delimiter (line ++ back)).take 1 := by
  have hamid : (start.reach delimiter line).Amid := reach_plainLine (.inl rfl) hne hline
  rw [fieldsOf_plainLine delimiter hne hline, fieldsOf_append, outcome_plainLine hline,
    List.nil_append]
  cases back with
  | nil => rw [fieldsOf_amid hamid, List.take_of_length_le (Nat.le_refl 1)]
  | cons b rest =>
      have hb := hback b rfl
      have hne : b ≠ delimiter := by
        rintro rfl
        rw [hdelimiter] at hb
        cases hb
      obtain ⟨row, hrow, hfields⟩ := Option.map_eq_some_iff.mp (step_amid hamid hb hne)
      rw [fieldsOf, outcome, hrow, ← hfields]
      rfl

end RowState

theorem rowsOf_plainLine (delimiter : UInt8) {line : List UInt8} (hne : line ≠ [])
    (hline : PlainLine line) : ∃ row, rowsOf delimiter line true = [row] := by
  have hfields := RowState.fieldsOf_plainLine delimiter hne hline
  rw [RowState.fieldsOf_start] at hfields
  obtain ⟨row, hrow, -⟩ := List.map_eq_singleton_iff.mp hfields
  exact ⟨row, hrow⟩

theorem plainLine_headerBytes {bytes : List UInt8} (h : quote ∉ bytes) :
    PlainLine (headerBytes bytes) := by
  intro b hb
  have hends : (!endsRow b) = true := List.mem_takeWhile_imp (p := (!endsRow ·)) hb
  refine ⟨by simpa using hends, ?_⟩
  rintro rfl
  exact h ((List.dropWhile_sublist _).subset ((List.takeWhile_sublist _).subset hb))

theorem headerBytes_eq_nil {bytes : List UInt8} (h : headerBytes bytes = []) :
    bytes.dropWhile endsRow = [] := by
  cases hbody : bytes.dropWhile endsRow with
  | nil => rfl
  | cons b rest =>
      have hhead := List.head?_dropWhile_not endsRow bytes
      have hb : endsRow b = false := by simpa [hbody] using hhead
      simp [headerBytes, hbody, hb] at h

/-- The first row of bytes without quotes is the row of their first line that is not blank. -/
theorem fields_rowsOf_headerBytes {delimiter : UInt8} (hdelimiter : endsRow delimiter = false)
    {bytes : List UInt8} (hquote : quote ∉ bytes) :
    (rowsOf delimiter (headerBytes bytes) true).map (·.fields) =
      ((rowsOf delimiter bytes true).map (·.fields)).take 1 := by
  let back := (bytes.dropWhile endsRow).dropWhile (!endsRow ·)
  have hsplit : headerBytes bytes ++ back = bytes.dropWhile endsRow :=
    List.takeWhile_append_dropWhile
  rw [← fields_rowsOf_dropWhile delimiter bytes, ← RowState.fieldsOf_start,
    ← RowState.fieldsOf_start]
  by_cases hne : headerBytes bytes = []
  · rw [hne, headerBytes_eq_nil hne]
    rfl
  · have hback : ∀ b ∈ back.head?, endsRow b = true := by
      intro b hb
      have hhead := List.head?_dropWhile_not (!endsRow ·) (bytes.dropWhile endsRow)
      rw [Option.mem_def.mp hb] at hhead
      simpa using hhead
    rw [← hsplit]
    exact RowState.take_fieldsOf_plainLine hdelimiter hne (plainLine_headerBytes hquote) hback

section Front

variable {delimiter : UInt8} {front : List UInt8}

namespace RowState

def rowsFrom (delimiter : UInt8) : RowState → List UInt8 → List Row
  | s, [] => s.finish.toList
  | s, b :: rest => (s.step delimiter b).2.toList ++ rowsFrom delimiter (s.step delimiter b).1 rest

theorem rowsFrom_eq (delimiter : UInt8) (s : RowState) (place : Nat) (bytes : List UInt8) :
    s.rowsFrom delimiter bytes =
      (s.endings delimiter place bytes).map Prod.snd ++
        (s.reach delimiter bytes).finish.toList := by
  induction bytes generalizing s place with
  | nil => rfl
  | cons b rest ih =>
      have hone : ∀ row? : Option Row,
          (row?.toList.map ((place, ·) : Row → Nat × Row)).map Prod.snd = row?.toList := by
        intro row?
        cases row? <;> rfl
      rw [rowsFrom, ih _ (place + 1), endings, List.map_append, hone, List.append_assoc]
      rfl

def begun (front : List UInt8) : RowState := ⟨.plain, front.reverse, [], 0, 1⟩

/-- A state inside the first row, and what it is with bytes in front of the first field. -/
inductive Led (front : List UInt8) : RowState → RowState → Prop where
  | first (phase : Phase) (field : List UInt8) (lineFeeds line : Nat)
      (h : phase.onward ≠ .outside) :
      Led front ⟨phase, field, [], lineFeeds, line⟩
        ⟨phase, field ++ front.reverse, [], lineFeeds, line⟩
  | later (phase : Phase) (field first : List UInt8) (fields : List (List UInt8))
      (lineFeeds line : Nat) (h : phase.onward ≠ .outside) :
      Led front ⟨phase, field, fields ++ [first], lineFeeds, line⟩
        ⟨phase, field, fields ++ [front ++ first], lineFeeds, line⟩

end RowState

def Row.Led (front : List UInt8) (row row' : Row) : Prop :=
  row'.line = row.line ∧ ∃ first fields,
    row.fields = (first :: fields).map (Text.trimBoth Text.isFieldBlank) ∧
      row'.fields = ((front ++ first) :: fields).map (Text.trimBoth Text.isFieldBlank)

variable (delimiter) in
/-- No byte but one that ends rows leads out of a row. -/
theorem Move.inPhase_inside {phase : Phase} (h : phase.onward ≠ .outside) (b : UInt8) :
    (∀ next, inPhase delimiter phase b = .pass next → next.onward ≠ .outside) ∧
      ∀ next, inPhase delimiter phase b = .push next → next.onward ≠ .outside := by
  cases phase with
  | outside | afterReturn => exact absurd rfl h
  | fieldStart | plain | quoted | afterQuote =>
      simp only [inPhase, startField, afterText]
      split_ifs <;> simp [Phase.onward]

namespace RowState

theorem led_begun (front : List UInt8) : Led front (begun []) (begun front) :=
  .first .plain [] 0 1 (by simp [Phase.onward])

variable {s t : RowState}

theorem Led.row (h : Led front s t) : Row.Led front s.row t.row := by
  cases h with
  | first phase field lineFeeds line hphase =>
      refine ⟨rfl, field.reverse, [], rfl, ?_⟩
      simp [RowState.row]
  | later phase field first fields lineFeeds line hphase =>
      refine ⟨rfl, first, fields.reverse ++ [field.reverse], ?_, ?_⟩ <;> simp [RowState.row]

theorem Led.finish (h : Led front s t) : s.finish = some s.row ∧ t.finish = some t.row := by
  rw [finish_eq, finish_eq]
  cases h with
  | first _ _ _ _ hphase | later _ _ _ _ _ _ hphase => exact ⟨if_neg hphase, if_neg hphase⟩

variable (delimiter) in
/-- A byte either ends the row, and then the states are one, or leaves them as they were to each
other. -/
theorem Led.step (h : Led front s t) (b : UInt8) :
    (s.step delimiter b).2 = none ∧ (t.step delimiter b).2 = none ∧
        Led front (s.step delimiter b).1 (t.step delimiter b).1 ∨
      (s.step delimiter b).2 = some s.row ∧ (t.step delimiter b).2 = some t.row ∧
        (t.step delimiter b).1 = (s.step delimiter b).1 := by
  -- The phase of the two states is one, so their move is. With the end of the first field the bytes
  -- in front of it pass from the field under way to the complete fields.
  rw [step_eq, step_eq]
  cases h with
  | first phase field lineFeeds line hphase =>
      obtain ⟨hpass, hpush⟩ := Move.inPhase_inside delimiter hphase b
      cases hmove : Move.inPhase delimiter phase b with
      | pass next => exact .inl ⟨rfl, rfl, .first next field _ line (hpass next hmove)⟩
      | push next => exact .inl ⟨rfl, rfl, .first next (b :: field) _ line (hpush next hmove)⟩
      | endField =>
          have hfield : (field ++ front.reverse).reverse = front ++ field.reverse := by simp
          refine .inl ⟨rfl, rfl, ?_⟩
          simp only [Move.apply, endField, counted, hfield]
          exact .later .fieldStart [] field.reverse [] _ line (by simp [Phase.onward])
      | endRow => exact .inr ⟨rfl, rfl, rfl⟩
  | later phase field first fields lineFeeds line hphase =>
      obtain ⟨hpass, hpush⟩ := Move.inPhase_inside delimiter hphase b
      cases hmove : Move.inPhase delimiter phase b with
      | pass next =>
          exact .inl ⟨rfl, rfl, .later next field first fields _ line (hpass next hmove)⟩
      | push next =>
          exact .inl ⟨rfl, rfl, .later next (b :: field) first fields _ line (hpush next hmove)⟩
      | endField =>
          exact .inl ⟨rfl, rfl,
            .later .fieldStart [] first (field.reverse :: fields) _ line (by simp [Phase.onward])⟩
      | endRow => exact .inr ⟨rfl, rfl, rfl⟩

variable (delimiter) in
theorem Led.rowsFrom (h : Led front s t) (bytes : List UInt8) :
    ∃ row row' rest, s.rowsFrom delimiter bytes = row :: rest ∧
      t.rowsFrom delimiter bytes = row' :: rest ∧ row.Led front row' := by
  induction bytes generalizing s t with
  | nil =>
      obtain ⟨hs, ht⟩ := h.finish
      refine ⟨s.row, t.row, [], ?_, ?_, h.row⟩
      · rw [RowState.rowsFrom, hs]
        rfl
      · rw [RowState.rowsFrom, ht]
        rfl
  | cons b rest ih =>
      rw [RowState.rowsFrom, RowState.rowsFrom]
      rcases h.step delimiter b with ⟨hs, ht, hnext⟩ | ⟨hs, ht, hnext⟩
      · rw [hs, ht]
        exact ih hnext
      · rw [hs, ht, hnext]
        exact ⟨s.row, t.row, _, rfl, rfl, h.row⟩

section Begun

variable {b : UInt8}

theorem rowsFrom_begun_cons (hends : endsRow b = false) (hb : b ≠ delimiter)
    (front rest : List UInt8) :
    (begun front).rowsFrom delimiter (b :: rest) =
      (begun (front ++ [b])).rowsFrom delimiter rest := by
  have hmove : Move.inPhase delimiter .plain b = .push .plain := by
    simp [Move.inPhase, Move.afterText, hends, hb]
  have hfeed : (b == lineFeed) = false := (Bool.or_eq_false_iff.mp hends).1
  have hstep : (begun front).step delimiter b = (begun (front ++ [b]), none) := by
    rw [step_eq]
    change (Move.inPhase delimiter .plain b).apply _ b = _
    simp [hmove, Move.apply, push, counted, begun, hfeed]
  rw [rowsFrom, hstep]
  rfl

/-- A first byte that is no quote and ends no row might as well follow others of its field. -/
theorem rowsFrom_start_cons (hends : endsRow b = false) (hquote : b ≠ quote)
    (rest : List UInt8) :
    start.rowsFrom delimiter (b :: rest) = (begun []).rowsFrom delimiter (b :: rest) := by
  have hmove : Move.inPhase delimiter .outside b = Move.afterText delimiter b :=
    inPhase_plainLine (s := start) (.inl rfl) ⟨hends, hquote⟩
  have hstep : start.step delimiter b = (begun []).step delimiter b := by
    rw [step_eq, step_eq]
    change (Move.inPhase delimiter .outside b).apply _ b = (Move.afterText delimiter b).apply _ b
    rw [hmove, Move.afterText]
    simp only [hends, Bool.false_eq_true, if_false]
    split_ifs <;> rfl
  rw [rowsFrom, rowsFrom, hstep]

theorem rowsFrom_begun_ending (hends : endsRow b = true) (hb : b ≠ delimiter)
    (front rest : List UInt8) :
    ∃ more, (begun front).rowsFrom delimiter (b :: rest) =
      ⟨1, [Text.trimBoth Text.isFieldBlank front]⟩ :: more := by
  have hmove : Move.inPhase delimiter .plain b = .endRow := by
    simp [Move.inPhase, Move.afterText, hends, hb]
  have hrow : ((begun front).step delimiter b).2 =
      some ⟨1, [Text.trimBoth Text.isFieldBlank front]⟩ := by
    rw [step_eq]
    change ((Move.inPhase delimiter .plain b).apply _ b).2 = _
    simp [hmove, Move.apply, endRow, RowState.row, counted, begun]
  rw [rowsFrom, hrow]
  exact ⟨_, rfl⟩

end Begun

end RowState

theorem rowsOf_eq_rowsFrom (delimiter : UInt8) (bytes : List UInt8) :
    rowsOf delimiter bytes true = RowState.start.rowsFrom delimiter bytes :=
  (rowsOf_eq delimiter 0 bytes true).trans (RowState.rowsFrom_eq delimiter .start 0 bytes).symm

/-- A mark that is read as text begins the first field. -/
theorem rowsOf_mark (h : delimiter < 0x80) (bytes : List UInt8) :
    rowsOf delimiter (mark ++ bytes) true = (RowState.begun mark).rowsFrom delimiter bytes := by
  have hother : ∀ b ∈ mark, b ≠ delimiter := by
    rintro b hb rfl
    revert h
    simp only [mark, List.mem_cons, List.not_mem_nil, or_false] at hb
    rcases hb with rfl | rfl | rfl <;> decide
  have hpush : ∀ b ∈ mark, ∀ front rest : List UInt8,
      (RowState.begun front).rowsFrom delimiter (b :: rest) =
        (RowState.begun (front ++ [b])).rowsFrom delimiter rest :=
    fun b hb => RowState.rowsFrom_begun_cons (mark_ends_no_row b hb) (hother b hb)
  have hfirst : RowState.start.rowsFrom delimiter (mark ++ bytes) =
      (RowState.begun []).rowsFrom delimiter (mark ++ bytes) :=
    RowState.rowsFrom_start_cons rfl (by decide) _
  rw [rowsOf_eq_rowsFrom, hfirst]
  exact ((hpush 0xEF (by decide) [] _).trans (hpush 0xBB (by decide) [0xEF] _)).trans
    (hpush 0xBF (by decide) [0xEF, 0xBB] bytes)

end Front

end BulkLoad.Delimited
