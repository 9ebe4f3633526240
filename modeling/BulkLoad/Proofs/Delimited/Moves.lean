import BulkLoad.Proofs.Delimited.Quoted

/-!
What a byte does to a reader of rows.

The phase and the byte decide it, and it is one of four moves. So readers that differ in what they
counted, or in which byte ended the row before, make rows of the same fields from the same bytes.
-/
namespace BulkLoad.Delimited

inductive Move where
  /-- The byte is no part of a field. -/
  | pass (phase : Phase)
  | push (phase : Phase)
  | endField
  | endRow

namespace Move

def afterText (delimiter b : UInt8) : Move :=
  if b == delimiter then .endField else if endsRow b then .endRow else .push .plain

def startField (delimiter b : UInt8) : Move :=
  if b == quote then .pass .quoted else afterText delimiter b

def inPhase (delimiter : UInt8) : Phase → UInt8 → Move
  | .outside, b | .afterReturn, b => if endsRow b then .pass .outside else startField delimiter b
  | .fieldStart, b => startField delimiter b
  | .plain, b => afterText delimiter b
  | .quoted, b => if b == quote then .pass .afterQuote else .push .quoted
  | .afterQuote, b => if b == quote then .push .quoted else afterText delimiter b

def apply (s : RowState) (b : UInt8) : Move → RowState × Option Row
  | .pass phase => ({ s with phase := phase }, none)
  | .push phase => (s.push phase b, none)
  | .endField => (s.endField, none)
  | .endRow => s.endRow (if b == lineFeed then .outside else .afterReturn)

end Move

/-- A phase without the byte that ended the row before, on which nothing depends. -/
def Phase.onward : Phase → Phase
  | .afterReturn => .outside
  | phase => phase

theorem Move.inPhase_onward (delimiter : UInt8) (phase : Phase) (b : UInt8) :
    inPhase delimiter phase.onward b = inPhase delimiter phase b := by
  cases phase <;> rfl

namespace RowState

def counted (s : RowState) (b : UInt8) : RowState :=
  { s with lineFeeds := s.lineFeeds + if b == lineFeed then 1 else 0 }

theorem afterText_eq (delimiter : UInt8) (s : RowState) (b : UInt8) :
    s.afterText delimiter b = (Move.afterText delimiter b).apply s b := by
  rw [afterText, Move.afterText, endsRow]
  cases b == delimiter with
  | true => rfl
  | false =>
      cases hfeed : b == lineFeed with
      | true => simp [Move.apply, hfeed]
      | false => cases b == carriageReturn <;> simp [Move.apply, hfeed]

theorem startField_eq (delimiter : UInt8) (s : RowState) (b : UInt8) :
    s.startField delimiter b = (Move.startField delimiter b).apply s b := by
  unfold startField Move.startField
  split_ifs
  · rfl
  · exact afterText_eq delimiter s b

/-- A byte makes the move of its phase. -/
theorem step_eq (delimiter : UInt8) (s : RowState) (b : UInt8) :
    s.step delimiter b = (Move.inPhase delimiter s.phase b).apply (s.counted b) b := by
  have hphase : (s.counted b).phase = s.phase := rfl
  change (s.counted b).react delimiter b = _
  unfold react Move.inPhase
  rw [hphase]
  cases hs : s.phase with
  | outside =>
      dsimp only
      split_ifs
      · rw [← hs]
        rfl
      · exact startField_eq delimiter _ b
  | afterReturn =>
      dsimp only
      split_ifs
      · rfl
      · exact startField_eq delimiter _ b
  | fieldStart => exact startField_eq delimiter _ b
  | plain => exact afterText_eq delimiter _ b
  | quoted =>
      dsimp only
      split_ifs <;> rfl
  | afterQuote =>
      dsimp only
      split_ifs
      · rfl
      · exact afterText_eq delimiter _ b

theorem finish_eq (s : RowState) :
    s.finish = if s.phase.onward = .outside then none else some s.row := by
  unfold finish
  cases s.phase <;> rfl

def fieldsOf (delimiter : UInt8) (s : RowState) (bytes : List UInt8) : List (List (List UInt8)) :=
  s.outcome delimiter bytes ++ (s.reach delimiter bytes).finish.toList.map (·.fields)

theorem fieldsOf_append (delimiter : UInt8) (s : RowState) (xs ys : List UInt8) :
    s.fieldsOf delimiter (xs ++ ys) =
      s.outcome delimiter xs ++ (s.reach delimiter xs).fieldsOf delimiter ys := by
  rw [fieldsOf, outcome_append, reach_append, List.append_assoc, fieldsOf]

/-- Readers that make the same of the bytes to come, what they counted apart. -/
structure Matches (s t : RowState) : Prop where
  phase : s.phase.onward = t.phase.onward
  field : s.field = t.field
  fields : s.fields = t.fields

namespace Matches

variable {s t u : RowState}

theorem refl (s : RowState) : s.Matches s := ⟨rfl, rfl, rfl⟩

theorem trans (h : s.Matches t) (h' : t.Matches u) : s.Matches u :=
  ⟨h.phase.trans h'.phase, h.field.trans h'.field, h.fields.trans h'.fields⟩

theorem row_fields (h : s.Matches t) : s.row.fields = t.row.fields := by
  simp only [row, h.field, h.fields]

theorem step (h : s.Matches t) (delimiter b : UInt8) :
    (s.step delimiter b).1.Matches (t.step delimiter b).1 ∧
      (s.step delimiter b).2.map (·.fields) = (t.step delimiter b).2.map (·.fields) := by
  have hmove : Move.inPhase delimiter s.phase b = Move.inPhase delimiter t.phase b := by
    rw [← Move.inPhase_onward, h.phase, Move.inPhase_onward]
  rw [step_eq, step_eq, hmove]
  cases Move.inPhase delimiter t.phase b with
  | pass phase => exact ⟨⟨rfl, h.field, h.fields⟩, rfl⟩
  | push phase => exact ⟨⟨rfl, congrArg (b :: ·) h.field, h.fields⟩, rfl⟩
  | endField =>
      refine ⟨⟨rfl, rfl, ?_⟩, rfl⟩
      simp only [Move.apply, endField, counted, h.field, h.fields]
  | endRow => exact ⟨⟨rfl, rfl, rfl⟩, congrArg some h.row_fields⟩

theorem fieldsOf (h : s.Matches t) (delimiter : UInt8) (bytes : List UInt8) :
    s.fieldsOf delimiter bytes = t.fieldsOf delimiter bytes := by
  induction bytes generalizing s t with
  | nil =>
      change s.finish.toList.map _ = t.finish.toList.map _
      rw [finish_eq, finish_eq, h.phase]
      split_ifs
      · rfl
      · exact congrArg (fun fields => [fields]) h.row_fields
  | cons b rest ih =>
      obtain ⟨hnext, hrow⟩ := h.step delimiter b
      have hout : ∀ row? : Option Row,
          row?.toList.map (·.fields) = (row?.map (·.fields)).toList := by
        intro row?
        cases row? <;> rfl
      have hone : s.outcome delimiter [b] = t.outcome delimiter [b] := by
        simp only [outcome, hout, hrow]
      rw [← List.singleton_append, fieldsOf_append, fieldsOf_append, hone]
      exact congrArg _ (ih hnext)

end Matches

theorem fieldsOf_start (delimiter : UInt8) (bytes : List UInt8) :
    start.fieldsOf delimiter bytes = (rowsOf delimiter bytes true).map (·.fields) :=
  (fields_rowsOf delimiter bytes).symm

/-- Between two rows, bytes that end rows are passed over. -/
theorem reach_blanks (delimiter : UInt8) {s : RowState} (h : s.phase.onward = .outside)
    {blanks : List UInt8} (hblanks : ∀ b ∈ blanks, endsRow b = true) :
    (s.reach delimiter blanks).Matches s ∧ s.outcome delimiter blanks = [] := by
  induction blanks generalizing s with
  | nil => exact ⟨.refl s, rfl⟩
  | cons b rest ih =>
      obtain ⟨hb, hrest⟩ := List.forall_mem_cons.mp hblanks
      have hmove : Move.inPhase delimiter s.phase b = .pass .outside := by
        rw [← Move.inPhase_onward, h]
        exact if_pos hb
      have hstep : s.step delimiter b = ({ s.counted b with phase := .outside }, none) := by
        rw [step_eq, hmove]
        rfl
      have hnext : (s.step delimiter b).1.Matches s := by
        rw [hstep]
        exact ⟨h.symm, rfl, rfl⟩
      obtain ⟨hreach, hout⟩ := ih (hnext.phase.trans h) hrest
      refine ⟨hreach.trans hnext, ?_⟩
      rw [outcome, hout, hstep]
      rfl

end RowState

/-- Blank lines in front have no part in the fields of the rows. -/
theorem fields_rowsOf_dropWhile (delimiter : UInt8) (bytes : List UInt8) :
    (rowsOf delimiter (bytes.dropWhile endsRow) true).map (·.fields) =
      (rowsOf delimiter bytes true).map (·.fields) := by
  have hblanks : ∀ b ∈ bytes.takeWhile endsRow, endsRow b = true :=
    fun b hmem => List.mem_takeWhile_imp hmem
  obtain ⟨hreach, hout⟩ := RowState.reach_blanks delimiter (s := .start) rfl hblanks
  rw [← RowState.fieldsOf_start, ← RowState.fieldsOf_start, ← hreach.fieldsOf]
  conv_rhs => rw [← List.takeWhile_append_dropWhile (p := endsRow) (l := bytes)]
  rw [RowState.fieldsOf_append, hout, List.nil_append]

end BulkLoad.Delimited
