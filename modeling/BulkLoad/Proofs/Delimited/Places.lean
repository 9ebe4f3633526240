import BulkLoad.Proofs.Delimited.Moves

/-!
Where rows stand.

A row is looked for from the place after the byte that ended the row before. Its first byte is the
next one that ends no row, and what stands from there on is read as this row and those after it. The
line of a row is that of the place from which it was looked for, not that of its first byte: between
the two lie the second byte of a pair of line ends, and blank lines.
-/
namespace BulkLoad.Delimited

def lineAt (bytes : List UInt8) (place : Nat) : Nat := (bytes.take place).count lineFeed + 1

/-- The places from which rows are looked for: the front, and the place after each byte that ends a
row. -/
def soughts (delimiter : UInt8) (bytes : List UInt8) : List Nat :=
  0 :: (RowState.start.endings delimiter 0 bytes).map (·.1 + 1)

structure Place where
  sought : Nat
  first : Nat
  deriving DecidableEq, Repr

namespace Place

/-- A row that is looked for from a place on starts with the next byte that ends no row. -/
def after (bytes : List UInt8) (sought : Nat) : Place :=
  ⟨sought, sought + ((bytes.drop sought).takeWhile endsRow).length⟩

def gap (bytes : List UInt8) (p : Place) : List UInt8 := (bytes.take p.first).drop p.sought

variable (bytes : List UInt8) (sought : Nat)

theorem take_first :
    bytes.take (after bytes sought).first =
      bytes.take sought ++ (bytes.drop sought).takeWhile endsRow := by
  have hfront := List.prefix_iff_eq_take.mp
    (List.takeWhile_prefix endsRow (l := bytes.drop sought))
  change bytes.take (sought + _) = _
  rw [List.take_add, ← hfront]

theorem gap_after (h : sought ≤ bytes.length) :
    (after bytes sought).gap bytes = (bytes.drop sought).takeWhile endsRow := by
  have hlength : (bytes.take sought).length = sought := List.length_take_of_le h
  rw [gap, take_first]
  exact List.drop_left' hlength

theorem drop_first :
    bytes.drop (after bytes sought).first = (bytes.drop sought).dropWhile endsRow := by
  have hsplit := List.takeWhile_append_dropWhile (p := endsRow) (l := bytes.drop sought)
  have hdrop := congrArg (List.drop ((bytes.drop sought).takeWhile endsRow).length) hsplit
  rw [List.drop_left, List.drop_drop] at hdrop
  exact hdrop.symm

/-- From the place where a row is looked for to its first byte the line grows by the line feeds
that are passed over. -/
theorem lineAt_first (h : sought ≤ bytes.length) :
    lineAt bytes (after bytes sought).first =
      lineAt bytes sought + ((after bytes sought).gap bytes).count lineFeed := by
  rw [gap_after bytes sought h, lineAt, lineAt, take_first, List.count_append]
  omega

end Place

def places (delimiter : UInt8) (bytes : List UInt8) : List Place :=
  (soughts delimiter bytes).map (Place.after bytes)

namespace RowState

section Step

variable {delimiter : UInt8} {s : RowState} {b : UInt8} {row : Row}

theorem step_lineFeeds (delimiter : UInt8) (s : RowState) (b : UInt8) :
    (s.step delimiter b).1.lineFeeds = s.lineFeeds + [b].count lineFeed := by
  rw [step_eq, List.count_singleton]
  cases Move.inPhase delimiter s.phase b <;> rfl

theorem step_line (h : (s.step delimiter b).2 = none) : (s.step delimiter b).1.line = s.line := by
  rw [step_eq] at h ⊢
  cases hmove : Move.inPhase delimiter s.phase b with
  | pass phase | push phase | endField => rfl
  | endRow =>
      rw [hmove] at h
      cases h

/-- The byte that ends a row leaves the reader at the start of the next one, on the line that it has
come to. -/
theorem step_of_row (h : (s.step delimiter b).2 = some row) :
    row.line = s.line ∧ (s.step delimiter b).1.Matches .start ∧
      (s.step delimiter b).1.line = (s.step delimiter b).1.lineFeeds + 1 := by
  rw [step_eq] at h ⊢
  cases hmove : Move.inPhase delimiter s.phase b with
  | pass phase | push phase | endField =>
      rw [hmove] at h
      cases h
  | endRow =>
      rw [hmove] at h
      cases h
      refine ⟨rfl, ⟨?_, rfl, rfl⟩, rfl⟩
      simp only [Move.apply, endRow]
      split_ifs <;> rfl

end Step

/-- The rows are on the line of the state, and after that on the lines to which their ends lead. -/
theorem lines_prefix (delimiter : UInt8) (s : RowState) (place : Nat) (bytes : List UInt8) :
    let ends := s.endings delimiter place bytes
    (ends.map (·.2.line) ++ (s.reach delimiter bytes).finish.toList.map (·.line)) <+:
      s.line :: ends.map fun ending => s.lineFeeds + lineAt bytes (ending.1 + 1 - place) := by
  induction bytes generalizing s place with
  | nil =>
      change s.finish.toList.map (·.line) <+: [s.line]
      rw [finish_eq]
      split_ifs
      · exact List.nil_prefix
      · exact List.prefix_rfl
  | cons b rest ih =>
      have hlater : ∀ ending ∈ (s.step delimiter b).1.endings delimiter (place + 1) rest,
          (s.step delimiter b).1.lineFeeds + lineAt rest (ending.1 + 1 - (place + 1)) =
            s.lineFeeds + lineAt (b :: rest) (ending.1 + 1 - place) := by
        intro ending hmem
        obtain ⟨i, -, hplace, -, -⟩ := endings_spec hmem
        have hnow : ending.1 + 1 - (place + 1) = i + 1 := by omega
        have hthen : ending.1 + 1 - place = i + 1 + 1 := by omega
        simp only [step_lineFeeds, hnow, hthen, lineAt, List.take_succ_cons, List.count_cons,
          List.count_nil]
        omega
      have hrest := ih (s.step delimiter b).1 (place + 1)
      dsimp only at hrest
      rw [List.map_congr_left hlater] at hrest
      simp only [endings]
      cases hrow : (s.step delimiter b).2 with
      | none =>
          rw [step_line hrow] at hrest
          exact hrest
      | some row =>
          obtain ⟨hline, -, hnext⟩ := step_of_row hrow
          have hhere : s.lineFeeds + lineAt (b :: rest) (place + 1 - place) =
              (s.step delimiter b).1.line := by
            rw [hnext, step_lineFeeds, Nat.add_sub_cancel_left, lineAt]
            exact (Nat.add_assoc _ _ 1).symm
          rw [← hhere] at hrest
          exact List.cons_prefix_cons.mpr ⟨hline, hrest⟩

/-- After the byte that ends a row the reader starts afresh, and the rows before are behind it. -/
theorem afresh_of_ending {delimiter : UInt8} {s : RowState} {place : Nat} {bytes : List UInt8}
    {j : Nat} {ending : Nat × Row} (h : (s.endings delimiter place bytes)[j]? = some ending) :
    let front := bytes.take (ending.1 + 1 - place)
    (s.reach delimiter front).Matches .start ∧ (s.outcome delimiter front).length = j + 1 := by
  induction bytes generalizing s place j with
  | nil => cases h
  | cons b rest ih =>
      -- The rows that end with this byte: none or one, which then is the first of all.
      have hlater : ∀ {k : Nat},
          ((s.step delimiter b).1.endings delimiter (place + 1) rest)[k]? = some ending →
            let front := (b :: rest).take (ending.1 + 1 - place)
            (s.reach delimiter front).Matches .start ∧
              (s.outcome delimiter front).length =
                (s.step delimiter b).2.toList.length + (k + 1) := by
        intro k hk
        obtain ⟨hreach, hlength⟩ := ih hk
        obtain ⟨i, -, hplace, -, -⟩ := endings_spec (List.mem_of_getElem? hk)
        have hnow : ending.1 + 1 - (place + 1) = i + 1 := by omega
        have hthen : ending.1 + 1 - place = i + 1 + 1 := by omega
        rw [hnow] at hreach hlength
        simp only [hthen, List.take_succ_cons, outcome, List.length_append, List.length_map,
          hlength]
        exact ⟨hreach, trivial⟩
      rw [endings] at h
      cases hrow : (s.step delimiter b).2 with
      | none =>
          rw [hrow] at h hlater
          obtain ⟨hreach, hlength⟩ := hlater h
          exact ⟨hreach, hlength.trans (Nat.zero_add _)⟩
      | some row =>
          rw [hrow] at h hlater
          cases j with
          | zero =>
              cases h
              have hone : place + 1 - place = 1 := by omega
              simp only [hone, List.take_succ_cons, List.take_zero, outcome, hrow]
              exact ⟨(step_of_row hrow).2.1, rfl⟩
          | succ k =>
              obtain ⟨hreach, hlength⟩ := hlater h
              exact ⟨hreach, hlength.trans (Nat.add_comm 1 _)⟩

end RowState

/-- Rows that stand at a place: the byte before it ended a row, only line ends are passed over, and
from the first byte on the bytes are read as these rows. -/
structure StandsAt (delimiter : UInt8) (bytes : List UInt8) (p : Place) (rows : List Row) :
    Prop where
  ended : p.sought = 0 ∨ ∃ b, bytes[p.sought - 1]? = some b ∧ endsRow b = true
  gap : ∀ b ∈ p.gap bytes, endsRow b = true
  first : ∃ b, bytes[p.first]? = some b ∧ endsRow b = false
  rows : (rowsOf delimiter (bytes.drop p.first) true).map (·.fields) = rows.map (·.fields)

variable {delimiter : UInt8} {bytes : List UInt8} {i : Nat}

/-- Behind the place from which a row is looked for stand this row and those after it. -/
theorem rows_of_sought {sought : Nat} (h : (soughts delimiter bytes)[i]? = some sought) :
    (sought = 0 ∨ ∃ b, bytes[sought - 1]? = some b ∧ endsRow b = true) ∧ sought ≤ bytes.length ∧
      (rowsOf delimiter (bytes.drop sought) true).map (·.fields) =
        ((rowsOf delimiter bytes true).drop i).map (·.fields) := by
  cases i with
  | zero =>
      cases h
      exact ⟨.inl rfl, Nat.zero_le _, rfl⟩
  | succ j =>
      rw [soughts, List.getElem?_cons_succ, List.getElem?_map] at h
      obtain ⟨ending, hending, rfl⟩ := Option.map_eq_some_iff.mp h
      obtain ⟨k, b, hplace, hbyte, hends⟩ := RowState.endings_spec (List.mem_of_getElem? hending)
      rw [Nat.zero_add] at hplace
      obtain ⟨hwithin, -⟩ := List.getElem?_eq_some_iff.mp hbyte
      obtain ⟨hreach, hlength⟩ := RowState.afresh_of_ending hending
      rw [Nat.sub_zero] at hreach hlength
      refine ⟨.inr ⟨b, ?_, hends⟩, by omega, ?_⟩
      · rw [Nat.add_sub_cancel, hplace]
        exact hbyte
      · rw [List.map_drop, ← RowState.fieldsOf_start, ← RowState.fieldsOf_start, ← hreach.fieldsOf]
        conv_rhs => rw [← List.take_append_drop (ending.1 + 1) bytes]
        rw [RowState.fieldsOf_append, List.drop_left' hlength]

theorem map_line_rowsOf (delimiter : UInt8) (bytes : List UInt8) :
    (rowsOf delimiter bytes true).map (·.line) <+:
      (soughts delimiter bytes).map (lineAt bytes) := by
  have hlines := RowState.lines_prefix delimiter .start 0 bytes
  have hstart : lineAt bytes 0 = RowState.start.line := rfl
  simp only [soughts, List.map_cons, List.map_map, hstart, rowsOf_eq delimiter 0, List.map_append]
  simpa [RowState.start, unended, Function.comp_def] using hlines

/-- A row stands at its place, on the line of the byte from which on it was looked for. -/
theorem standsAt_of_row {row : Row} (h : (rowsOf delimiter bytes true)[i]? = some row) :
    ∃ p, (places delimiter bytes)[i]? = some p ∧
      StandsAt delimiter bytes p ((rowsOf delimiter bytes true).drop i) ∧
      row.line = lineAt bytes p.sought ∧
      row.line + (p.gap bytes).count lineFeed = lineAt bytes p.first := by
  have hline : ((rowsOf delimiter bytes true).map (·.line))[i]? = some row.line := by
    rw [List.getElem?_map, h]
    rfl
  obtain ⟨hi, -⟩ := List.getElem?_eq_some_iff.mp hline
  obtain ⟨more, hmore⟩ := map_line_rowsOf delimiter bytes
  have hmapped : ((soughts delimiter bytes).map (lineAt bytes))[i]? = some row.line := by
    rw [← hmore, List.getElem?_append_left hi, hline]
  rw [List.getElem?_map] at hmapped
  obtain ⟨sought, hsought, hlineAt⟩ := Option.map_eq_some_iff.mp hmapped
  obtain ⟨hended, hwithin, hrows⟩ := rows_of_sought hsought
  have hread :
      (rowsOf delimiter (bytes.drop (Place.after bytes sought).first) true).map (·.fields) =
      ((rowsOf delimiter bytes true).drop i).map (·.fields) := by
    rw [Place.drop_first, fields_rowsOf_dropWhile, hrows]
  have hsome : bytes.drop (Place.after bytes sought).first ≠ [] := by
    intro hnil
    rw [hnil] at hread
    have hnone := List.map_eq_nil_iff.mp hread.symm
    rw [List.drop_eq_nil_iff] at hnone
    rw [List.length_map] at hi
    omega
  refine ⟨Place.after bytes sought, ?_, ⟨hended, ?_, ?_, hread⟩, hlineAt.symm, ?_⟩
  · rw [places, List.getElem?_map, hsought]
    rfl
  · intro b hmem
    rw [Place.gap_after bytes sought hwithin] at hmem
    exact List.mem_takeWhile_imp hmem
  · refine ⟨(bytes.drop (Place.after bytes sought).first).head hsome, ?_, ?_⟩
    · rw [← List.head?_drop, List.head?_eq_some_head hsome]
    · simp only [Place.drop_first]
      exact List.head_dropWhile_not endsRow _
  · rw [Place.lineAt_first bytes sought hwithin, hlineAt]

end BulkLoad.Delimited
