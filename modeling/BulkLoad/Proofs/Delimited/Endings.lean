import BulkLoad.Delimited.Rows
import BulkLoad.Proofs.Stream.Arrival

/-!
Where rows end.

A row is complete at a carriage return or a line feed, and bytes that come after this place have no
part in it. So what arrives before a stream breaks gives exactly the rows that end in it, and these
are the first rows of the whole stream. The mark at the front is counted with the places of the
bytes but belongs to no row.
-/
namespace BulkLoad.Delimited

namespace RowState

def reach (delimiter : UInt8) (s : RowState) (bytes : List UInt8) : RowState :=
  bytes.foldl (fun s b => (s.step delimiter b).1) s

/-- The rows that end inside the bytes, each with the place of the byte that ends it; the first byte
has the place `place`. -/
def endings (delimiter : UInt8) (s : RowState) (place : Nat) : List UInt8 → List (Nat × Row)
  | [] => []
  | b :: rest =>
    (s.step delimiter b).2.toList.map (place, ·) ++
      endings delimiter (s.step delimiter b).1 (place + 1) rest

theorem reach_append (delimiter : UInt8) (s : RowState) (xs ys : List UInt8) :
    s.reach delimiter (xs ++ ys) = (s.reach delimiter xs).reach delimiter ys :=
  List.foldl_append

theorem endings_append (delimiter : UInt8) (s : RowState) (place : Nat) (xs ys : List UInt8) :
    s.endings delimiter place (xs ++ ys) =
      s.endings delimiter place xs ++
        (s.reach delimiter xs).endings delimiter (place + xs.length) ys := by
  induction xs generalizing s place with
  | nil => rfl
  | cons b rest ih =>
      have hplace : place + 1 + rest.length = place + (rest.length + 1) := by omega
      simp only [List.cons_append, endings, ih, List.append_assoc, List.length_cons, hplace]
      rfl

theorem feedOnto_eq (delimiter : UInt8) (s : RowState) (done : List Row) (place : Nat)
    (bytes : List UInt8) :
    s.feedOnto delimiter done bytes =
      (s.reach delimiter bytes,
        ((s.endings delimiter place bytes).map Prod.snd).reverse ++ done) := by
  induction bytes generalizing s done place with
  | nil => rfl
  | cons b rest ih =>
      have hone : ∀ row? : Option Row,
          (row?.toList.map ((place, ·) : Row → Nat × Row)).map Prod.snd = row?.toList.reverse := by
        intro row?
        cases row? <;> rfl
      simp only [feedOnto, ih _ _ (place + 1), endings, List.map_append, List.reverse_append,
        List.append_assoc, hone, List.reverse_reverse]
      rfl

theorem feedOnto_append (delimiter : UInt8) (s : RowState) (done : List Row) (xs ys : List UInt8) :
    s.feedOnto delimiter done (xs ++ ys) =
      (s.feedOnto delimiter done xs).1.feedOnto delimiter (s.feedOnto delimiter done xs).2 ys := by
  induction xs generalizing s done with
  | nil => rfl
  | cons x rest ih => exact ih _ _

/-- Blank lines between rows are counted, and nothing else comes of them. -/
theorem feedOnto_blanks (delimiter : UInt8) {s : RowState} (h : s.phase = .outside)
    (done : List Row) (n : Nat) :
    s.feedOnto delimiter done (List.replicate n lineFeed) =
      ({ s with lineFeeds := s.lineFeeds + n }, done) := by
  induction n generalizing s with
  | zero => rfl
  | succ n ih =>
      have hstep : s.step delimiter lineFeed = ({ s with lineFeeds := s.lineFeeds + 1 }, none) := by
        simp [step, react, h, endsRow]
      have hrest := ih (s := { s with lineFeeds := s.lineFeeds + 1 }) h
      rw [List.replicate_succ, feedOnto, hstep]
      simp only [Option.toList_none, List.nil_append, hrest, Nat.add_assoc, Nat.add_comm 1]

section Step

variable {delimiter : UInt8} {s : RowState} {b : UInt8} {row : Row}

theorem endsRow_of_afterText (h : (s.afterText delimiter b).2 = some row) : endsRow b = true := by
  unfold afterText at h
  split_ifs at h with hdelimiter hfeed hreturn
  · simp [endsRow, hfeed]
  · simp [endsRow, hreturn]

theorem endsRow_of_startField (h : (s.startField delimiter b).2 = some row) :
    endsRow b = true := by
  unfold startField at h
  split_ifs at h
  exact endsRow_of_afterText h

theorem endsRow_of_react (h : (s.react delimiter b).2 = some row) : endsRow b = true := by
  unfold react at h
  cases hphase : s.phase with
  | outside | afterReturn =>
      simp only [hphase] at h
      split_ifs at h
      exact endsRow_of_startField h
  | fieldStart =>
      simp only [hphase] at h
      exact endsRow_of_startField h
  | plain =>
      simp only [hphase] at h
      exact endsRow_of_afterText h
  | quoted =>
      simp only [hphase] at h
      split_ifs at h
  | afterQuote =>
      simp only [hphase] at h
      split_ifs at h
      exact endsRow_of_afterText h

/-- Only a carriage return or a line feed ends a row. -/
theorem endsRow_of_step (h : (s.step delimiter b).2 = some row) : endsRow b = true :=
  endsRow_of_react h

end Step

/-- At the place of a row stands the byte that ends it. -/
theorem endings_spec {delimiter : UInt8} {s : RowState} {place : Nat} {bytes : List UInt8}
    {ending : Nat × Row} (h : ending ∈ s.endings delimiter place bytes) :
    ∃ i b, ending.1 = place + i ∧ bytes[i]? = some b ∧ endsRow b = true := by
  induction bytes generalizing s place with
  | nil => cases h
  | cons b rest ih =>
      rcases List.mem_append.mp h with hnow | hlater
      · obtain ⟨row, hrow, rfl⟩ := List.mem_map.mp hnow
        exact ⟨0, b, rfl, rfl, endsRow_of_step (Option.mem_toList.mp hrow)⟩
      · obtain ⟨i, c, hplace, hbyte, hends⟩ := ih hlater
        exact ⟨i + 1, c, by omega, hbyte, hends⟩

theorem endings_eq_nil {delimiter : UInt8} {s : RowState} {place : Nat} {bytes : List UInt8}
    (h : ∀ b ∈ bytes, endsRow b = false) : s.endings delimiter place bytes = [] := by
  apply List.eq_nil_iff_forall_not_mem.mpr
  intro ending hmem
  obtain ⟨i, b, -, hbyte, hends⟩ := endings_spec hmem
  rw [h b (List.mem_of_getElem? hbyte)] at hends
  cases hends

/-- The rows that end in the first bytes are those whose place is among them. -/
theorem endings_eq_filter (delimiter : UInt8) (s : RowState) (place : Nat) (xs ys : List UInt8) :
    s.endings delimiter place xs =
      (s.endings delimiter place (xs ++ ys)).filter (·.1 < place + xs.length) := by
  have hfirst : ∀ ending ∈ s.endings delimiter place xs, ending.1 < place + xs.length := by
    intro ending hmem
    obtain ⟨i, b, hplace, hbyte, -⟩ := endings_spec hmem
    obtain ⟨hi, -⟩ := List.getElem?_eq_some_iff.mp hbyte
    omega
  have hlater : ∀ ending ∈ (s.reach delimiter xs).endings delimiter (place + xs.length) ys,
      ¬ ending.1 < place + xs.length := by
    intro ending hmem
    obtain ⟨i, b, hplace, -, -⟩ := endings_spec hmem
    omega
  rw [endings_append, List.filter_append, List.filter_eq_self.mpr (by simpa using hfirst),
    List.filter_eq_nil_iff.mpr (by simpa using hlater), List.append_nil]

end RowState

/-- The row under way at the end of the bytes, which counts if the input came to its end. -/
def unended (delimiter : UInt8) (bytes : List UInt8) (complete : Bool) : List Row :=
  if complete then (RowState.start.reach delimiter bytes).finish.toList else []

theorem rowsOf_eq (delimiter : UInt8) (place : Nat) (bytes : List UInt8) (complete : Bool) :
    rowsOf delimiter bytes complete =
      (RowState.start.endings delimiter place bytes).map Prod.snd ++
        unended delimiter bytes complete := by
  have hone : ∀ row? : Option Row, row?.toList.reverse = row?.toList := by
    intro row?
    cases row? <;> rfl
  unfold rowsOf unended
  rw [RowState.feedOnto_eq delimiter RowState.start [] place bytes]
  cases complete with
  | false => simp
  | true => simp [hone]

def skipped : List (List UInt8) → Nat
  | [] => 0
  | first :: _ => if mark.isPrefixOf first then mark.length else 0

theorem skipped_cons (first : List UInt8) (rest : List (List UInt8)) :
    skipped (first :: rest) = if mark.isPrefixOf first then mark.length else 0 := rfl

theorem unmarked_eq_drop (pieces : List (List UInt8)) :
    unmarked pieces = pieces.flatten.drop (skipped pieces) := by
  cases pieces with
  | nil => rfl
  | cons first rest =>
      rw [unmarked, unmark, skipped_cons]
      split_ifs with hmark
      · have hlength := (List.isPrefixOf_iff_prefix.mp hmark).length_le
        rw [List.flatten_cons, List.drop_append_of_le_length hlength]
      · rfl

/-- The rows of pieces that a byte ends, each with the place of this byte in the pieces. -/
def terminated (delimiter : UInt8) (pieces : List (List UInt8)) : List (Nat × Row) :=
  RowState.start.endings delimiter (skipped pieces) (unmarked pieces)

theorem rows_eq (delimiter : UInt8) (feed : Stream.Feed) :
    rows delimiter feed =
      (terminated delimiter feed.pieces).map Prod.snd ++
        unended delimiter (unmarked feed.pieces) feed.failure.isNone :=
  rowsOf_eq delimiter _ _ _

/-- At the place of a row stands a carriage return or a line feed. -/
theorem terminated_spec {delimiter : UInt8} {pieces : List (List UInt8)} {ending : Nat × Row}
    (h : ending ∈ terminated delimiter pieces) :
    ∃ b, pieces.flatten[ending.1]? = some b ∧ endsRow b = true := by
  obtain ⟨i, b, hplace, hbyte, hends⟩ := RowState.endings_spec h
  rw [unmarked_eq_drop, List.getElem?_drop, ← hplace] at hbyte
  exact ⟨b, hbyte, hends⟩

theorem skipped_le_length (first : List UInt8) (rest : List (List UInt8)) :
    skipped (first :: rest) ≤ first.length := by
  rw [skipped_cons]
  split_ifs with hmark
  · exact (List.isPrefixOf_iff_prefix.mp hmark).length_le
  · exact Nat.zero_le _

section Cut

open BulkLoad.Stream (CutOf)

theorem mark_ends_no_row : ∀ b ∈ mark, endsRow b = false := by
  simp only [mark, List.forall_mem_cons, List.not_mem_nil, false_imp_iff, implies_true, and_true]
  decide

/-- What is cut off inside a mark has no row. -/
theorem terminated_of_front_of_mark (delimiter : UInt8) {front : List UInt8}
    (h : front <+: mark) : terminated delimiter [front] = [] := by
  have hbytes : ∀ b ∈ unmarked [front], endsRow b = false := by
    intro b hmem
    rw [unmarked_eq_drop] at hmem
    have hfront := List.mem_of_mem_drop hmem
    rw [List.flatten_cons, List.flatten_nil, List.append_nil] at hfront
    exact mark_ends_no_row b (h.subset hfront)
  exact RowState.endings_eq_nil hbytes

variable {delimiter : UInt8} {short pieces : List (List UInt8)}

/-- A cut that leaves a row treats a mark at the front as the whole does. -/
theorem skipped_of_cutOf (h : CutOf short pieces) (hrow : terminated delimiter short ≠ [])
    (hmark : short.head? ≠ some mark) :
    skipped short = skipped pieces ∧ skipped short ≤ short.flatten.length ∧
      pieces.head? ≠ some mark := by
  cases h with
  | nil => exact absurd rfl hrow
  | @cons piece short _ _ =>
      refine ⟨rfl, ?_, hmark⟩
      have hfirst := skipped_le_length piece short
      rw [List.flatten_cons, List.length_append]
      omega
  | front front back pieces =>
      have hbeyond : ¬ front <+: mark := by
        intro hwithin
        exact hrow (terminated_of_front_of_mark delimiter hwithin)
      have hsame : mark.isPrefixOf (front ++ back) = mark.isPrefixOf front := by
        rw [Bool.eq_iff_iff, List.isPrefixOf_iff_prefix, List.isPrefixOf_iff_prefix]
        constructor
        · intro hwhole
          rcases List.prefix_or_prefix_of_prefix hwhole (List.prefix_append front back) with h | h
          · exact h
          · exact absurd h hbeyond
        · intro hfront
          exact hfront.trans (List.prefix_append front back)
      refine ⟨?_, ?_, ?_⟩
      · rw [skipped_cons, skipped_cons, hsame]
      · rw [List.flatten_cons, List.flatten_nil, List.append_nil]
        exact skipped_le_length front []
      · intro hall
        rw [List.head?_cons, Option.some.injEq] at hall
        exact hbeyond (hall ▸ List.prefix_append front back)

/-- The text of a cut is the front of the whole text. -/
theorem unmarked_of_cutOf (h : CutOf short pieces) (hrow : terminated delimiter short ≠ [])
    (hmark : short.head? ≠ some mark) : unmarked short <+: unmarked pieces := by
  obtain ⟨hskipped, hlength, -⟩ := skipped_of_cutOf h hrow hmark
  obtain ⟨rest, hrest⟩ := h.flatten_front
  refine ⟨rest, ?_⟩
  rw [unmarked_eq_drop, unmarked_eq_drop, ← hskipped, ← hrest,
    List.drop_append_of_le_length hlength]

/-- **What a cut leaves are the first rows, those that end before it.** -/
theorem terminated_of_cutOf (h : CutOf short pieces) (hrow : terminated delimiter short ≠ [])
    (hmark : short.head? ≠ some mark) :
    terminated delimiter short <+: terminated delimiter pieces ∧
      terminated delimiter short =
        (terminated delimiter pieces).filter (·.1 < short.flatten.length) := by
  obtain ⟨hskipped, hlength, -⟩ := skipped_of_cutOf h hrow hmark
  obtain ⟨rest, hrest⟩ := unmarked_of_cutOf h hrow hmark
  have hplace : skipped short + (unmarked short).length = short.flatten.length := by
    rw [unmarked_eq_drop, List.length_drop]
    omega
  unfold terminated
  rw [← hskipped, ← hrest]
  constructor
  · rw [RowState.endings_append]
    exact List.prefix_append _ _
  · rw [← hplace]
    exact RowState.endings_eq_filter delimiter .start (skipped short) (unmarked short) rest

end Cut

end BulkLoad.Delimited
