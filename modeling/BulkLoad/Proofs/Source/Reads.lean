import BulkLoad.Source.Intake
import Mathlib.Data.List.Basic

/-!
How many reads an input takes.

A wait that has come to its end is not changed by more reads. Only a read that gives bytes may be
followed by another, at a later place; so an input that gives nothing from some place on is read to
its end.
-/
namespace BulkLoad

/-- A wait to which more reads make no difference once it is over. -/
def Lasting {α : Type} (wait : Nat → Option α) : Prop :=
  ∀ reads result, wait reads = some result → wait (reads + 1) = some result

namespace Lasting

variable {α β : Type} {wait : Nat → Option α}

theorem add (h : Lasting wait) {reads : Nat} {result : α} (hresult : wait reads = some result)
    (more : Nat) : wait (reads + more) = some result := by
  induction more with
  | zero => exact hresult
  | succ more ih => exact h _ _ ih

theorem unique (h : Lasting wait) {reads reads' : Nat} {x y : α} (hx : wait reads = some x)
    (hy : wait reads' = some y) : x = y := by
  have hsame := (h.add hx reads').symm.trans (Nat.add_comm reads reads' ▸ h.add hy reads)
  exact Option.some.inj hsame

theorem map (h : Lasting wait) (f : α → β) : Lasting fun reads => (wait reads).map f := by
  intro reads result hresult
  obtain ⟨x, hx, rfl⟩ := Option.map_eq_some_iff.mp hresult
  exact Option.map_eq_some_iff.mpr ⟨x, h reads x hx, rfl⟩

end Lasting

/-- Reads that give no byte from a place on. -/
def Stream.EndsBy (read : Nat → Stream.Answer) (bound : Nat) : Prop :=
  ∀ position, bound ≤ position → ∀ b rest, read position ≠ .ok (b :: rest)

theorem Stream.EndsBy.mono {read : Nat → Stream.Answer} {bound more : Nat}
    (h : Stream.EndsBy read bound) (hmore : bound ≤ more) : Stream.EndsBy read more :=
  fun position hpast => h position (Nat.le_trans hmore hpast)

variable [Encoding.EastAsian.Decoders]

namespace Intake

variable {read : Nat → Stream.Answer}

theorem isRunning_iff (i : Intake) : i.isRunning = true ↔ i.inflow = .running := by
  unfold isRunning
  cases i.inflow <;> simp

theorem takeText_position (i : Intake) (text : List UInt8) :
    (i.takeText text).1.position = i.position := by
  unfold takeText
  split_ifs <;> rfl

theorem take_position (i : Intake) (b : UInt8) (rest : List UInt8) :
    (i.take (.ok (b :: rest))).1.position = i.position + (b :: rest).length := by
  simp only [take, takeBlock]
  cases i.encoding with
  | utf8 => exact takeText_position _ _
  | utf16 _ | codePage _ | eastAsian _ | replacement | userDefined => exact takeText_position _ _

theorem close_settled (i : Intake) : i.close.1.isRunning = false := by
  obtain ⟨encoding, delimiter, decoder, begun, row, position, inflow⟩ := i
  cases inflow <;> rfl

theorem takeEnd_settled (i : Intake) : i.takeEnd.1.isRunning = false := by
  unfold takeEnd
  cases i.encoding with
  | utf8 => exact close_settled i
  | utf16 _ | codePage _ | eastAsian _ | replacement | userDefined => exact close_settled _

/-- Only a read that gives bytes may be followed by another, at a later place. -/
theorem take_running (i : Intake) {answer : Stream.Answer}
    (h : (i.take answer).1.isRunning = true) :
    (∃ b rest, answer = .ok (b :: rest)) ∧ i.position < (i.take answer).1.position := by
  match answer with
  | .error _ => cases h
  | .ok [] =>
      have hsettled : (i.take (.ok [])).1.isRunning = false := i.takeEnd_settled
      cases hsettled.symm.trans h
  | .ok (b :: rest) =>
      refine ⟨⟨b, rest, rfl⟩, ?_⟩
      rw [take_position, List.length_cons]
      omega

/-- Before the last place that gives a byte there is so much less to read. -/
theorem take_before {bound : Nat} (hend : Stream.EndsBy read bound) (i : Intake)
    (h : (i.take (read i.position)).1.isRunning = true) :
    i.position < bound ∧ i.position < (i.take (read i.position)).1.position := by
  obtain ⟨⟨b, rest, hread⟩, hplace⟩ := i.take_running h
  refine ⟨?_, hplace⟩
  by_contra hpast
  exact hend i.position (Nat.le_of_not_lt hpast) b rest hread

theorem await_settled {i : Intake} (h : i.isRunning = false) (reads : Nat) :
    await read reads i = some (i, []) := by
  unfold await
  simp only [h, Bool.false_eq_true, if_false]

theorem await_running {i : Intake} (h : i.isRunning = true) (reads : Nat) :
    await read (reads + 1) i =
      match i.take (read i.position) with
      | (next, []) => await read reads next
      | (next, rows) => some (next, rows) :=
  if_pos h

theorem await_lasting (i : Intake) : Lasting fun reads => await read reads i := by
  intro reads
  induction reads generalizing i with
  | zero =>
      intro result h
      cases hflow : i.isRunning with
      | true =>
          simp only [await, hflow, if_true, reduceCtorEq] at h
      | false =>
          simp only [await_settled hflow] at h ⊢
          exact h
  | succ reads ih =>
      intro result h
      cases hflow : i.isRunning with
      | true =>
          simp only [await_running hflow] at h ⊢
          generalize i.take (read i.position) = taken at h ⊢
          obtain ⟨next, _ | ⟨row, rows⟩⟩ := taken
          · exact ih next result h
          · exact h
      | false =>
          simp only [await_settled hflow] at h ⊢
          exact h

end Intake

namespace OpenSource

variable {read : Nat → Stream.Answer}

theorem ofReads_lasting (options : SourceOptions) : Lasting (ofReads options read) := by
  intro reads result h
  unfold ofReads at h ⊢
  split at h
  · exact h
  · exact h
  · split at h
    · exact h
    · split at h
      · exact (Intake.await_lasting _).map _ reads result h
      · exact h

def records (s : OpenSource) : List Record := s.rows.map (Source.recordUnder s.info.headers)

def soFar (s : OpenSource) : Source := ⟨s.info, s.rows, s.intake.failure?⟩

theorem items_soFar (s : OpenSource) : s.soFar.items = s.items := by
  unfold Source.items OpenSource.items Source.records
  rw [List.map_map]
  rfl

section ReadOut

variable (read)

theorem readOut_of_settled {s : OpenSource} (h : s.intake.isRunning = false) (reads : Nat)
    (done : List (List Delimited.Row)) :
    s.readOut read reads done =
      some ⟨s.info, (s.rows :: done).reverse.flatten, s.intake.failure?⟩ := by
  unfold readOut
  simp only [h, Bool.false_eq_true, if_false]

theorem readOut_zero {s : OpenSource} (h : s.intake.isRunning = true)
    (done : List (List Delimited.Row)) : s.readOut read 0 done = none := by
  unfold readOut
  simp only [h, if_true]

theorem readOut_step {s : OpenSource} (h : s.intake.isRunning = true) (reads : Nat)
    (done : List (List Delimited.Row)) :
    s.readOut read (reads + 1) done =
      (s.advance (read s.intake.position)).readOut read reads (s.rows :: done) := by
  rw [readOut, if_pos h]

/-- The rows of earlier rounds come first, and have no other part. -/
theorem readOut_onto (reads : Nat) (s : OpenSource) (done : List (List Delimited.Row)) :
    s.readOut read reads done =
      (s.readOut read reads []).map fun rest =>
        { rest with rows := done.reverse.flatten ++ rest.rows } := by
  have hrows (rows : List Delimited.Row) (done : List (List Delimited.Row)) :
      (rows :: done).reverse.flatten = done.reverse.flatten ++ rows := by
    rw [List.reverse_cons, List.flatten_append, List.flatten_singleton]
  induction reads generalizing s done with
  | zero =>
      cases hflow : s.intake.isRunning with
      | true => rw [readOut_zero read hflow, readOut_zero read hflow]; rfl
      | false =>
          simp only [readOut_of_settled read hflow, Option.map_some, hrows, List.reverse_nil,
            List.flatten_nil, List.nil_append]
  | succ reads ih =>
      cases hflow : s.intake.isRunning with
      | true =>
          rw [readOut_step read hflow, readOut_step read hflow, ih _ (s.rows :: done),
            ih _ [s.rows], Option.map_map]
          simp only [Function.comp_def, hrows, List.reverse_nil, List.flatten_nil, List.nil_append,
            List.append_assoc]
      | false =>
          simp only [readOut_of_settled read hflow, Option.map_some, hrows, List.reverse_nil,
            List.flatten_nil, List.nil_append]

theorem readOut_running {s : OpenSource} (h : s.intake.isRunning = true) (reads : Nat) :
    s.readOut read (reads + 1) [] =
      ((s.advance (read s.intake.position)).readOut read reads []).map fun rest =>
        { rest with rows := s.rows ++ rest.rows } := by
  rw [readOut_step read h, readOut_onto]
  simp only [List.reverse_singleton, List.flatten_singleton]

theorem readOut_settled {s : OpenSource} (h : s.intake.isRunning = false) (reads : Nat) :
    s.readOut read reads [] = some s.soFar := by
  rw [readOut_of_settled read h, List.reverse_singleton, List.flatten_singleton]
  rfl

/-- A source read out has the records that are there and those of what is still to come. -/
theorem readOut_eq_some {reads : Nat} {s : OpenSource} {whole : Source}
    (h : s.readOut read reads [] = some whole) :
    whole.info = s.info ∧
      (s.intake.isRunning = false ∧ whole = s.soFar ∨
        s.intake.isRunning = true ∧ ∃ before rest, reads = before + 1 ∧
          (s.advance (read s.intake.position)).readOut read before [] = some rest ∧
          whole.items = s.records.map .ok ++ rest.items) := by
  induction reads generalizing s whole with
  | zero =>
      cases hflow : s.intake.isRunning with
      | true => simp only [readOut_zero read hflow, reduceCtorEq] at h
      | false =>
          rw [readOut_settled read hflow, Option.some.injEq] at h
          subst h
          exact ⟨rfl, .inl ⟨rfl, rfl⟩⟩
  | succ reads ih =>
      cases hflow : s.intake.isRunning with
      | true =>
          rw [readOut_running read hflow] at h
          obtain ⟨rest, hrest, rfl⟩ := Option.map_eq_some_iff.mp h
          have hinfo : rest.info = s.info := (ih hrest).1
          refine ⟨hinfo, .inr ⟨rfl, reads, rest, rfl, hrest, ?_⟩⟩
          simp only [Source.items, Source.records, Source.fault?, hinfo, records, List.map_append,
            List.append_assoc]
      | false =>
          rw [readOut_settled read hflow, Option.some.injEq] at h
          subst h
          exact ⟨rfl, .inl ⟨rfl, rfl⟩⟩

end ReadOut

end OpenSource

end BulkLoad
