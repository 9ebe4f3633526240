import BulkLoad.Stream.Reader
import Mathlib.Data.List.Basic

/-!
What arrives from a reader whose reads are never empty before the end.

Without a break the pieces are the content, cut somewhere. A break lets the same pieces arrive up to
some byte: of the piece in which the break falls the front arrives, and nothing after it.
-/
namespace BulkLoad.Stream

/-- The first pieces of a list, the last of them perhaps cut short. -/
inductive CutOf : List (List UInt8) → List (List UInt8) → Prop where
  | nil (pieces : List (List UInt8)) : CutOf [] pieces
  | front (front back : List UInt8) (pieces : List (List UInt8)) :
      CutOf [front] ((front ++ back) :: pieces)
  | cons (piece : List UInt8) {short pieces : List (List UInt8)} :
      CutOf short pieces → CutOf (piece :: short) (piece :: pieces)

theorem CutOf.flatten_front {short pieces : List (List UInt8)} (h : CutOf short pieces) :
    short.flatten <+: pieces.flatten := by
  induction h with
  | nil pieces => exact List.nil_prefix
  | front front back pieces =>
      refine ⟨back ++ pieces.flatten, ?_⟩
      simp
  | cons piece _ ih =>
      obtain ⟨rest, hrest⟩ := ih
      refine ⟨rest, ?_⟩
      rw [List.flatten_cons, List.flatten_cons, List.append_assoc, hrest]

theorem CutOf.ne_nil {short pieces : List (List UInt8)} (h : CutOf short pieces)
    (hshort : short ≠ []) : pieces ≠ [] := by
  cases h with
  | nil => exact absurd rfl hshort
  | front | cons => exact List.cons_ne_nil _ _

theorem Feed.cons_of_ne_nil {piece : List UInt8} (h : piece ≠ []) (f : Feed) :
    f.cons piece = ⟨piece :: f.pieces, f.failure⟩ := by
  cases piece with
  | nil => exact absurd rfl h
  | cons b rest => rfl

@[simp] theorem Feed.cons_nil (f : Feed) : f.cons [] = f := rfl

@[simp] theorem Feed.cons_bytes (piece : List UInt8) (f : Feed) :
    (f.cons piece).bytes = piece ++ f.bytes := by
  cases piece <;> rfl

@[simp] theorem Feed.cons_failure (piece : List UInt8) (f : Feed) :
    (f.cons piece).failure = f.failure := by
  cases piece <;> rfl

theorem CutOf.feedCons {f g : Feed} (h : CutOf f.pieces g.pieces) (piece : List UInt8) :
    CutOf (f.cons piece).pieces (g.cons piece).pieces := by
  cases piece with
  | nil => exact h
  | cons b rest => exact .cons (b :: rest) h

theorem take_ne_nil {bytes : List UInt8} {n : Nat} (hpos : 0 < n) (h : bytes ≠ []) :
    bytes.take n ≠ [] := by
  rw [ne_eq, List.take_eq_nil_iff, not_or]
  exact ⟨Nat.pos_iff_ne_zero.mp hpos, h⟩

namespace Reader

def Prompt (r : Reader) : Prop := ∀ size ∈ r.sizes, 0 < size

theorem Prompt.advance {r : Reader} (h : r.Prompt) (n : Nat) : (r.advance n).Prompt := by
  intro size hmem
  apply h size
  change size ∈ laterSizes r.sizes at hmem
  unfold laterSizes at hmem
  split at hmem
  · rename_i heq
    rw [heq]
    exact List.mem_cons_of_mem _ hmem
  · exact hmem

def scheduled (r : Reader) (room : Nat) : Nat := (r.sizes.head?.map (min room)).getD room

theorem Prompt.scheduled_pos {r : Reader} (h : r.Prompt) {room : Nat} (hroom : 0 < room) :
    0 < r.scheduled room := by
  unfold scheduled
  cases hsizes : r.sizes with
  | nil => exact hroom
  | cons size later =>
      have hsize := h size (by rw [hsizes]; exact List.mem_cons_self)
      exact Nat.lt_min.mpr ⟨hroom, hsize⟩

def unbroken (r : Reader) : Reader := { r with fault := none }

/-- No piece of a feed is empty. -/
theorem feedWithin_ne_nil (room reads : Nat) (r : Reader) :
    ∀ piece ∈ (feedWithin room reads r).pieces, piece ≠ [] := by
  induction reads generalizing r with
  | zero => simp [feedWithin]
  | succ reads ih =>
      rw [feedWithin]
      rcases r.read room with ⟨message | (_ | ⟨b, bytes⟩), next⟩
      · simp
      · simp
      · exact List.forall_mem_cons.mpr ⟨List.cons_ne_nil b bytes, ih next⟩

theorem feed_ne_nil (r : Reader) (room : Nat) : ∀ piece ∈ (r.feed room).pieces, piece ≠ [] :=
  feedWithin_ne_nil room _ r

theorem feedWithin_of_failure {r : Reader} {message : String} (h : r.failure? = some message)
    (room reads : Nat) : feedWithin room (reads + 1) r = ⟨[], some message⟩ := by
  simp only [feedWithin, read, h]

theorem feedWithin_of_rest_nil {r : Reader} (h : r.failure? = none) (hrest : r.rest = [])
    (room reads : Nat) : feedWithin room (reads + 1) r = ⟨[], none⟩ := by
  simp only [feedWithin, read, h, hrest, List.take_nil]

/-- A read that hands out bytes is the first piece; the rest is what arrives after it. -/
theorem feedWithin_of_take {r : Reader} (h : r.failure? = none) {n room : Nat}
    (hn : r.allowance room = n) (hpos : 0 < n) (hrest : r.rest ≠ []) (reads : Nat) :
    feedWithin room (reads + 1) r =
      (feedWithin room reads (r.advance (r.rest.take n).length)).cons (r.rest.take n) := by
  have hread : r.read room = (.ok (r.rest.take n), r.advance (r.rest.take n).length) := by
    simp only [read, h, hn]
  obtain ⟨b, bytes, hbytes⟩ := List.exists_cons_of_ne_nil (take_ne_nil hpos hrest)
  simp only [feedWithin, hread, hbytes]

theorem rest_advance_take (r : Reader) (n : Nat) :
    (r.advance (r.rest.take n).length).rest = r.rest.drop n := by
  rw [advance, List.length_take]
  exact List.drop_eq_drop_min.symm

theorem length_rest_advance {r : Reader} {n : Nat} (hpos : 0 < n) (hrest : r.rest ≠ []) :
    (r.advance (r.rest.take n).length).rest.length < r.rest.length := by
  have hlength := List.length_pos_iff.mpr hrest
  rw [rest_advance_take, List.length_drop]
  omega

/-- Without a break the pieces are the content. -/
theorem feedWithin_of_sound {room : Nat} (hroom : 0 < room) (reads : Nat) (r : Reader)
    (hprompt : r.Prompt) (hsound : r.fault = none) (hreads : r.rest.length < reads) :
    (feedWithin room reads r).failure = none ∧ (feedWithin room reads r).bytes = r.rest := by
  have hnever : r.failure? = none := by simp only [failure?, hsound]
  induction reads generalizing r with
  | zero => exact absurd hreads (Nat.not_lt_zero _)
  | succ reads ih =>
      by_cases hrest : r.rest = []
      · rw [feedWithin_of_rest_nil hnever hrest, hrest]
        exact ⟨rfl, rfl⟩
      · have hpos := hprompt.scheduled_pos hroom
        have hn : r.allowance room = r.scheduled room := by
          simp only [allowance, scheduled, hsound]
        have hless := length_rest_advance hpos hrest
        obtain ⟨hfailure, hbytes⟩ :=
          ih (r.advance (r.rest.take (r.scheduled room)).length) (hprompt.advance _) hsound
            (by omega) (by simp only [failure?, advance, hsound])
        rw [feedWithin_of_take hnever hn hpos hrest]
        refine ⟨?_, ?_⟩
        · rw [Feed.cons_failure, hfailure]
        · rw [Feed.cons_bytes, hbytes, rest_advance_take, List.take_append_drop]

section Broken

variable {r : Reader} {fault : Break} (hfault : r.fault = some fault)
include hfault

theorem feedWithin_at_break (hnow : fault.after ≤ r.delivered) (room reads : Nat) :
    feedWithin room (reads + 1) r = ⟨[], some fault.message⟩ := by
  apply feedWithin_of_failure
  simp only [failure?, hfault, if_pos hnow]

variable (hlater : r.delivered < fault.after) (hrest : r.rest ≠ [])
include hlater hrest

theorem feedWithin_before_break {room : Nat} (hpos : 0 < r.scheduled room)
    (h : r.scheduled room ≤ fault.after - r.delivered) (reads : Nat) :
    feedWithin room (reads + 1) r =
      (feedWithin room reads (r.advance (r.rest.take (r.scheduled room)).length)).cons
        (r.rest.take (r.scheduled room)) := by
  apply feedWithin_of_take _ _ hpos hrest
  · simp only [failure?, hfault, if_neg (Nat.not_le.mpr hlater)]
  · simp only [allowance, hfault]
    exact Nat.min_eq_left h

/-- A read over the place of the break stops there, and the next one fails. -/
theorem feedWithin_over_break {room : Nat} (hwithin : fault.after ≤ r.delivered + r.rest.length)
    (h : fault.after - r.delivered < r.scheduled room) (reads : Nat) :
    feedWithin room (reads + 2) r =
      ⟨[r.rest.take (fault.after - r.delivered)], some fault.message⟩ := by
  have hpos : 0 < fault.after - r.delivered := Nat.sub_pos_of_lt hlater
  have hlength : (r.rest.take (fault.after - r.delivered)).length = fault.after - r.delivered := by
    rw [List.length_take]
    omega
  have hnext : feedWithin room (reads + 1)
      (r.advance (r.rest.take (fault.after - r.delivered)).length) = ⟨[], some fault.message⟩ := by
    apply feedWithin_at_break (r := r.advance _) hfault
    rw [hlength]
    change fault.after ≤ r.delivered + (fault.after - r.delivered)
    omega
  rw [feedWithin_of_take _ _ hpos hrest, hnext, Feed.cons_of_ne_nil (take_ne_nil hpos hrest)]
  · simp only [failure?, hfault, if_neg (Nat.not_le.mpr hlater)]
  · simp only [allowance, hfault]
    exact Nat.min_eq_right (Nat.le_of_lt h)

end Broken

theorem feedWithin_unbroken {r : Reader} {room : Nat} (hpos : 0 < r.scheduled room)
    (hrest : r.rest ≠ []) (reads : Nat) :
    feedWithin room (reads + 1) r.unbroken =
      (feedWithin room reads (r.advance (r.rest.take (r.scheduled room)).length).unbroken).cons
        (r.rest.take (r.scheduled room)) :=
  feedWithin_of_take (r := r.unbroken) rfl rfl hpos hrest reads

/-- A break lets the content arrive up to its place, in the pieces that arrive without it. -/
theorem feedWithin_of_break {room : Nat} (hroom : 0 < room) {fault : Break} (reads : Nat)
    (r : Reader) (hprompt : r.Prompt) (hfault : r.fault = some fault)
    (hwithin : fault.after ≤ r.delivered + r.rest.length) (hreads : r.rest.length < reads) :
    (feedWithin room reads r).failure = some fault.message ∧
      (feedWithin room reads r).bytes = r.rest.take (fault.after - r.delivered) ∧
      CutOf (feedWithin room reads r).pieces (feedWithin room reads r.unbroken).pieces := by
  induction reads generalizing r with
  | zero => exact absurd hreads (Nat.not_lt_zero _)
  | succ reads ih =>
      -- The break is here, inside what the next read may return, or beyond it.
      rcases Nat.lt_or_ge r.delivered fault.after with hlater | hnow
      · have hrest : r.rest ≠ [] := by
          rintro hempty
          rw [hempty, List.length_nil] at hwithin
          omega
        have hpos := hprompt.scheduled_pos hroom
        rw [feedWithin_unbroken hpos hrest]
        rcases Nat.lt_or_ge (fault.after - r.delivered) (r.scheduled room) with hover | hbefore
        · obtain ⟨more, rfl⟩ : ∃ more, reads = more + 1 := by
            have := List.length_pos_iff.mpr hrest
            exact Nat.exists_eq_succ_of_ne_zero (by omega)
          have hsplit : r.rest.take (r.scheduled room) =
              r.rest.take (fault.after - r.delivered) ++
                (r.rest.drop (fault.after - r.delivered)).take
                  (r.scheduled room - (fault.after - r.delivered)) := by
            rw [← List.take_add, Nat.add_sub_cancel' (Nat.le_of_lt hover)]
          rw [feedWithin_over_break hfault hlater hrest hwithin hover,
            Feed.cons_of_ne_nil (take_ne_nil hpos hrest), hsplit]
          exact ⟨rfl, List.append_nil _, .front _ _ _⟩
        · have hless := length_rest_advance hpos hrest
          have hlength : (r.rest.take (r.scheduled room)).length = r.scheduled room := by
            rw [List.length_take]
            omega
          obtain ⟨hfailure, hbytes, hcut⟩ :=
            ih (r.advance (r.rest.take (r.scheduled room)).length) (hprompt.advance _) hfault
              (by
                rw [rest_advance_take, hlength, List.length_drop]
                change fault.after ≤ r.delivered + _ + _
                omega)
              (by omega)
          rw [feedWithin_before_break hfault hlater hrest hpos hbefore]
          refine ⟨?_, ?_, hcut.feedCons _⟩
          · rw [Feed.cons_failure, hfailure]
          · rw [Feed.cons_bytes, hbytes, rest_advance_take, hlength]
            change _ ++ (r.rest.drop _).take (fault.after - (r.delivered + r.scheduled room)) = _
            rw [← Nat.sub_sub, ← List.take_add, Nat.add_sub_cancel' hbefore]
      · rw [feedWithin_at_break hfault hnow, Nat.sub_eq_zero_of_le hnow, List.take_zero]
        exact ⟨rfl, rfl, .nil _⟩

theorem feed_of_sound {room : Nat} (hroom : 0 < room) {r : Reader} (hprompt : r.Prompt)
    (hsound : r.fault = none) :
    (r.feed room).failure = none ∧ (r.feed room).bytes = r.rest ∧
      ∀ piece ∈ (r.feed room).pieces, piece ≠ [] := by
  obtain ⟨hfailure, hbytes⟩ := feedWithin_of_sound hroom _ r hprompt hsound (Nat.lt_succ_self _)
  exact ⟨hfailure, hbytes, r.feed_ne_nil room⟩

theorem feed_of_break {room : Nat} (hroom : 0 < room) {r : Reader} (hprompt : r.Prompt)
    {fault : Break} (hfault : r.fault = some fault)
    (hwithin : fault.after ≤ r.delivered + r.rest.length) :
    (r.feed room).failure = some fault.message ∧
      (r.feed room).bytes = r.rest.take (fault.after - r.delivered) ∧
      CutOf (r.feed room).pieces (r.unbroken.feed room).pieces :=
  feedWithin_of_break hroom _ r hprompt hfault hwithin (Nat.lt_succ_self _)

end Reader

end BulkLoad.Stream
