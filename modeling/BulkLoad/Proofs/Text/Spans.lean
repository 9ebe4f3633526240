import BulkLoad.Text.Blank
import Mathlib.Data.List.Basic
import Mathlib.Data.List.TakeWhile

/-!
Stretches of a list: where one stops, and lists that have none of them at an end.

A writer puts a stretch in front of something that cannot go on it; a reader that takes the longest
stretch then takes what was written. What is trimmed already stays as it is.
-/
namespace BulkLoad.Text

section Spans

variable {p : Char → Bool}

def Stops (p : Char → Bool) (rest : List Char) : Prop := ∀ c ∈ rest.head?, p c = false

theorem stops_nil : Stops p [] := by
  intro c hc
  cases hc

theorem stops_cons {c : Char} (h : p c = false) (rest : List Char) : Stops p (c :: rest) := by
  intro d hd
  cases hd
  exact h

theorem stops_mark {mark : String} (h : mark.toList.head?.map p = some false) (rest : List Char) :
    Stops p (mark.toList ++ rest) := by
  cases hmark : mark.toList with
  | nil => simp [hmark] at h
  | cons c cs => exact stops_cons (by simpa [hmark] using h) _

theorem span_append {w rest : List Char} (hw : ∀ c ∈ w, p c = true) (hr : Stops p rest) :
    (w ++ rest).takeWhile p = w ∧ (w ++ rest).dropWhile p = rest := by
  rw [List.takeWhile_append_of_pos hw, List.dropWhile_append_of_pos hw]
  cases rest with
  | nil => simp
  | cons c rest => simp [hr c rfl]

end Spans

section Trimmed

variable {α : Type} {p : α → Bool} {xs : List α}

theorem dropWhile_eq_self_iff_head? :
    xs.dropWhile p = xs ↔ ∀ x, xs.head? = some x → p x = false := by
  cases xs <;> simp [List.dropWhile_eq_self_iff]

theorem dropEndWhile_eq_self_iff :
    dropEndWhile p xs = xs ↔ ∀ x, xs.getLast? = some x → p x = false := by
  rw [dropEndWhile, List.reverse_eq_iff, dropWhile_eq_self_iff_head?, List.head?_reverse]

/-- A list is trimmed already if it has no blank at an end. -/
theorem trimBoth_eq_self_iff :
    trimBoth p xs = xs ↔
      (∀ x, xs.head? = some x → p x = false) ∧ ∀ x, xs.getLast? = some x → p x = false := by
  rw [← dropWhile_eq_self_iff_head?, ← dropEndWhile_eq_self_iff]
  constructor
  · intro h
    have hend : (trimBoth p xs).length ≤ (xs.dropWhile p).length := by
      rw [trimBoth, dropEndWhile, List.length_reverse]
      exact (List.length_dropWhile_le p _).trans_eq List.length_reverse
    rw [h] at hend
    have hfront : xs.dropWhile p = xs := (List.dropWhile_suffix p).eq_of_length_le hend
    rw [trimBoth, hfront] at h
    exact ⟨hfront, h⟩
  · rintro ⟨hfront, hend⟩
    rw [trimBoth, hfront, hend]

theorem trimBoth_of_plain (h : ∀ x ∈ xs, p x = false) : trimBoth p xs = xs :=
  trimBoth_eq_self_iff.mpr ⟨fun x hx => h x (List.mem_of_mem_head? hx),
    fun x hx => h x (List.mem_of_getLast? hx)⟩

theorem dropEndWhile_append (hlast : ∀ x, xs.getLast? = some x → p x = false) (ys : List α) :
    dropEndWhile p (xs ++ ys) = xs ++ dropEndWhile p ys := by
  have hkept : xs.reverse.dropWhile p = xs.reverse := by
    rw [dropWhile_eq_self_iff_head?, List.head?_reverse]
    exact hlast
  rw [dropEndWhile, dropEndWhile, List.reverse_append, List.dropWhile_append, hkept]
  split_ifs with hnone
  · simp [List.isEmpty_iff.mp hnone]
  · simp

/-- Behind a front without blanks at its ends only the end is trimmed. -/
theorem trimBoth_append (hne : xs ≠ []) (hfirst : xs.head?.any p = false)
    (hlast : xs.getLast?.any p = false) (ys : List α) :
    trimBoth p (xs ++ ys) = xs ++ dropEndWhile p ys := by
  have hkept : (xs ++ ys).dropWhile p = xs ++ ys := by
    rw [dropWhile_eq_self_iff_head?, List.head?_append_of_ne_nil xs hne]
    intro x hx
    rwa [hx] at hfirst
  have hend : ∀ x, xs.getLast? = some x → p x = false := by
    intro x hx
    rwa [hx] at hlast
  rw [trimBoth, hkept, dropEndWhile_append hend]

theorem trimBoth_blanks {front : List α} (h : ∀ x ∈ front, p x = true) (ys : List α) :
    trimBoth p (front ++ ys) = trimBoth p ys := by
  rw [trimBoth, trimBoth, List.dropWhile_append_of_pos h]

/-- Trimming the end leaves the blanks in front of what is left when both ends are trimmed. -/
theorem dropEndWhile_eq_append (p : α → Bool) (xs : List α) :
    ∃ front, (∀ x ∈ front, p x = true) ∧ dropEndWhile p xs = front ++ trimBoth p xs := by
  have hsplit : xs.takeWhile p ++ xs.dropWhile p = xs := List.takeWhile_append_dropWhile
  have hblank : ∀ x ∈ xs.takeWhile p, p x = true := fun x hx => List.mem_takeWhile_imp hx
  cases hrest : xs.dropWhile p with
  | nil =>
      refine ⟨[], by simp, ?_⟩
      have hall : ∀ x ∈ xs.reverse, p x = true := by
        rw [hrest, List.append_nil] at hsplit
        rw [hsplit] at hblank
        exact fun x hx => hblank x (List.mem_reverse.mp hx)
      rw [trimBoth, hrest, dropEndWhile, List.dropWhile_eq_nil_iff.mpr hall]
      rfl
  | cons x rest =>
      refine ⟨xs.takeWhile p, hblank, ?_⟩
      have hx : p x = false := by
        have hhead := List.head?_dropWhile_not p xs
        simpa [hrest] using hhead
      have hend : ∀ front : List α, ∀ y, (front ++ [x]).getLast? = some y → p y = false := by
        simpa using hx
      calc
        dropEndWhile p xs = dropEndWhile p ((xs.takeWhile p ++ [x]) ++ rest) := by
          rw [List.append_assoc, List.singleton_append, ← hrest, hsplit]
        _ = xs.takeWhile p ++ ([x] ++ dropEndWhile p rest) := by
          rw [dropEndWhile_append (hend _), List.append_assoc]
        _ = xs.takeWhile p ++ trimBoth p xs := by
          have hone : dropEndWhile p (x :: rest) = [x] ++ dropEndWhile p rest :=
            dropEndWhile_append (hend []) rest
          rw [trimBoth, hrest, hone]

/-- What is left of a list when the stretches at both ends are taken off. -/
structure Trims (p : α → Bool) (xs core : List α) : Prop where
  around : ∃ front back, (∀ x ∈ front, p x = true) ∧ (∀ x ∈ back, p x = true) ∧
    xs = front ++ core ++ back
  first : ∀ x, core.head? = some x → p x = false
  last : ∀ x, core.getLast? = some x → p x = false

theorem dropEndWhile_append_blanks (p : α → Bool) (xs : List α) :
    ∃ back, (∀ x ∈ back, p x = true) ∧ xs = dropEndWhile p xs ++ back := by
  refine ⟨(xs.reverse.takeWhile p).reverse, ?_, ?_⟩
  · intro x hx
    exact List.mem_takeWhile_imp (List.mem_reverse.mp hx)
  · rw [dropEndWhile, ← List.reverse_append, List.takeWhile_append_dropWhile,
      List.reverse_reverse]

theorem trims_trimBoth (p : α → Bool) (xs : List α) : Trims p xs (trimBoth p xs) := by
  obtain ⟨back, hback, hend⟩ := dropEndWhile_append_blanks p (xs.dropWhile p)
  refine ⟨⟨xs.takeWhile p, back, fun x hx => List.mem_takeWhile_imp hx, hback, ?_⟩, ?_, ?_⟩
  · rw [trimBoth, List.append_assoc, ← hend, List.takeWhile_append_dropWhile]
  · intro x hx
    have hhead := List.head?_dropWhile_not p xs
    rw [hend, List.head?_append, ← trimBoth, hx] at hhead
    exact hhead
  · intro x hx
    have hne : trimBoth p xs ≠ [] := by
      intro hnil
      rw [hnil] at hx
      cases hx
    rw [List.getLast?_eq_some_getLast hne, Option.some.injEq] at hx
    rw [← hx]
    exact getLast_dropEndWhile p _ hne

theorem trimBoth_of_trims {core : List α} (h : Trims p xs core) : trimBoth p xs = core := by
  obtain ⟨front, back, hfront, hback, rfl⟩ := h.around
  have hnone : dropEndWhile p back = [] := by
    rw [dropEndWhile, List.dropWhile_eq_nil_iff.mpr]
    · rfl
    · exact fun x hx => hback x (List.mem_reverse.mp hx)
  rw [List.append_assoc, trimBoth_blanks hfront]
  by_cases hne : core = []
  · rw [hne, List.nil_append, trimBoth, List.dropWhile_eq_nil_iff.mpr hback]
    rfl
  · have hfirst : core.head?.any p = false := by simpa [Option.any_eq_false] using h.first
    have hlast : core.getLast?.any p = false := by simpa [Option.any_eq_false] using h.last
    rw [trimBoth_append hne hfirst hlast, hnone, List.append_nil]

theorem trimBoth_eq_iff {core : List α} : trimBoth p xs = core ↔ Trims p xs core := by
  constructor
  · rintro rfl
    exact trims_trimBoth p xs
  · exact trimBoth_of_trims

theorem trimBoth_eq_nil_iff : trimBoth p xs = [] ↔ xs.all p = true := by
  rw [trimBoth_eq_iff, List.all_eq_true]
  constructor
  · intro h
    obtain ⟨front, back, hfront, hback, rfl⟩ := h.around
    intro x hx
    rw [List.append_nil, List.mem_append] at hx
    exact hx.elim (hfront x) (hback x)
  · intro h
    exact ⟨⟨xs, [], h, by simp, by simp⟩, by simp, by simp⟩

end Trimmed

end BulkLoad.Text
